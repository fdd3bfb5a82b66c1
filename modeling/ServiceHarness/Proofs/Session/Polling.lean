import ServiceHarness.Proofs.Session.Doing
import ServiceHarness.StopSignal

/-!
# How a suspension is polled

A suspended session waits for the signal and for its time at once.  Whatever wakes it, it looks at
the signal first and at the time then; what wakes it is its time, and whatever the sender of the
signal does, be it that the sender goes.  One who watches a signal whose sender has gone without
raising it sees it closed, and has nothing to wait for any more (`Vigil`).  `Session.polling`
goes through these moments one by one, and `suspend_eq_polling` says that a suspension is just
that.
-/

namespace ServiceHarness

variable {σ α : Type} {c : Controls} {limit : Option Nat} {w : World σ}

/-! ### The signal of a run -/

/-- The signal at an instant, which may have been raised before by a port. -/
def Controls.signal (c : Controls) (raised : Bool) (t : Nat) : StopSignal :=
  match c.sender with
  | .silent => { raised := raised }
  | .raises u => { raised := raised || decide (u ≤ t) }
  | .lost u => { raised := raised, senderAlive := decide (t < u) }

/-- The instant at which the sender does something. -/
def SenderFate.instant? : SenderFate → Option Nat
  | .silent => none
  | .raises t => some t
  | .lost t => some t

namespace Session

/-! ### Moments of a suspension -/

/-- The moments at which a suspension is woken: at once, when the sender does something, and when
its time is over. -/
def wakings (c : Controls) (now : Nat) (limit : Option Nat) : List Nat :=
  now :: (c.sender.instant?.filter fun t => decide (now < t) && limit.all (t ≤ ·)).toList
    ++ limit.toList

/-- The caller drops the run. -/
def outlast (c : Controls) : Session σ α := do
  modify fun w => { w with now := max w.now c.dropAt }
  throw .dropped

/-- Waits for the signal and for the time to be over, through the moments at which something wakes
it.  After them nothing does, until the caller drops the run. -/
def polling (c : Controls) (limit : Option Nat) : Vigil → List Nat → Session σ Wake
  | _, [] => outlast c
  | v, t :: later => do
    if c.dropAt < t then outlast c
    else
      let w ← get
      set { w with now := t }
      let (found, v) := v.poll (c.signal w.raised t)
      if found = .ready then
        modify World.trip
        return .raised
      else if limit.any (· ≤ t) then return .elapsed
      else polling c limit v later

/-- How a suspension ends while the signal is not raised. -/
def lapse (c : Controls) (limit : Option Nat) (w : World σ) :
    EStateM.Result Cut (World σ) Wake :=
  match limit with
  | some t =>
    if t ≤ c.dropAt then .ok .elapsed { w with now := t }
    else .error .dropped { w with now := max w.now c.dropAt }
  | none => .error .dropped { w with now := max w.now c.dropAt }

theorem run_suspend_of_raised (millis : Option Nat) (h : w.raised = true) :
  (suspend c millis).run w = .ok .raised w
  := by
  simp only [suspend, EStateM.run_bind, EStateM.run_get]
  rw [if_pos h]
  rfl

theorem run_suspend (millis : Option Nat) (h : w.raised = false) :
  (suspend c millis).run w = match raisedBy c (millis.map (w.now + ·)) with
    | some t => .ok .raised { w with now := max w.now t }.trip
    | none => lapse c (millis.map (w.now + ·)) w
  := by
  simp only [suspend, EStateM.run_bind, EStateM.run_get]
  rw [if_neg (by simp [h])]
  cases raisedBy c (millis.map (w.now + ·)) with
  | some t => rfl
  | none =>
    cases millis.map (w.now + ·) with
    | none => rfl
    | some t =>
      dsimp only [lapse]
      split
      · rfl
      · rfl

/-- The run is dropped before it is woken. -/
theorem run_polling_late {t : Nat} (h : c.dropAt < t) (v : Vigil) (later : List Nat) :
  (polling c limit v (t :: later)).run w
    = .error .dropped { w with now := max w.now c.dropAt }
  := by
  rw [polling, if_pos h]
  rfl

/-- It is woken and finds the signal raised. -/
theorem run_polling_raised {t : Nat} (ht : t ≤ c.dropAt) (h : (c.signal w.raised t).raised = true)
    (later : List Nat) :
  (polling c limit .watching (t :: later)).run w = .ok .raised { w with now := t }.trip
  := by
  have hready : (Vigil.poll (c.signal w.raised t) .watching).1 = .ready := by
    rw [Vigil.poll_watching, h]
    rfl
  rw [polling, if_neg (by omega)]
  simp only [EStateM.run_bind, EStateM.run_get, EStateM.run_set]
  rw [if_pos hready]
  rfl

/-- It is woken and finds the signal not raised. -/
theorem run_polling_calm {t : Nat} (ht : t ≤ c.dropAt) (h : (c.signal w.raised t).raised = false)
    (v : Vigil) (later : List Nat) :
  (polling c limit v (t :: later)).run w
    = if limit.any (· ≤ t) then .ok .elapsed { w with now := t }
      else (polling c limit (v.poll (c.signal w.raised t)).2 later).run { w with now := t }
  := by
  have hpending : (v.poll (c.signal w.raised t)).1 ≠ .ready := by
    rw [Vigil.poll_of_not_raised h]
    decide
  rw [polling, if_neg (by omega)]
  simp only [EStateM.run_bind, EStateM.run_get, EStateM.run_set]
  rw [if_neg hpending]
  split
  · rfl
  · rfl

/-- Where the signal is not raised from outside it is found not raised, at every moment at which the
suspension may be woken. -/
theorem signal_calm (hnone : raisedBy c limit = none) {t : Nat} (ht : t ≤ c.dropAt)
    (hlimit : limit.all (t ≤ ·) = true) :
  (c.signal false t).raised = false
  := by
  rw [Controls.signal]
  split
  case h_1 => rfl
  case h_2 u hsender =>
    change decide (u ≤ t) = false
    rw [decide_eq_false_iff_not]
    intro hu
    -- the sender would raise it no later than the limit
    obtain ⟨l, rfl, hl⟩ := raisedBy_eq_none hnone hsender (Nat.le_trans hu ht)
    have htl : t ≤ l := by simpa using hlimit
    omega
  case h_3 => rfl

/-- Where the signal is not raised from outside, it does not matter by what else a suspension is
woken before its time is over. -/
theorem run_polling_lapse (hnone : raisedBy c limit = none) :
    ∀ (ts : List Nat) (v : Vigil) (w : World σ), w.raised = false → w.now ≤ c.dropAt →
      (∀ t ∈ ts, limit.all (t ≤ ·) = true) →
      (polling c limit v (ts ++ limit.toList)).run w = lapse c limit w
  | [], v, w, hraised, hdrop, _ => by
    cases limit with
    | none => rfl
    | some l =>
      rw [lapse]
      change (polling c (some l) v [l]).run w = _
      split
      case isTrue hl =>
        rw [run_polling_calm hl (by rw [hraised]; exact signal_calm hnone hl (by simp)),
          if_pos (by simp)]
      case isFalse hl => rw [run_polling_late (by omega)]
  | t :: later, v, w, hraised, hdrop, hts => by
    have ht : limit.all (t ≤ ·) = true := hts t List.mem_cons_self
    rw [List.cons_append]
    by_cases hlate : c.dropAt < t
    · rw [run_polling_late hlate]
      cases limit with
      | none => rfl
      | some l =>
        have hl : t ≤ l := by simpa using ht
        rw [lapse, if_neg (by omega)]
    · have hsoon : t ≤ c.dropAt := by omega
      rw [run_polling_calm hsoon (by rw [hraised]; exact signal_calm hnone hsoon ht)]
      split
      case isTrue hover =>
        -- the time is just over
        cases limit with
        | none => cases hover
        | some l =>
          obtain rfl : t = l := by
            have hle : t ≤ l := by simpa using ht
            have hge : l ≤ t := by simpa using hover
            omega
          rw [lapse, if_pos hsoon]
      case isFalse hover =>
        rw [run_polling_lapse hnone later _ { w with now := t } hraised hsoon
          fun t' ht' => hts t' (List.mem_cons_of_mem _ ht')]
        have hmax : max t c.dropAt = max w.now c.dropAt := by omega
        cases limit with
        | none => rw [lapse, lapse, hmax]
        | some l => rw [lapse, lapse, hmax]

/-- What is raised is found raised. -/
theorem raised_signal (c : Controls) (t : Nat) :
  (c.signal true t).raised = true
  := by
  rw [Controls.signal]
  split
  · rfl
  · rfl
  · rfl

/-- Before the sender raises the signal it is found not raised, but still watched. -/
theorem poll_before {t u : Nat} (hraised : w.raised = false) (hsender : c.sender = .raises u)
    (h : t < u) :
  (c.signal w.raised t).raised = false
    ∧ (Vigil.poll (c.signal w.raised t) .watching).2 = .watching
  := by
  have hsignal : c.signal w.raised t = {} := by
    rw [Controls.signal, hsender, hraised]
    dsimp only
    rw [decide_eq_false (by omega)]
    rfl
  rw [hsignal]
  exact ⟨rfl, rfl⟩

/-- From then on it is found raised. -/
theorem raised_signal_after {t u : Nat} (raised : Bool) (hsender : c.sender = .raises u)
    (h : u ≤ t) :
  (c.signal raised t).raised = true
  := by
  rw [Controls.signal, hsender]
  dsimp only
  rw [decide_eq_true h, Bool.or_true]

/-- A moment that is no later than the limit, if there is one. -/
theorem all_of_le {t : Nat} (h : ∀ l, limit = some l → t ≤ l) :
  limit.all (t ≤ ·) = true
  := by
  cases limit with
  | none => rfl
  | some l => simpa using h l rfl

/-- Where the sender raises the signal in time, the suspension is woken by that, unless the signal
is found raised at once. -/
theorem run_polling_raisedBy {t : Nat} (hraised : w.raised = false) (hdrop : w.now ≤ c.dropAt)
    (hby : raisedBy c limit = some t) :
  (polling c limit .watching (wakings c w.now limit)).run w
    = .ok .raised { w with now := max w.now t }.trip
  := by
  obtain ⟨hsender, ht, hlimit⟩ := raisedBy_eq_some hby
  rw [wakings, List.cons_append]
  by_cases hbefore : w.now < t
  · -- the first look comes too early, and nothing wakes it again before the sender does
    obtain ⟨hcalm, hwatching⟩ := poll_before hraised hsender hbefore
    have hgoesOn : ¬ limit.any (· ≤ w.now) = true := by
      cases limit with
      | none => simp
      | some l =>
        have hl := hlimit l rfl
        simp only [Option.any_some, decide_eq_true_eq]
        omega
    have hwoken : c.sender.instant?.filter
        (fun t => decide (w.now < t) && limit.all (t ≤ ·)) = some t := by
      rw [hsender]
      apply Option.filter_eq_some_iff.mpr
      use rfl
      rw [all_of_le hlimit, decide_eq_true hbefore]
      rfl
    rw [run_polling_calm hdrop hcalm, if_neg hgoesOn, hwatching, hwoken, Option.toList_some,
      List.singleton_append, Nat.max_eq_right (by omega)]
    apply run_polling_raised ht (raised_signal_after _ hsender t.le_refl)
  · rw [run_polling_raised hdrop (raised_signal_after _ hsender (by omega)),
      Nat.max_eq_left (by omega)]

/-- A suspension is woken at its moments, and looks at the signal and at the time then. -/
theorem suspend_eq_polling (millis : Option Nat) (hdrop : w.now ≤ c.dropAt) :
  (suspend c millis).run w
    = (polling c (millis.map (w.now + ·)) .watching
        (wakings c w.now (millis.map (w.now + ·)))).run w
  := by
  have hlater : ∀ l, millis.map (w.now + ·) = some l → w.now ≤ l := by
    intro l hl
    obtain ⟨d, -, rfl⟩ := Option.map_eq_some_iff.mp hl
    omega
  cases hraised : w.raised with
  | true =>
    rw [run_suspend_of_raised millis hraised, wakings, List.cons_append,
      run_polling_raised hdrop (by rw [hraised]; apply raised_signal)]
    rw [World.trip_of_raised { w with now := w.now } hraised]
  | false =>
    rw [run_suspend millis hraised]
    generalize millis.map (w.now + ·) = limit at hlater
    symm
    cases hby : raisedBy c limit with
    | none =>
      apply run_polling_lapse hby _ _ w hraised hdrop
      intro t ht
      obtain rfl | ht := List.mem_cons.mp ht
      · apply all_of_le hlater
      · obtain ⟨-, h⟩ := Option.filter_eq_some_iff.mp (Option.mem_toList.mp ht)
        rw [Bool.and_eq_true] at h
        exact h.2
    | some t => apply run_polling_raisedBy hraised hdrop hby

end Session

end ServiceHarness
