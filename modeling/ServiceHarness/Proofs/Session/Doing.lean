import ServiceHarness.Proofs.Session.Move

/-!
# What sessions do

`Session.Does` and `Attempt.Does` say how a session ends and what it has done by then: the
events that it added to the trace, apart from the raising of the stop signal.  All that such a
session does to the world is made of moves.  The lemmas follow sessions through their
constructs as those on `Ends` do, the deeds of the parts one after the other, and end with
`Session.race`: a race does what its activity is begun with, and its outcome is recorded.
-/

namespace ServiceHarness

variable {σ α β : Type} {c : Controls} {w : World σ}

/-- A port that may raise the signal does so as anyone does, or changes nothing. -/
theorem World.raiseIf_eq (b : Bool) (c : Controls) (w : World σ) :
  w.raiseIf b c = w ∨ w.raiseIf b c = w.trip
  := by
  cases b with
  | false => exact .inl rfl
  | true =>
    change w.raise c = w ∨ w.raise c = w.trip
    rw [raise]
    split
    · split
      · exact .inl rfl
      · exact .inr rfl
    · exact .inr rfl

/-- What raising the signal does not change a port that may raise it does not change. -/
theorem World.of_raiseIf {β : Type} {f : World σ → β} (hf : ∀ w, f w.trip = f w) (b : Bool)
    (c : Controls) (w : World σ) :
  f (w.raiseIf b c) = f w
  := by
  obtain heq | heq := raiseIf_eq b c w
  · rw [heq]
  · rw [heq, hf]

@[simp]
theorem World.ports_raiseIf (b : Bool) (c : Controls) (w : World σ) :
  (w.raiseIf b c).ports = w.ports
  := of_raiseIf ports_trip b c w

@[simp]
theorem World.now_raiseIf (b : Bool) (c : Controls) (w : World σ) :
  (w.raiseIf b c).now = w.now
  := of_raiseIf now_trip b c w

@[simp]
theorem World.live_raiseIf (b : Bool) (c : Controls) (w : World σ) :
  (w.raiseIf b c).live = w.live
  := of_raiseIf live_trip b c w

@[simp]
theorem World.deeds_raiseIf (b : Bool) (c : Controls) (w : World σ) :
  (w.raiseIf b c).deeds = w.deeds
  := of_raiseIf deeds_trip b c w

/-- No port lowers the signal. -/
theorem World.raised_raiseIf (b : Bool) (c : Controls) (h : w.raised = true) :
  (w.raiseIf b c).raised = true
  := by
  obtain heq | heq := raiseIf_eq b c w
  · rw [heq, h]
  · rw [heq, raised_trip]

/-- A port that leaves the signal not raised has changed nothing about it. -/
theorem World.raiseIf_of_calm {b : Bool} (h : (w.raiseIf b c).raised = false) :
  w.raiseIf b c = w
  := by
  obtain heq | heq := raiseIf_eq b c w
  · exact heq
  · rw [heq, raised_trip] at h
    cases h

namespace Session

/-- The session, begun in `w`, makes moves and ends with an outcome, deeds and a world of
`ok`, or is cut short with deeds and a world of `cut`. -/
def Does (c : Controls) (m : Session σ α) (w : World σ)
    (ok : α → List Event → World σ → Prop) (cut : Cut → List Event → World σ → Prop) : Prop :=
  Ends m w (fun a w' => Moves c w w' ∧ ∃ ds, w'.deeds = w.deeds ++ ds ∧ ok a ds w')
    (fun k w' => Moves c w w' ∧ ∃ ds, w'.deeds = w.deeds ++ ds ∧ cut k ds w')

variable {ok : α → List Event → World σ → Prop} {cut : Cut → List Event → World σ → Prop}

theorem Does.mono {m : Session σ α} {ok' : α → List Event → World σ → Prop}
    {cut' : Cut → List Event → World σ → Prop} (h : Does c m w ok cut)
    (hok : ∀ a ds w', ok a ds w' → ok' a ds w')
    (hcut : ∀ k ds w', cut k ds w' → cut' k ds w') :
  Does c m w ok' cut'
  := by
  apply Ends.mono h
  · rintro a w' ⟨hmoves, ds, hds, hok'⟩
    exact ⟨hmoves, ds, hds, hok a ds w' hok'⟩
  · rintro k w' ⟨hmoves, ds, hds, hcut'⟩
    exact ⟨hmoves, ds, hds, hcut k ds w' hcut'⟩

/-- It is enough to follow a session to its outcome where it is never cut short. -/
theorem Does.uncut {m : Session σ α} {ok' : α → List Event → World σ → Prop}
    (h : Does c m w ok fun _ _ _ => False) (hok : ∀ a ds w', ok a ds w' → ok' a ds w') :
  Does c m w ok' cut
  := h.mono hok fun _ _ _ hcut => hcut.elim

/-- What goes on from a session may use that the session made moves, and what they did. -/
theorem Does.moves {m : Session σ α} (h : Does c m w ok cut) :
  Does c m w (fun a ds w' => (Moves c w w' ∧ w'.deeds = w.deeds ++ ds) ∧ ok a ds w')
    (fun k ds w' => (Moves c w w' ∧ w'.deeds = w.deeds ++ ds) ∧ cut k ds w')
  := by
  apply Ends.mono h
  · rintro a w' ⟨hmoves, ds, hds, hok⟩
    exact ⟨hmoves, ds, hds, ⟨hmoves, hds⟩, hok⟩
  · rintro k w' ⟨hmoves, ds, hds, hcut⟩
    exact ⟨hmoves, ds, hds, ⟨hmoves, hds⟩, hcut⟩

/-- What is known of a session that ends with an outcome. -/
theorem Does.of_ok {m : Session σ α} {a : α} {w' : World σ} (h : Does c m w ok cut)
    (hm : m.run w = .ok a w') :
  Moves c w w' ∧ ∃ ds, w'.deeds = w.deeds ++ ds ∧ ok a ds w'
  := by
  rw [Does, Ends, hm] at h
  exact h

/-- A session that does nothing. -/
theorem does_pure {a : α} (h : ok a [] w) :
  Does c (pure a) w ok cut
  := ⟨.refl, [], (List.append_nil _).symm, h⟩

/-- A session that is cut short at once. -/
theorem does_throw {k : Cut} (h : cut k [] w) :
  Does c (throw k : Session σ α) w ok cut
  := ⟨.refl, [], (List.append_nil _).symm, h⟩

/-- What the second session does comes after what the first has done. -/
theorem Does.bind {m : Session σ α} {f : α → Session σ β} {ok : β → List Event → World σ → Prop}
    (h : Does c m w (fun a ds w' => Does c (f a) w' (fun b ds' => ok b (ds ++ ds'))
      (fun k ds' => cut k (ds ++ ds'))) cut) :
  Does c (m >>= f) w ok cut
  := by
  rw [Does, ends_bind]
  apply Ends.mono h
  · rintro a w' ⟨hmoves, ds, hds, hrest⟩
    apply Ends.mono hrest
    · rintro b w'' ⟨hmoves', ds', hds', hok⟩
      rw [hds, List.append_assoc] at hds'
      exact ⟨hmoves.trans hmoves', ds ++ ds', hds', hok⟩
    · rintro k w'' ⟨hmoves', ds', hds', hcut⟩
      rw [hds, List.append_assoc] at hds'
      exact ⟨hmoves.trans hmoves', ds ++ ds', hds', hcut⟩
  · intro k w' h'
    apply h'

/-- A change of the world that is a move. -/
theorem does_modify {f : World σ → World σ} {ok : PUnit → List Event → World σ → Prop}
    {ds : List Event} (hmoves : Moves c w (f w)) (hds : (f w).deeds = w.deeds ++ ds)
    (h : ok () ds (f w)) :
  Does c (modify f) w ok cut
  := ⟨hmoves, ds, hds, h⟩

/-- Bringing the ports into another state is no deed. -/
theorem does_settle (s : σ) {ok : PUnit → List Event → World σ → Prop}
    (h : ok () [] { w with ports := s }) :
  Does c (modify fun w => { w with ports := s }) w ok cut
  := does_modify (.single (.settles w s)) (List.append_nil _).symm h

theorem does_record {e : Event} {ok : Unit → List Event → World σ → Prop}
    (hmove : Move c w (w.record e)) (he : e.isRaise = false) (h : ok () [e] (w.record e)) :
  Does c (record e) w ok cut
  := ⟨.single hmove, [e], w.deeds_record he, h⟩

theorem does_tell {n : Notice} {ok : Unit → List Event → World σ → Prop}
    (h : ok () [.noticed n] (w.tell n)) :
  Does c (tell n) w ok cut
  := does_record (.tells w n) rfl h

theorem does_get {ok : World σ → List Event → World σ → Prop} (h : ok w [] w) :
  Does c get w ok cut
  := ⟨.refl, [], (List.append_nil _).symm, h⟩

theorem does_isRaised {ok : Bool → List Event → World σ → Prop} (h : ok w.raised [] w) :
  Does c isRaised w ok cut
  := ⟨.refl, [], (List.append_nil _).symm, h⟩

/-! ### Suspending, playing and racing -/

/-- Where the signal is raised from outside, the sender raises it, before the run is dropped
and no later than the limit. -/
theorem raisedBy_eq_some {limit : Option Nat} {t : Nat} (h : raisedBy c limit = some t) :
  c.sender = .raises t ∧ t ≤ c.dropAt ∧ ∀ l, limit = some l → t ≤ l
  := by
  rw [raisedBy] at h
  split at h
  case h_1 u hu =>
    split at h
    case isTrue hle =>
      cases h
      rw [Bool.and_eq_true, decide_eq_true_iff] at hle
      use hu, hle.1
      rintro l rfl
      simpa using hle.2
    case isFalse => cases h
  case h_2 => cases h

/-- Where the signal is not raised from outside, the sender does not raise it before the run
is dropped, unless that is after the limit. -/
theorem raisedBy_eq_none {limit : Option Nat} (h : raisedBy c limit = none) {u : Nat}
    (hu : c.sender = .raises u) (hdrop : u ≤ c.dropAt) :
  ∃ l, limit = some l ∧ l < u
  := by
  rw [raisedBy, hu] at h
  cases limit with
  | none => simp [hdrop] at h
  | some l =>
    use l, rfl
    simpa [hdrop] using h

/-- How a suspension ends: the signal is raised already or at some instant until its time is over,
or its time is over, or the caller drops the run before that. -/
theorem suspend_ends (c : Controls) (millis : Option Nat) (w : World σ) :
  Ends (suspend c millis) w
    (fun wake w' => match wake with
      | .raised => (w.raised = true ∨ ∃ u ≤ c.dropAt, c.sender = .raises u)
        ∧ ∃ t, w.now ≤ t ∧ (∀ d, millis = some d → t ≤ w.now + d)
          ∧ w' = World.trip { w with now := t }
      | .elapsed => w.raised = false ∧ ∃ d, millis = some d ∧ w' = { w with now := w.now + d }
        ∧ w.now + d ≤ c.dropAt)
    (fun k w' => k = .dropped ∧ (∀ d, millis = some d → c.dropAt < w.now + d)
      ∧ w' = { w with now := max w.now c.dropAt })
  := by
  rw [suspend]
  simp only [ends_bind, ends_get]
  split
  case isTrue hraised =>
    rw [ends_pure]
    use .inl hraised, w.now, Nat.le_refl _, fun d _ => Nat.le_add_right _ d
    rw [World.trip_of_raised _ hraised]
  case isFalse hraised =>
    rw [Bool.not_eq_true] at hraised
    split
    case h_1 t heq =>
      obtain ⟨hsender, hdrop, hlimit⟩ := raisedBy_eq_some heq
      rw [ends_bind, ends_set, ends_pure]
      use .inr ⟨t, hdrop, hsender⟩, max w.now t, Nat.le_max_left _ _
      constructor
      · rintro d rfl
        have ht : t ≤ w.now + d := hlimit _ rfl
        omega
      · rfl
    case h_2 t heq hmillis =>
      obtain ⟨d, rfl, rfl⟩ := Option.map_eq_some_iff.mp hmillis
      split
      case isTrue hle => exact ⟨hraised, d, rfl, rfl, hle⟩
      case isFalse hle =>
        rw [ends_bind, ends_set, ends_throw]
        use rfl
        constructor
        · rintro _ ⟨⟩
          omega
        · rfl
    case h_3 heq hmillis =>
      obtain rfl := Option.map_eq_none_iff.mp hmillis
      rw [ends_bind, ends_set, ends_throw]
      exact ⟨rfl, by rintro _ ⟨⟩, rfl⟩

/-- After a suspension whose time is over it is that much later. -/
theorem now_of_elapsed {millis : Nat} {w' : World σ}
    (h : (suspend c (some millis)).run w = .ok .elapsed w') :
  w'.now = w.now + millis
  := by
  have hends := suspend_ends c (some millis) w
  rw [Ends, h] at hends
  obtain ⟨-, _, ⟨⟩, rfl, -⟩ := hends
  rfl

/-- While a session is suspended only time passes, and perhaps the signal is raised. -/
theorem suspend_does (c : Controls) (millis : Option Nat) (w : World σ) :
  Does c (suspend c millis) w
    (fun wake ds w' => ds = [] ∧ match wake with
      | .raised => w'.raised = true
      | .elapsed => w.raised = false ∧ ∃ d, millis = some d ∧ w' = { w with now := w.now + d }
        ∧ w.now + d ≤ c.dropAt)
    (fun k ds w' => ds = [] ∧ (k = .dropped ∧ ∀ d, millis = some d → c.dropAt < w.now + d)
      ∧ w'.raised = false)
  := by
  rw [Does, suspend]
  simp only [ends_bind, ends_get]
  split
  case isTrue hraised =>
    rw [ends_pure]
    exact ⟨.refl, [], (List.append_nil _).symm, rfl, hraised⟩
  case isFalse hraised =>
    rw [Bool.not_eq_true] at hraised
    -- the deeds of a world do not depend on its time
    have hdeeds : ∀ t, World.deeds { w with now := t } = w.deeds ++ [] :=
      fun _ => (List.append_nil _).symm
    split
    case h_1 t heq =>
      obtain ⟨hsender, hdrop, hlimit⟩ := raisedBy_eq_some heq
      rw [ends_bind, ends_set, ends_pure]
      constructor
      · have hpass : Move c w { w with now := max w.now t } := by
          apply Move.passes w _ hraised (Nat.le_max_left _ _) (by omega)
          intro u hu _ hle
          rw [hsender] at hu
          cases hu
          omega
        apply Relation.ReflTransGen.tail (.single hpass) (.raises _)
      · exact ⟨[], by rw [World.deeds_trip, hdeeds], rfl, World.raised_trip _⟩
    case h_2 t heq hmillis =>
      obtain ⟨d, rfl, rfl⟩ := Option.map_eq_some_iff.mp hmillis
      split
      case isTrue hle =>
        rw [ends_bind, ends_set, ends_pure]
        constructor
        · apply Relation.ReflTransGen.single
          apply Move.passes w _ hraised (Nat.le_add_right _ _) (by omega)
          intro u hu hd _
          obtain ⟨l, hl, hlt⟩ := raisedBy_eq_none heq hu hd
          cases hl
          apply Nat.le_of_lt hlt
        · exact ⟨[], hdeeds _, rfl, hraised, d, rfl, rfl, hle⟩
      case isFalse hle =>
        rw [ends_bind, ends_set, ends_throw]
        constructor
        · apply Relation.ReflTransGen.single
          apply Move.passes w _ hraised (Nat.le_max_left _ _) (Nat.le_refl _)
          intro u hu hd _
          obtain ⟨l, hl, hlt⟩ := raisedBy_eq_none heq hu hd
          cases hl
          dsimp only at hlt
          omega
        · have hlate : ∀ e, some d = some e → c.dropAt < w.now + e := by
            rintro _ ⟨⟩
            omega
          exact ⟨[], hdeeds _, rfl, ⟨rfl, hlate⟩, hraised⟩
    case h_3 heq hmillis =>
      rw [ends_bind, ends_set, ends_throw]
      constructor
      · apply Relation.ReflTransGen.single
        apply Move.passes w _ hraised (Nat.le_max_left _ _) (Nat.le_refl _)
        intro u hu hd _
        obtain ⟨l, hl, -⟩ := raisedBy_eq_none heq hu hd
        rw [hmillis] at hl
        cases hl
      · obtain rfl := Option.map_eq_none_iff.mp hmillis
        exact ⟨[], hdeeds _, rfl, ⟨rfl, fun _ hd => by cases hd⟩, hraised⟩

/-- A port raises the signal by a move or not at all. -/
theorem raiseIf_moves (b : Bool) (c : Controls) (w : World σ) :
  Moves c w (w.raiseIf b c)
  := by
  obtain heq | heq := World.raiseIf_eq b c w
  · rw [heq]
  · rw [heq]
    exact .single (.raises w)

theorem does_raiseIf {b : Bool} {ok : PUnit → List Event → World σ → Prop}
    (h : ok () [] (w.raiseIf b c)) :
  Does c (modify (World.raiseIf b c)) w ok cut
  := by
  apply does_modify (raiseIf_moves b c w) _ h
  rw [World.deeds_raiseIf, List.append_nil]

/-- While an activity is played nothing is done; it is given up only once the signal is
raised. -/
theorem play_does (c : Controls) (activity : Activity σ α) (w : World σ) :
  Does c (play c activity) w
    (fun outcome ds w' => ds = [] ∧ (outcome = none → w'.raised = true))
    (fun k ds w' => ds = [] ∧ (k = .dropped → w'.raised = false))
  := by
  induction activity generalizing w with
  | finish s outcome =>
    apply Does.bind
    apply does_settle
    apply does_pure
    simp
  | hang s =>
    apply Does.bind
    apply does_settle
    apply Does.bind
    apply Does.mono (suspend_does c none _)
    · rintro (_ | _) ds w' ⟨rfl, hwake⟩
      · obtain ⟨_, d, hd, _⟩ := hwake
        cases hd
      · apply does_pure
        exact ⟨rfl, fun _ => hwake⟩
    · rintro k ds w' ⟨rfl, -, hr⟩
      exact ⟨rfl, fun _ => hr⟩
  | panic s =>
    apply Does.bind
    apply does_settle
    apply does_throw
    simp
  | raise rest ih =>
    apply Does.bind
    apply does_raiseIf (b := true)
    apply ih
  | pause millis s rest ih =>
    apply Does.bind
    apply does_settle
    apply Does.bind
    apply Does.mono (suspend_does c (some millis) _)
    · rintro (_ | _) ds w' ⟨rfl, hwake⟩
      · apply ih
      · apply does_pure
        exact ⟨rfl, fun _ => hwake⟩
    · rintro k ds w' ⟨rfl, -, hr⟩
      exact ⟨rfl, fun _ => hr⟩

/-- What a race has done whose activity begins with `started`: its outcome is recorded, and it
has none only once the signal is raised, perhaps before anything was begun. -/
def Raced (started : List Event) (e : α → Event) : Option α → List Event → World σ → Prop
  | none, ds, w => (ds = [] ∨ ds = started) ∧ w.raised = true
  | some a, ds, _ => ds = started ++ [e a]

/-- A race that is cut short has begun its activity, and is dropped only while the signal is
not raised. -/
theorem race_does {begin : Session σ (Activity σ α)} {started : List Event} {e : α → Event}
    (hbegin : w.raised = false →
      Does c begin w (fun _ ds _ => ds = started) (fun _ _ _ => False))
    (he : ∀ a (w : World σ), Move c w (w.record (e a)) ∧ (e a).isRaise = false) :
  Does c (race c begin >>= conclude e) w
    (Raced started e)
    (fun k ds w' => ds = started ∧ (k = .dropped → w'.raised = false))
  := by
  apply Does.bind
  apply Does.bind
  apply does_isRaised
  split
  case isTrue hraised =>
    apply does_pure
    apply does_pure
    exact ⟨.inl rfl, hraised⟩
  case isFalse hraised =>
    rw [Bool.not_eq_true] at hraised
    apply Does.bind
    apply Does.uncut (hbegin hraised)
    rintro activity ds w' rfl
    apply Does.mono (play_does c activity w')
    · rintro (_ | a) ds' w'' ⟨rfl, hnone⟩
      · apply does_pure
        simp [Raced, hnone rfl]
      · dsimp only [conclude]
        apply Does.bind
        apply does_record (he a w'').1 (he a w'').2
        apply does_pure
        simp [Raced]
    · rintro k ds' w'' ⟨rfl, hdropped⟩
      exact ⟨List.append_nil _, hdropped⟩

end Session

namespace Attempt

/-! ### Attempts -/

/-- The attempt, begun in `w`, makes moves and ends with an outcome, deeds and a world of
`ok`, fails with deeds and a world of `fail`, or is cut short with deeds and a world of
`cut`. -/
def Does (c : Controls) (m : Attempt σ α) (w : World σ)
    (ok : α → List Event → World σ → Prop) (fail : RunFault → List Event → World σ → Prop)
    (cut : Cut → List Event → World σ → Prop) : Prop :=
  Ends m w (fun a w' => Moves c w w' ∧ ∃ ds, w'.deeds = w.deeds ++ ds ∧ ok a ds w')
    (fun fault w' => Moves c w w' ∧ ∃ ds, w'.deeds = w.deeds ++ ds ∧ fail fault ds w')
    (fun k w' => Moves c w w' ∧ ∃ ds, w'.deeds = w.deeds ++ ds ∧ cut k ds w')

variable {ok : α → List Event → World σ → Prop}
  {fail : RunFault → List Event → World σ → Prop} {cut : Cut → List Event → World σ → Prop}

theorem Does.mono {m : Attempt σ α} {ok' : α → List Event → World σ → Prop}
    {fail' : RunFault → List Event → World σ → Prop} {cut' : Cut → List Event → World σ → Prop}
    (h : Does c m w ok fail cut) (hok : ∀ a ds w', ok a ds w' → ok' a ds w')
    (hfail : ∀ fault ds w', fail fault ds w' → fail' fault ds w')
    (hcut : ∀ k ds w', cut k ds w' → cut' k ds w') :
  Does c m w ok' fail' cut'
  := by
  apply Ends.mono h
  · rintro a w' ⟨hmoves, ds, hds, h'⟩
    exact ⟨hmoves, ds, hds, hok a ds w' h'⟩
  · rintro fault w' ⟨hmoves, ds, hds, h'⟩
    exact ⟨hmoves, ds, hds, hfail fault ds w' h'⟩
  · rintro k w' ⟨hmoves, ds, hds, h'⟩
    exact ⟨hmoves, ds, hds, hcut k ds w' h'⟩

/-- What goes on from an attempt may use that the attempt made moves, and what they did. -/
theorem Does.moves {m : Attempt σ α} (h : Does c m w ok fail cut) :
  Does c m w (fun a ds w' => (Moves c w w' ∧ w'.deeds = w.deeds ++ ds) ∧ ok a ds w')
    (fun fault ds w' => (Moves c w w' ∧ w'.deeds = w.deeds ++ ds) ∧ fail fault ds w')
    (fun k ds w' => (Moves c w w' ∧ w'.deeds = w.deeds ++ ds) ∧ cut k ds w')
  := by
  apply Ends.mono h
  · rintro a w' ⟨hmoves, ds, hds, h'⟩
    exact ⟨hmoves, ds, hds, ⟨hmoves, hds⟩, h'⟩
  · rintro fault w' ⟨hmoves, ds, hds, h'⟩
    exact ⟨hmoves, ds, hds, ⟨hmoves, hds⟩, h'⟩
  · rintro k w' ⟨hmoves, ds, hds, h'⟩
    exact ⟨hmoves, ds, hds, ⟨hmoves, hds⟩, h'⟩

theorem does_pure {a : α} (h : ok a [] w) :
  Does c (pure a) w ok fail cut
  := ⟨.refl, [], (List.append_nil _).symm, h⟩

theorem does_throw {fault : RunFault} (h : fail fault [] w) :
  Does c (throw fault : Attempt σ α) w ok fail cut
  := ⟨.refl, [], (List.append_nil _).symm, h⟩

/-- A session that cannot fail does as an attempt what it does by itself. -/
theorem does_lift {m : Session σ α} (h : Session.Does c m w ok cut) :
  Does c (liftM m) w ok fail cut
  := (ends_lift m).mpr h

/-- What the second attempt does comes after what the first has done. -/
theorem Does.bind {m : Attempt σ α} {f : α → Attempt σ β} {ok : β → List Event → World σ → Prop}
    (h : Does c m w (fun a ds w' => Does c (f a) w' (fun b ds' => ok b (ds ++ ds'))
      (fun fault ds' => fail fault (ds ++ ds')) (fun k ds' => cut k (ds ++ ds'))) fail cut) :
  Does c (m >>= f) w ok fail cut
  := by
  rw [Does, ends_bind]
  apply Ends.mono h
  · rintro a w' ⟨hmoves, ds, hds, hrest⟩
    apply Ends.mono hrest
    · rintro b w'' ⟨hmoves', ds', hds', h'⟩
      rw [hds, List.append_assoc] at hds'
      exact ⟨hmoves.trans hmoves', ds ++ ds', hds', h'⟩
    · rintro fault w'' ⟨hmoves', ds', hds', h'⟩
      rw [hds, List.append_assoc] at hds'
      exact ⟨hmoves.trans hmoves', ds ++ ds', hds', h'⟩
    · rintro k w'' ⟨hmoves', ds', hds', h'⟩
      rw [hds, List.append_assoc] at hds'
      exact ⟨hmoves.trans hmoves', ds ++ ds', hds', h'⟩
  · intro _ _ h'
    apply h'
  · intro _ _ h'
    apply h'

/-- A loop does what its rounds do, one after the other.  If it fails or is cut short, the
rounds before that one were completed. -/
theorem does_forM {f : α → Attempt σ PUnit} {done : α → List Event → Prop}
    {fail : α → RunFault → List Event → World σ → Prop}
    {cut : α → Cut → List Event → World σ → Prop}
    (hf : ∀ a w, Does c (f a) w (fun _ ds _ => done a ds) (fail a) (cut a)) :
    ∀ (l : List α) (w : World σ), Does c (l.forM f) w
      (fun _ ds _ => ∃ rounds, List.Forall₂ done l rounds ∧ ds = rounds.flatten)
      (fun fault ds w' => ∃ before a after rounds last, l = before ++ a :: after
        ∧ List.Forall₂ done before rounds ∧ fail a fault last w' ∧ ds = rounds.flatten ++ last)
      (fun k ds w' => ∃ before a after rounds last, l = before ++ a :: after
        ∧ List.Forall₂ done before rounds ∧ cut a k last w' ∧ ds = rounds.flatten ++ last)
  | [], w => does_pure ⟨[], .nil, rfl⟩
  | a :: rest, w => by
    change Does c (f a >>= fun _ => rest.forM f) w _ _ _
    apply Does.bind
    apply Does.mono (hf a w)
    · intro _ ds w' hds
      apply Does.mono (does_forM hf rest w')
      · rintro _ _ _ ⟨rounds, hrounds, rfl⟩
        exact ⟨ds :: rounds, .cons hds hrounds, rfl⟩
      · rintro fault _ w'' ⟨before, b, after, rounds, last, rfl, hrounds, hlast, rfl⟩
        exact ⟨a :: before, b, after, ds :: rounds, last, rfl, .cons hds hrounds, hlast, by simp⟩
      · rintro k _ w'' ⟨before, b, after, rounds, last, rfl, hrounds, hlast, rfl⟩
        exact ⟨a :: before, b, after, ds :: rounds, last, rfl, .cons hds hrounds, hlast, by simp⟩
    · intro fault ds w' h
      exact ⟨[], a, rest, [], ds, rfl, .nil, h, rfl⟩
    · intro k ds w' h
      exact ⟨[], a, rest, [], ds, rfl, .nil, h, rfl⟩

end Attempt

end ServiceHarness
