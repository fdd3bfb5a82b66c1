import ServiceHarness.Proofs.Session.Polling

/-!
# What takes its time

How long a session that does nothing else lets time pass, to the millisecond: a suspension
(`run_suspend_calm`) and an activity that `Takes` its time (`run_play_calm`), if the sender of the
signal is calm until the end, and as far as the signal otherwise (`run_suspend_raises`,
`run_play_raises`).
-/

namespace ServiceHarness

variable {σ α : Type} {c : Controls} {w : World σ}

/-- The activity takes so many milliseconds and ends with an outcome, with the ports in a state.  It
does not raise the signal. -/
inductive Activity.Takes : Activity σ α → Nat → α → σ → Prop where
  /-- It ends at once. -/
  | finish (s : σ) (a : α) : Takes (.finish s a) 0 a s
  /-- It pauses first. -/
  | pause (millis : Nat) (s' : σ) {rest : Activity σ α} {took : Nat} {a : α} {s : σ}
      (h : Takes rest took a s) :
    Takes (.pause millis s' rest) (millis + took) a s

/-- The sender does not raise the signal up to an instant. -/
def Controls.CalmUntil (c : Controls) (t : Nat) : Prop :=
  ∀ u, c.sender = .raises u → t < u

/-- The sender that raises the signal does not do so before. -/
theorem Controls.calmUntil_of_raises {t u : Nat} (hsender : c.sender = .raises u) (h : t < u) :
  c.CalmUntil t
  := by
  intro v hv
  rw [hsender] at hv
  cases hv
  exact h

theorem Controls.CalmUntil.mono {t t' : Nat} (h : c.CalmUntil t) (hle : t' ≤ t) :
  c.CalmUntil t'
  := fun u hu => Nat.lt_of_le_of_lt hle (h u hu)

namespace Session

/-- A suspension is over after its time if the signal is not raised until then. -/
theorem run_suspend_calm {millis : Nat} (hraised : w.raised = false)
    (hcalm : c.CalmUntil (w.now + millis)) (hdrop : w.now + millis ≤ c.dropAt) :
  (suspend c (some millis)).run w = .ok .elapsed { w with now := w.now + millis }
  := by
  rw [run_suspend _ hraised]
  cases hby : raisedBy c ((some millis).map (w.now + ·)) with
  | none => apply if_pos hdrop
  | some u =>
    obtain ⟨hsender, -, hlimit⟩ := raisedBy_eq_some hby
    have hearly : u ≤ w.now + millis := hlimit _ rfl
    have hlate := hcalm u hsender
    omega

/-- A suspension ends when the sender raises the signal before its time is over. -/
theorem run_suspend_raises {millis u : Nat} (hraised : w.raised = false)
    (hsender : c.sender = .raises u) (hnow : w.now ≤ u) (hle : u ≤ w.now + millis)
    (hdrop : u ≤ c.dropAt) :
  (suspend c (some millis)).run w = .ok .raised { w with now := u }.trip
  := by
  rw [run_suspend _ hraised]
  cases hby : raisedBy c ((some millis).map (w.now + ·)) with
  | none =>
    obtain ⟨_, ⟨⟩, hlate⟩ := raisedBy_eq_none hby hsender hdrop
    have hlate : w.now + millis < u := hlate
    omega
  | some v =>
    obtain ⟨hsender', -, -⟩ := raisedBy_eq_some hby
    obtain rfl : u = v := by
      rw [hsender] at hsender'
      cases hsender'
      rfl
    dsimp only
    rw [Nat.max_eq_right hnow]

/-- An activity is played to its end if the signal is not raised until then. -/
theorem run_play_calm {activity : Activity σ α} {took : Nat} {a : α} {s : σ}
    (h : activity.Takes took a s) (hraised : w.raised = false)
    (hcalm : c.CalmUntil (w.now + took)) (hdrop : w.now + took ≤ c.dropAt) :
  (play c activity).run w = .ok (some a) { w with ports := s, now := w.now + took }
  := by
  induction h generalizing w with
  | finish s a => rfl
  | @pause millis s' rest took a s _ ih =>
    rw [← Nat.add_assoc] at hcalm hdrop ⊢
    have hpause : (suspend c (some millis)).run { w with ports := s' }
        = .ok .elapsed { w with ports := s', now := w.now + millis } :=
      run_suspend_calm hraised (hcalm.mono (Nat.le_add_right _ _)) (by dsimp only; omega)
    simp only [play, EStateM.run_bind, EStateM.run_modify, hpause]
    apply ih (w := { w with ports := s', now := w.now + millis }) hraised hcalm hdrop

/-- An activity is given up when the sender raises the signal before its end. -/
theorem run_play_raises {activity : Activity σ α} {took u : Nat} {a : α} {s : σ}
    (h : activity.Takes took a s) (hraised : w.raised = false) (hsender : c.sender = .raises u)
    (hnow : w.now < u) (hle : u ≤ w.now + took) (hdrop : u ≤ c.dropAt) :
  ∃ s', (play c activity).run w = .ok none (World.trip { w with ports := s', now := u })
  := by
  induction h generalizing w with
  | finish s a => omega
  | @pause millis s' rest took a s _ ih =>
    by_cases hpaused : u ≤ w.now + millis
    · have hpause : (suspend c (some millis)).run { w with ports := s' }
          = .ok .raised (World.trip { w with ports := s', now := u }) :=
        run_suspend_raises hraised hsender (Nat.le_of_lt hnow) hpaused hdrop
      use s'
      simp only [play, EStateM.run_bind, EStateM.run_modify, hpause]
      rfl
    · have hcalm : c.CalmUntil (w.now + millis) := Controls.calmUntil_of_raises hsender (by omega)
      have hpause : (suspend c (some millis)).run { w with ports := s' }
          = .ok .elapsed { w with ports := s', now := w.now + millis } :=
        run_suspend_calm hraised hcalm (by dsimp only; omega)
      simp only [play, EStateM.run_bind, EStateM.run_modify, hpause]
      apply ih (w := { w with ports := s', now := w.now + millis }) hraised
      · dsimp only
        omega
      · dsimp only
        omega

end Session

end ServiceHarness
