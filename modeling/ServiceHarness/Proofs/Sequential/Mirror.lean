import ServiceHarness.Proofs.Sequential.Limit

/-!
# Mirrored sessions

A session after which the signal is not raised does what a sequential computation does that is given
up at the instant at which the caller drops the run.  `Session.Mirrors` is said of a session and a
sequential computation: if the signal is not raised when the session ends, the sequential computation
comes equally far, with an outcome that is related to that of the session, or cut short in the same
way.  Nothing is said of a session after which the signal is raised; a session keeps a raised signal
raised.  `Attempt.Mirrors` says so of attempts.  Both go along with the constructs of sessions; what a
session tells the log or records of its phases has no counterpart (`Session.Mirrors.silent`).
-/

namespace ServiceHarness

open ServiceHarness.Sequential

variable {σ α α' β β' : Type} {c : Controls}

namespace Session

/-! ### Keeping the signal raised -/

/-- The session leaves a raised signal raised, however it ends. -/
def Keeps (m : Session σ α) : Prop :=
  ∀ w, w.raised = true → Ends m w (fun _ w' => w'.raised = true) (fun _ w' => w'.raised = true)

theorem keeps_pure (a : α) :
  Keeps (pure a : Session σ α)
  := fun _ h => h

theorem Keeps.bind {m : Session σ α} {g : α → Session σ β} (h : Keeps m)
    (hg : ∀ a, Keeps (g a)) :
  Keeps (m >>= g)
  := by
  intro w hraised
  rw [ends_bind]
  apply Ends.mono (h w hraised)
  · intro a w' hraised'
    apply hg a w' hraised'
  · intro _ _ hraised'
    exact hraised'

/-- A session of which it is known what it does leaves a raised signal raised. -/
theorem keeps_of_does {m : Session σ α} {ok : World σ → α → List Event → World σ → Prop}
    {cut : World σ → Cut → List Event → World σ → Prop}
    (h : ∀ w, Does c m w (ok w) (cut w)) :
  Keeps m
  := by
  intro w hraised
  apply Ends.mono (h w)
  · rintro _ w' ⟨hmoves, -⟩
    apply hmoves.raised hraised
  · rintro _ w' ⟨hmoves, -⟩
    apply hmoves.raised hraised

/-! ### Mirroring -/

/-- How the session, begun in the world, is followed by the sequential computation, as far as the
signal is not raised when it ends. -/
def Follows (c : Controls) (R : α → α' → Prop) (m : Session σ α) (f : Step σ α') (w : World σ) :
    Prop :=
  Ends m w
    (fun a w' => w'.raised = false → w'.now ≤ c.dropAt
      ∧ ∃ a', R a a' ∧ f.run.run w.standing = some (.ok a', w'.standing))
    (fun k w' => w'.raised = false → f.run.run w.standing = some (.error k, w'.standing))

/-- The session does what the sequential computation does, with a related outcome, unless the
signal is raised in the end. -/
structure Mirrors (c : Controls) (R : α → α' → Prop) (m : Session σ α) (f : Step σ α') : Prop where
  /-- A raised signal stays raised. -/
  keeps : Keeps m
  /-- The sequential computation comes equally far, wherever the run is not over yet. -/
  follows : ∀ w, w.now ≤ c.dropAt → Follows c R m f w

variable {R : α → α' → Prop} {S : β → β' → Prop}

theorem mirrors_pure {a : α} {a' : α'} (h : R a a') :
  Mirrors c R (pure a : Session σ α) (pure a')
  := ⟨keeps_pure a, fun _ hw _ => ⟨hw, a', h, rfl⟩⟩

/-- Of a session that begins with the signal raised nothing is said that is said of a signal that is
not raised in the end. -/
theorem Keeps.vacuous {m : Session σ α} (h : Keeps m) {w : World σ} (hraised : w.raised = true)
    {ok : α → World σ → Prop} {cut : Cut → World σ → Prop} :
  Ends m w (fun a w' => w'.raised = false → ok a w') (fun k w' => w'.raised = false → cut k w')
  := by
  apply Ends.mono (h w hraised)
  · intro _ w' hraised' hcalm
    rw [hraised'] at hcalm
    cases hcalm
  · intro _ w' hraised' hcalm
    rw [hraised'] at hcalm
    cases hcalm

/-- One session after the other is followed by one computation after the other. -/
theorem Follows.bind {m : Session σ α} {f : Step σ α'} {g : α → Session σ β} {k : α' → Step σ β'}
    {w : World σ} (h : Follows c R m f w) (hkeeps : ∀ a, Keeps (g a))
    (hg : ∀ a a' w', R a a' → w'.raised = false → w'.now ≤ c.dropAt → m.run w = .ok a w' →
      Follows c S (g a) (k a') w') :
  Follows c S (m >>= g) (f >>= k) w
  := by
  rw [Follows, ends_bind]
  rw [Follows, Ends] at h
  rw [Ends]
  cases hm : m.run w with
  | error cut w' =>
    rw [hm] at h
    intro hcalm
    exact run_bind_eq_some.mpr (.inl ⟨cut, h hcalm, rfl⟩)
  | ok a w' =>
    rw [hm] at h
    cases hraised : w'.raised with
    | true => apply (hkeeps a).vacuous hraised
    | false =>
      obtain ⟨hnow, a', ha, hrun⟩ := h hraised
      apply Ends.mono (hg a a' w' ha hraised hnow hm)
      · intro b w'' hrest hcalm
        obtain ⟨hnow', b', hb, hrun'⟩ := hrest hcalm
        exact ⟨hnow', b', hb, run_bind_eq_some.mpr (.inr ⟨a', _, hrun, hrun'⟩)⟩
      · intro cut w'' hrest hcalm
        exact run_bind_eq_some.mpr (.inr ⟨a', _, hrun, hrest hcalm⟩)

theorem Mirrors.bind {m : Session σ α} {f : Step σ α'} {g : α → Session σ β}
    {k : α' → Step σ β'} (h : Mirrors c R m f) (hkeeps : ∀ a, Keeps (g a))
    (hg : ∀ a a', R a a' → Mirrors c S (g a) (k a')) :
  Mirrors c S (m >>= g) (f >>= k)
  := by
  use h.keeps.bind hkeeps
  intro w hw
  apply (h.follows w hw).bind hkeeps
  intro a a' w' ha _ hw' _
  apply (hg a a' ha).follows w' hw'

/-- What follows a session each of whose outcomes is related to one. -/
theorem Mirrors.bindTotal {m : Session σ α} {f : Step σ α'} {g : α → Session σ β}
    {k : α' → Step σ β'} (h : Mirrors c R m f) (htotal : ∀ a, ∃ a', R a a')
    (hg : ∀ a a', R a a' → Mirrors c S (g a) (k a')) :
  Mirrors c S (m >>= g) (f >>= k)
  := by
  apply Mirrors.bind h _ hg
  intro a
  obtain ⟨a', ha⟩ := htotal a
  apply (hg a a' ha).keeps

/-- What follows a session that has an outcome, unless the signal was raised. -/
theorem Mirrors.bindSome {m : Session σ (Option α)} {f : Step σ α} {g : Option α → Session σ β}
    {k : α → Step σ β'} (h : Mirrors c (fun outcome a => outcome = some a) m f)
    (hnone : Keeps (g none)) (hsome : ∀ a, Mirrors c S (g (some a)) (k a)) :
  Mirrors c S (m >>= g) (f >>= k)
  := by
  apply Mirrors.bind h
  · rintro (_ | a)
    · apply hnone
    · apply (hsome a).keeps
  · rintro _ a rfl
    apply hsome a

/-- A silent session has no counterpart. -/
theorem Mirrors.silent {m : Session σ α} {g : α → Session σ β} {f : Step σ β'}
    (hm : Silent m) (hg : ∀ a, Mirrors c S (g a) f) :
  Mirrors c S (m >>= g) f
  := by
  constructor
  case keeps =>
    intro w hraised
    rw [ends_bind]
    apply Ends.mono (hm w)
    · rintro a w' ⟨-, hsame⟩
      apply (hg a).keeps w' (hsame.trans hraised)
    · intro _ _ hcut
      exact hcut.elim
  case follows =>
    intro w hw
    rw [Follows, ends_bind]
    apply Ends.mono (hm w)
    · rintro a w' ⟨hsame, -⟩
      rw [← hsame]
      apply (hg a).follows w'
      exact (congrArg Standing.now hsame).trans_le hw
    · intro _ _ hcut
      exact hcut.elim

/-- Where one session is for a raised signal, the other is mirrored. -/
theorem Mirrors.unlessRaised {m m' : Session σ α} {f : Step σ α'} (hm : Keeps m)
    (h : Mirrors c R m' f) :
  Mirrors c R (do if ← isRaised then m else m') f
  := by
  constructor
  case keeps =>
    intro w hraised
    rw [ends_bind, ends_isRaised, if_pos hraised]
    apply hm w hraised
  case follows =>
    intro w hw
    rw [Follows, ends_bind, ends_isRaised]
    split
    case isTrue hraised => apply hm.vacuous hraised
    case isFalse => apply h.follows w hw

end Session

namespace Attempt

/-- A session that cannot fail, and then an attempt. -/
theorem run_lift_bind (m : Session σ α) (g : α → Attempt σ β) :
  (liftM m >>= g : Attempt σ β).run = m >>= fun a => (g a).run
  := ExceptT.run_bind_lift m g

/-- The attempt does what the sequential computation does, with the same outcome or the same
fault. -/
def Mirrors (c : Controls) (m : Attempt σ α) (f : Part σ α) : Prop :=
  Session.Mirrors c Eq m.run f.run

theorem mirrors_pure (a : α) :
  Mirrors c (pure a : Attempt σ α) (pure a)
  := Session.mirrors_pure rfl

theorem mirrors_throw (fault : RunFault) :
  Mirrors c (throw fault : Attempt σ α) (throw fault)
  := Session.mirrors_pure rfl

theorem Mirrors.bind {m : Attempt σ α} {f : Part σ α} {g : α → Attempt σ β} {k : α → Part σ β}
    (h : Mirrors c m f) (hg : ∀ a, Mirrors c (g a) (k a)) :
  Mirrors c (m >>= g) (f >>= k)
  := by
  rw [Mirrors, ExceptT.run_bind, ExceptT.run_bind]
  apply Session.Mirrors.bind h
  · rintro (fault | a)
    · apply Session.keeps_pure
    · apply (hg a).keeps
  · rintro (fault | a) _ rfl
    · apply Session.mirrors_pure rfl
    · apply hg a

/-- A session that cannot fail is mirrored as an attempt as it is by itself. -/
theorem Mirrors.lift {γ γ' : Type} {R : γ → γ' → Prop} {m : Session σ γ} {f : Step σ γ'}
    {g : γ → Attempt σ α} {k : γ' → Part σ α} (h : Session.Mirrors c R m f)
    (hkeeps : ∀ a, Session.Keeps (g a).run) (hg : ∀ a a', R a a' → Mirrors c (g a) (k a')) :
  Mirrors c (liftM m >>= g) (liftM f >>= k)
  := by
  rw [Mirrors, run_lift_bind, Sequential.run_lift_bind]
  apply Session.Mirrors.bind h hkeeps hg

/-- What follows a session that has an outcome, unless the signal was raised. -/
theorem Mirrors.liftSome {γ : Type} {m : Session σ (Option γ)} {f : Step σ γ}
    {g : Option γ → Attempt σ α} {k : γ → Part σ α}
    (h : Session.Mirrors c (fun outcome a => outcome = some a) m f)
    (hnone : Session.Keeps (g none).run) (hsome : ∀ a, Mirrors c (g (some a)) (k a)) :
  Mirrors c (liftM m >>= g) (liftM f >>= k)
  := by
  rw [Mirrors, run_lift_bind, Sequential.run_lift_bind]
  apply Session.Mirrors.bindSome h hnone hsome

/-- A silent session has no counterpart. -/
theorem Mirrors.silent {γ : Type} {m : Session σ γ} {g : γ → Attempt σ α} {f : Part σ α}
    (hm : Session.Silent m) (hg : ∀ a, Mirrors c (g a) f) :
  Mirrors c (liftM m >>= g) f
  := by
  rw [Mirrors, run_lift_bind]
  apply Session.Mirrors.silent hm hg

/-- Where one attempt is for a raised signal, the other is mirrored. -/
theorem Mirrors.unlessRaised {m m' : Attempt σ α} {f : Part σ α} (hm : Session.Keeps m.run)
    (h : Mirrors c m' f) :
  Mirrors c (do if ← (Session.isRaised : Session σ Bool) then m else m' : Attempt σ α) f
  := by
  have hleft : (do if ← (Session.isRaised : Session σ Bool) then m else m' : Attempt σ α).run
      = (do if ← Session.isRaised then m.run else m'.run) := by
    apply (run_lift_bind _ _).trans
    congr
  rw [Mirrors, hleft]
  apply Session.Mirrors.unlessRaised hm h

/-- A loop mirrors a loop if its rounds do. -/
theorem mirrors_forM {f : α → Attempt σ PUnit} {k : α → Part σ PUnit}
    (h : ∀ a, Mirrors c (f a) (k a)) :
    ∀ l : List α, Mirrors c (l.forM f) (l.forM k)
  | [] => mirrors_pure _
  | a :: rest => (h a).bind fun _ => mirrors_forM h rest

end Attempt

end ServiceHarness
