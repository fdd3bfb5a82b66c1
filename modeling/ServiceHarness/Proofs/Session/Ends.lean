import ServiceHarness.Session.Basic

/-!
# How sessions end

`Session.Ends` says of a session begun in a world how it ends: with an outcome, or cut short,
and in which worlds.  `Attempt.Ends` does so for attempts, which may also fail.  Both are
taken through the constructs that sessions are made of, so that a session is followed step
by step.
-/

namespace ServiceHarness

variable {σ α β : Type}

namespace Session

/-- The session, begun in `w`, ends with an outcome in a world of `ok`, or is cut short in a
world of `cut`. -/
def Ends (m : Session σ α) (w : World σ) (ok : α → World σ → Prop)
    (cut : Cut → World σ → Prop) : Prop :=
  match m.run w with
  | .ok a w' => ok a w'
  | .error k w' => cut k w'

variable {w : World σ} {ok : α → World σ → Prop} {cut : Cut → World σ → Prop}

/-- What follows from how a session ends is also a way in which it ends. -/
theorem Ends.mono {m : Session σ α} {ok' : α → World σ → Prop} {cut' : Cut → World σ → Prop}
    (h : Ends m w ok cut) (hok : ∀ a w', ok a w' → ok' a w')
    (hcut : ∀ k w', cut k w' → cut' k w') :
  Ends m w ok' cut'
  := by
  rw [Ends] at h ⊢
  cases hm : m.run w with
  | ok a w' =>
    rw [hm] at h
    apply hok a w' h
  | error k w' =>
    rw [hm] at h
    apply hcut k w' h

/-- A session ends in all the ways in which it is known to end. -/
theorem Ends.and {m : Session σ α} {ok' : α → World σ → Prop} {cut' : Cut → World σ → Prop}
    (h : Ends m w ok cut) (h' : Ends m w ok' cut') :
  Ends m w (fun a w' => ok a w' ∧ ok' a w') (fun k w' => cut k w' ∧ cut' k w')
  := by
  rw [Ends] at h h' ⊢
  cases hm : m.run w with
  | ok a w' =>
    rw [hm] at h h'
    exact ⟨h, h'⟩
  | error k w' =>
    rw [hm] at h h'
    exact ⟨h, h'⟩

@[simp]
theorem ends_pure (a : α) :
  Ends (pure a) w ok cut ↔ ok a w
  := Iff.rfl

@[simp]
theorem ends_throw (k : Cut) :
  Ends (throw k) w ok cut ↔ cut k w
  := Iff.rfl

@[simp]
theorem ends_get {ok : World σ → World σ → Prop} :
  Ends get w ok cut ↔ ok w w
  := Iff.rfl

@[simp]
theorem ends_set {ok : PUnit → World σ → Prop} (w' : World σ) :
  Ends (set w') w ok cut ↔ ok () w'
  := Iff.rfl

@[simp]
theorem ends_modify {ok : PUnit → World σ → Prop} (f : World σ → World σ) :
  Ends (modify f) w ok cut ↔ ok () (f w)
  := Iff.rfl

@[simp]
theorem ends_tell {ok : Unit → World σ → Prop} (n : Notice) :
  Ends (tell n) w ok cut ↔ ok () (w.tell n)
  := Iff.rfl

@[simp]
theorem ends_isRaised {ok : Bool → World σ → Prop} :
  Ends isRaised w ok cut ↔ ok w.raised w
  := Iff.rfl

@[simp]
theorem ends_bind {ok : β → World σ → Prop} (m : Session σ α) (f : α → Session σ β) :
  Ends (m >>= f) w ok cut ↔ Ends m w (fun a w' => Ends (f a) w' ok cut) cut
  := by
  simp only [Ends, EStateM.run, bind, EStateM.bind]
  cases m w with
  | ok a w' => rfl
  | error k w' => rfl

/-- Where one session is for a raised signal, the other is for one that is not raised. -/
theorem run_ifRaised (m m' : Session σ α) (w : World σ) :
  (do if ← isRaised then m else m').run w = (if w.raised then m else m').run w
  := rfl

end Session

namespace Attempt

/-- The attempt, begun in `w`, ends with an outcome in a world of `ok`, fails in a world of
`fail`, or is cut short in a world of `cut`. -/
def Ends (m : Attempt σ α) (w : World σ) (ok : α → World σ → Prop)
    (fail : RunFault → World σ → Prop) (cut : Cut → World σ → Prop) : Prop :=
  Session.Ends m.run w (fun r w' => match r with
    | .ok a => ok a w'
    | .error fault => fail fault w') cut

variable {w : World σ} {ok : α → World σ → Prop} {fail : RunFault → World σ → Prop}
  {cut : Cut → World σ → Prop}

/-- What follows from how an attempt ends is also a way in which it ends. -/
theorem Ends.mono {m : Attempt σ α} {ok' : α → World σ → Prop}
    {fail' : RunFault → World σ → Prop} {cut' : Cut → World σ → Prop}
    (h : Ends m w ok fail cut) (hok : ∀ a w', ok a w' → ok' a w')
    (hfail : ∀ fault w', fail fault w' → fail' fault w')
    (hcut : ∀ k w', cut k w' → cut' k w') :
  Ends m w ok' fail' cut'
  := by
  apply Session.Ends.mono h
  · rintro (fault | a) w' h'
    · apply hfail fault w' h'
    · apply hok a w' h'
  · apply hcut

/-- An attempt ends in all the ways in which it is known to end. -/
theorem Ends.and {m : Attempt σ α} {ok' : α → World σ → Prop} {fail' : RunFault → World σ → Prop}
    {cut' : Cut → World σ → Prop} (h : Ends m w ok fail cut) (h' : Ends m w ok' fail' cut') :
  Ends m w (fun a w' => ok a w' ∧ ok' a w') (fun fault w' => fail fault w' ∧ fail' fault w')
    (fun k w' => cut k w' ∧ cut' k w')
  := by
  apply Session.Ends.mono (Session.Ends.and h h')
  · rintro (fault | a) w' hboth
    · exact hboth
    · exact hboth
  · intro _ _ hboth
    exact hboth

/-- A session that cannot fail ends as an attempt as it does by itself. -/
@[simp]
theorem ends_lift (m : Session σ α) :
  Ends (liftM m) w ok fail cut ↔ Session.Ends m w ok cut
  := by
  change Session.Ends (Except.ok <$> m) w _ cut ↔ _
  simp only [Session.Ends, EStateM.run, Functor.map, EStateM.map]
  cases m w with
  | ok a w' => rfl
  | error k w' => rfl

@[simp]
theorem ends_bind {ok : β → World σ → Prop} (m : Attempt σ α) (f : α → Attempt σ β) :
  Ends (m >>= f) w ok fail cut ↔ Ends m w (fun a w' => Ends (f a) w' ok fail cut) fail cut
  := by
  rw [Ends, ExceptT.run_bind, Session.ends_bind]
  apply iff_of_eq
  congr 1
  funext r w'
  cases r with
  | ok a => rfl
  | error fault => rfl

end Attempt

end ServiceHarness
