import ServiceHarness.Proofs.Session.Doing

/-!
# What sessions maintain

`Session.Maintains` says that a session leads from a world of an invariant to one of the same
invariant, and `Attempt.Maintains` says so of attempts.  What holds where an attempt fails, or
where either is cut short, may be something else.  Both go along with the constructs of
sessions, and nothing has to be known of what the sessions do.
-/

namespace ServiceHarness

variable {σ α β : Type} {c : Controls} {I K : World σ → Prop} {F : RunFault → World σ → Prop}

namespace Session

/-- Begun in a world of `I`, the session ends in one of `I`, or is cut short in one of `K`. -/
def Maintains (I K : World σ → Prop) (m : Session σ α) : Prop :=
  ∀ w, I w → Ends m w (fun _ w' => I w') (fun _ w' => K w')

theorem maintains_pure (a : α) :
  Maintains I K (pure a : Session σ α)
  := fun _ h => h

theorem Maintains.bind {m : Session σ α} {f : α → Session σ β} (h : Maintains I K m)
    (hf : ∀ a, Maintains I K (f a)) :
  Maintains I K (m >>= f)
  := by
  intro w hw
  rw [ends_bind]
  apply Ends.mono (h w hw)
  · intro a w' hw'
    apply hf a w' hw'
  · intro _ _ hcut
    exact hcut

/-- A session that cannot be cut short maintains what the things that it does maintain. -/
theorem maintains_of_does {m : Session σ α} {ok : World σ → α → List Event → World σ → Prop}
    (h : ∀ w, Does c m w (ok w) (fun _ _ _ => False))
    (hok : ∀ w a ds w', I w → Moves c w w' → w'.deeds = w.deeds ++ ds → ok w a ds w' → I w') :
  Maintains I K m
  := by
  intro w hw
  apply Ends.mono (h w)
  · rintro a w' ⟨hmoves, ds, hds, hdone⟩
    apply hok w a ds w' hw hmoves hds hdone
  · rintro _ _ ⟨-, _, -, h⟩
    apply h.elim

end Session

namespace Attempt

/-- Begun in a world of `I`, the attempt ends in one of `I`, fails in one of `F`, or is cut short
in one of `K`. -/
def Maintains (I : World σ → Prop) (F : RunFault → World σ → Prop) (K : World σ → Prop)
    (m : Attempt σ α) : Prop :=
  ∀ w, I w → Ends m w (fun _ w' => I w') F (fun _ w' => K w')

theorem maintains_pure (a : α) :
  Maintains I F K (pure a : Attempt σ α)
  := fun _ h => h

theorem maintains_lift {m : Session σ α} (h : Session.Maintains I K m) :
  Maintains I F K (liftM m)
  := by
  intro w hw
  rw [ends_lift]
  apply h w hw

/-- An attempt whose faults need no more than the invariant maintains it as a session. -/
theorem Maintains.run {m : Attempt σ α} (h : Maintains I (fun _ => I) K m) :
  Session.Maintains I K m.run
  := by
  intro w hw
  apply Session.Ends.mono (h w hw)
  · rintro (fault | a) w' hw'
    · exact hw'
    · exact hw'
  · intro _ _ hcut
    exact hcut

theorem Maintains.bind {m : Attempt σ α} {f : α → Attempt σ β} (h : Maintains I F K m)
    (hf : ∀ a, Maintains I F K (f a)) :
  Maintains I F K (m >>= f)
  := by
  intro w hw
  rw [ends_bind]
  apply Ends.mono (h w hw)
  · intro a w' hw'
    apply hf a w' hw'
  · intro _ _ hfail
    exact hfail
  · intro _ _ hcut
    exact hcut

/-- A loop maintains what its rounds maintain. -/
theorem maintains_forM {f : α → Attempt σ PUnit} (h : ∀ a, Maintains I F K (f a)) :
    ∀ l : List α, Maintains I F K (l.forM f)
  | [] => maintains_pure _
  | a :: rest => (h a).bind fun _ => maintains_forM h rest

end Attempt

end ServiceHarness
