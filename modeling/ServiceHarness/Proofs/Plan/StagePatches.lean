import ServiceHarness.Plan

/-!
# The patches of the stages

`Patch.MakesJust` says that a patch makes certain changes and touches no other variable; one more
change takes the place of an earlier one of the same variable (`Patch.MakesJust.step`).  The patches
of a plan carry the log policy and the configuration path (`Plan.CarriesBoth`) exactly if the
operator has not chosen the log variable for the path: there is only one value to give
(`Plan.stagePatches`).
-/

namespace ServiceHarness

namespace Patch

/-- The variable that a change is of. -/
def Step.name : Step → String
  | .assign k _ => k
  | .withdraw k => k

/-- The patch makes the change. -/
def Makes (p : Patch) : Step → Prop
  | .assign k v => p.value? k = some v ∧ p.withdraws k = false
  | .withdraw k => p.value? k = none ∧ p.withdraws k = true

/-- The patch makes all of the changes, and leaves every other variable alone. -/
structure MakesJust (p : Patch) (changes : List Step) : Prop where
  /-- It makes the changes. -/
  makes : ∀ s ∈ changes, p.Makes s
  /-- It leaves every other variable alone. -/
  leaves : ∀ k, (∀ s ∈ changes, s.name ≠ k) → p.value? k = none ∧ p.withdraws k = false

variable {p : Patch}

theorem makesJust_empty :
  empty.MakesJust []
  := by
  constructor
  case makes =>
    intro s hs
    cases hs
  case leaves => exact fun _ _ => ⟨rfl, rfl⟩

/-- The last change of a variable is made. -/
theorem makes_step (p : Patch) (s : Step) :
  (p.step s).Makes s
  := by
  cases s with
  | assign k v => simp [step, Makes, value?_assign, withdraws_assign]
  | withdraw k => simp [step, Makes, value?_withdraw, withdraws_withdraw]

/-- A change does nothing to other variables. -/
theorem lookup_step {s : Step} {k : String} (h : s.name ≠ k) :
  (p.step s).value? k = p.value? k ∧ (p.step s).withdraws k = p.withdraws k
  := by
  cases s with
  | assign k' v =>
    have hne : k ≠ k' := Ne.symm h
    rw [step, value?_assign, withdraws_assign, if_neg hne, if_neg hne]
    exact ⟨rfl, rfl⟩
  | withdraw k' =>
    have hne : k ≠ k' := Ne.symm h
    rw [step, value?_withdraw, withdraws_withdraw, if_neg hne, if_neg hne]
    exact ⟨rfl, rfl⟩

/-- A change of another variable is still made. -/
theorem Makes.step {s t : Step} (h : p.Makes t) (hname : s.name ≠ t.name) :
  (p.step s).Makes t
  := by
  obtain ⟨hvalue, hwithdraws⟩ := lookup_step (p := p) hname
  cases t with
  | assign k v => exact ⟨hvalue.trans h.1, hwithdraws.trans h.2⟩
  | withdraw k => exact ⟨hvalue.trans h.1, hwithdraws.trans h.2⟩

/-- One more change takes the place of those of the same variable. -/
theorem MakesJust.step {changes : List Step} (h : p.MakesJust changes) (s : Step) :
  (p.step s).MakesJust (changes.filter (fun t => s.name != t.name) ++ [s])
  := by
  constructor
  case makes =>
    intro t ht
    obtain ht | ht := List.mem_append.mp ht
    · obtain ⟨hmem, hname⟩ := List.mem_filter.mp ht
      apply (h.makes t hmem).step (by simpa using hname)
    · rw [List.mem_singleton.mp ht]
      apply makes_step
  case leaves =>
    intro k hk
    have hs : s.name ≠ k := hk s (by simp)
    rw [(lookup_step hs).1, (lookup_step hs).2]
    apply h.leaves
    intro t ht
    by_cases hname : s.name = t.name
    · rw [← hname]
      exact hs
    · apply hk t (List.mem_append_left _ (List.mem_filter.mpr ⟨ht, by simpa using hname⟩))

end Patch

namespace Plan

/-- What is done about the logs of builds, services and workspace tests: they are filtered where
output is shown, and left to themselves where it is not. -/
def logPolicy (p : Plan) : Patch.Step :=
  match p.output with
  | .suppressed => .withdraw "RUST_LOG"
  | .streamed => .assign "RUST_LOG" "debug"

/-- The variable gets the configuration path. -/
def confChange (p : Plan) : Patch.Step :=
  .assign p.confVariable p.confPath

/-- The logs of the integration tests are filtered in a way of their own. -/
def integrationPolicy : Patch.Step :=
  .assign "RUST_LOG" "integration_tests=debug"

/-- Builds get the log policy, every later stage gets it together with the configuration path, and
no stage gets anything else. -/
structure CarriesBoth (p : Plan) : Prop where
  /-- The builds get the log policy. -/
  build : p.buildPatch.MakesJust [p.logPolicy]
  /-- The services get both. -/
  service : p.servicePatch.MakesJust [p.logPolicy, p.confChange]
  /-- The workspace tests get both. -/
  workspaceTest : p.workspaceTestPatch.MakesJust [p.logPolicy, p.confChange]
  /-- The integration tests get the path and a log policy of their own. -/
  integrationTest : p.integrationTestPatch.MakesJust [p.confChange, integrationPolicy]

variable (p : Plan)

theorem name_logPolicy :
  p.logPolicy.name = "RUST_LOG"
  := by
  rw [logPolicy]
  cases p.output <;> rfl

theorem buildPatch_makesJust :
  p.buildPatch.MakesJust [p.logPolicy]
  := by
  have hbuild : p.buildPatch = Patch.empty.step p.logPolicy := by
    rw [buildPatch, logPolicy]
    cases p.output <;> rfl
  rw [hbuild]
  apply Patch.makesJust_empty.step

/-- The path takes the place of the log policy if it is given in the same variable. -/
theorem servicePatch_makesJust :
  p.servicePatch.MakesJust
    (if p.confVariable = "RUST_LOG" then [p.confChange] else [p.logPolicy, p.confChange])
  := by
  have hservice := p.buildPatch_makesJust.step p.confChange
  have hname : p.confChange.name = p.confVariable := rfl
  split
  case isTrue h =>
    rw [List.filter_cons_of_neg (by simp [hname, name_logPolicy, h])] at hservice
    exact hservice
  case isFalse h =>
    rw [List.filter_cons_of_pos (by simp [hname, name_logPolicy, h])] at hservice
    exact hservice

/-- The log filter takes the place of the path if that is given in the same variable. -/
theorem integrationTestPatch_makesJust :
  p.integrationTestPatch.MakesJust
    (if p.confVariable = "RUST_LOG" then [integrationPolicy]
      else [p.confChange, integrationPolicy])
  := by
  have hintegration := p.servicePatch_makesJust.step integrationPolicy
  have hname : p.confChange.name = p.confVariable := rfl
  have hpolicy : integrationPolicy.name = "RUST_LOG" := rfl
  split
  case isTrue h =>
    rw [if_pos h, List.filter_cons_of_neg (by simp [hname, hpolicy, h])] at hintegration
    exact hintegration
  case isFalse h =>
    rw [if_neg h, List.filter_cons_of_neg (by simp [name_logPolicy, hpolicy]),
      List.filter_cons_of_pos (by simp [hname, hpolicy, Ne.symm h])] at hintegration
    exact hintegration

/-- No patch for the services and for the integration tests carries both where the path is given in
the log variable: it would have to be the filter of the one stage and that of the other. -/
theorem CarriesBoth.confVariable_ne {p : Plan} (h : p.CarriesBoth) :
  p.confVariable ≠ "RUST_LOG"
  := by
  intro hvariable
  have hpath : p.servicePatch.value? "RUST_LOG" = some p.confPath := by
    have hmakes := h.service.makes p.confChange (by simp)
    rw [confChange, hvariable] at hmakes
    exact hmakes.1
  have hpolicy := h.service.makes p.logPolicy (by simp)
  rw [logPolicy] at hpolicy
  cases houtput : p.output with
  | suppressed =>
    rw [houtput] at hpolicy
    rw [hpolicy.1] at hpath
    cases hpath
  | streamed =>
    rw [houtput] at hpolicy
    have hdebug : p.confPath = "debug" := by
      have hvalue := hpolicy.1
      rw [hpath] at hvalue
      exact Option.some.inj hvalue
    have htests : p.confPath = "integration_tests=debug" := by
      have hconf := (h.integrationTest.makes p.confChange (by simp))
      have hfilter := (h.integrationTest.makes integrationPolicy (by simp)).1
      rw [confChange, hvariable] at hconf
      rw [hconf.1] at hfilter
      exact Option.some.inj hfilter
    rw [hdebug] at htests
    revert htests
    decide

/-- The stages get the log policy and the configuration path, and nothing else, exactly if the path
is not to be given in the log variable.  If it is, then the path is all that the services and the
workspace tests get, the log filter is all that the integration tests get, and the builds get the
log policy as ever. -/
theorem stagePatches :
  (p.CarriesBoth ↔ p.confVariable ≠ "RUST_LOG")
    ∧ p.buildPatch.MakesJust [p.logPolicy]
    ∧ p.servicePatch.MakesJust
      (if p.confVariable = "RUST_LOG" then [p.confChange] else [p.logPolicy, p.confChange])
    ∧ p.workspaceTestPatch = p.servicePatch
    ∧ p.integrationTestPatch.MakesJust
      (if p.confVariable = "RUST_LOG" then [integrationPolicy]
        else [p.confChange, integrationPolicy])
  := by
  have hservice := p.servicePatch_makesJust
  have hintegration := p.integrationTestPatch_makesJust
  constructor
  · constructor
    · apply CarriesBoth.confVariable_ne
    · intro h
      rw [if_neg h] at hservice hintegration
      exact ⟨p.buildPatch_makesJust, hservice, hservice, hintegration⟩
  · exact ⟨p.buildPatch_makesJust, hservice, rfl, hintegration⟩

/-- A valid plan whose log variable is to hold the configuration path: the services get the path
for a log filter, and the integration tests do not get it at all. -/
theorem confVariable_is_log :
  ({ confVariable := "RUST_LOG" } : Plan).validate = .ok ()
    ∧ ¬ ({ confVariable := "RUST_LOG" } : Plan).CarriesBoth
    ∧ ({ confVariable := "RUST_LOG" } : Plan).servicePatch.value? "RUST_LOG"
      = some "tests/Eludris.toml"
    ∧ ({ confVariable := "RUST_LOG" } : Plan).servicePatch.withdraws "RUST_LOG" = false
    ∧ ({ confVariable := "RUST_LOG" } : Plan).integrationTestPatch.value? "RUST_LOG"
      = some "integration_tests=debug"
  := by
  constructor
  · have hdefect : ({ confVariable := "RUST_LOG" } : Plan).defect? = none := by decide +kernel
    rw [validate, hdefect]
  · constructor
    · intro h
      exact h.confVariable_ne rfl
    · decide +kernel

end Plan

end ServiceHarness
