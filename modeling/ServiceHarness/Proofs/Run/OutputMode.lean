import ServiceHarness.Proofs.Plan.StagePatches
import ServiceHarness.Proofs.Run.Afresh
import ServiceHarness.Scripted

/-!
# The output mode

What becomes of the output of the commands changes nothing else in a run.  Two runs of plans that
differ in nothing else, on ports that do not heed it, end alike in the same time and with the same
log, and do the same things in the same order; their commands may differ in the log filter alone,
and those of the integration tests not even in that (`perform_output`).  Sessions of which this is
true are in `Session.Accord`, which is a congruence.
-/

namespace ServiceHarness

variable {σ α : Type} {A : Event → Event → Prop}

/-! ### Sessions in accord -/

/-- The worlds are the same but for what has happened, and that is alike event by event. -/
structure World.Parallel (A : Event → Event → Prop) (w w' : World σ) : Prop where
  /-- Without what has happened they are the same. -/
  bare : w'.bare = w.bare
  /-- What has happened is alike. -/
  events : List.Forall₂ A w.events w'.events

theorem World.parallel_self (hA : ∀ e, A e e) (w : World σ) :
  w.Parallel A w
  := by
  constructor
  case bare => rfl
  case events =>
    apply List.forall₂_same.mpr
    intro e _
    apply hA

/-- More that is alike happens in both worlds. -/
theorem World.Parallel.record {w w' : World σ} (h : w.Parallel A w') {e e' : Event}
    (he : A e e') :
  (w.record e).Parallel A (w'.record e')
  := by
  constructor
  case bare => exact h.bare
  case events =>
    rw [World.events_record, World.events_record]
    apply List.rel_append h.events
    exact .cons he .nil

/-- A service is launched in both worlds, by commands that are alike and with the same answer. -/
theorem World.Parallel.launch {w w' : World σ} (h : w.Parallel A w') {service : String}
    {i i' : Invocation} (answer : Reply σ Handle)
    (he : A (.launched service i answer.result) (.launched service i' answer.result)) :
  (w.launch service i answer).Parallel A (w'.launch service i' answer)
  := by
  constructor
  case bare =>
    have hlaunch : ∀ (v : World σ) (i : Invocation), (v.launch service i answer).bare
        = { v.bare with
            ports := answer.state, live := v.bare.live ++ answer.result.toOption.toList } :=
      fun _ _ => rfl
    rw [hlaunch, hlaunch, h.bare]
  case events => exact (h.record he).events

/-- The same happens after what is alike. -/
theorem World.parallel_preceded (hA : ∀ e, A e e) {before before' : Array Event}
    (h : List.Forall₂ A before.toList before'.toList) (w : World σ) :
  (w.preceded before).Parallel A (w.preceded before')
  := by
  constructor
  case bare => rfl
  case events =>
    rw [World.events_preceded, World.events_preceded]
    apply List.rel_append h
    apply List.forall₂_same.mpr
    intro e _
    apply hA

namespace Session

/-- Sessions have ended alike. -/
inductive EndAlike (A : Event → Event → Prop) :
    EStateM.Result Cut (World σ) α → EStateM.Result Cut (World σ) α → Prop
  /-- With the same outcome. -/
  | ok (a : α) {w w' : World σ} (h : w.Parallel A w') : EndAlike A (.ok a w) (.ok a w')
  /-- Cut short in the same way. -/
  | error (k : Cut) {w w' : World σ} (h : w.Parallel A w') : EndAlike A (.error k w) (.error k w')

/-- Begun in parallel worlds the sessions end alike. -/
def Accord (A : Event → Event → Prop) (α : Type) (m m' : Session σ α) : Prop :=
  ∀ w w', w.Parallel A w' → EndAlike A (m.run w) (m'.run w')

/-- A session that does not look back is in accord with itself. -/
theorem Forgetful.accord (hA : ∀ e, A e e) {m : Session σ α} (h : Forgetful α m m) :
  Accord A α m m
  := by
  intro w w' hw
  have hrun := h w.trace w.bare
  have hrun' := h w'.trace w'.bare
  rw [w.bare_preceded] at hrun
  rw [w'.bare_preceded, hw.bare] at hrun'
  rw [hrun, hrun']
  cases m.run w.bare with
  | ok a v => exact .ok a (World.parallel_preceded hA hw.events v)
  | error k v => exact .error k (World.parallel_preceded hA hw.events v)

theorem accord_congruence (c : Controls) (hA : ∀ e, A e e) :
  Congruence c c (Accord (σ := σ) A)
  := by
  have hforgetful := forgetful_congruence (σ := σ) c
  constructor
  case dropAt => rfl
  case returns => exact fun a => (hforgetful.returns a).accord hA
  case cuts => exact fun k => (hforgetful.cuts k).accord hA
  case binds =>
    intro _ _ m m' f f' h hf w w' hw
    rw [EStateM.run_bind, EStateM.run_bind]
    have hm := h w w' hw
    generalize m.run w = r at hm
    generalize m'.run w' = r' at hm
    cases hm with
    | ok a hv => apply hf a _ _ hv
    | error k hv => exact .error k hv
  case looks => apply hforgetful.looks.accord hA
  case changes => exact fun hf => (hforgetful.changes hf).accord hA
  case suspends => exact fun millis => (hforgetful.suspends millis).accord hA
  case raises => apply hforgetful.raises.accord hA

/-- What happens need only be alike. -/
theorem accord_record {e e' : Event} (he : A e e') :
  Accord (σ := σ) A Unit (record e) (record e')
  := by
  intro w w' hw
  exact .ok () (hw.record he)

end Session

/-! ### Patches that agree but for a variable -/

namespace Patch

/-- The patches do the same to every other variable. -/
def AgreesOff (name : String) (p p' : Patch) : Prop :=
  ∀ k, k ≠ name → p'.value? k = p.value? k ∧ p'.withdraws k = p.withdraws k

variable {name : String} {p p' : Patch}

/-- Patches that do the same to every variable are the same. -/
theorem ext_lookup (h : ∀ k, p'.value? k = p.value? k ∧ p'.withdraws k = p.withdraws k) :
  p' = p
  := by
  have hvalues : p'.values = p.values := KeyMap.ext_get? fun k => (h k).1
  have hremoved : p'.removed = p.removed := by
    apply KeyMap.ext_get?
    intro k
    have hk : (p'.removed.get? k).isSome = (p.removed.get? k).isSome := (h k).2
    cases hget : p.removed.get? k with
    | none =>
      rw [hget] at hk
      simpa using hk
    | some u =>
      rw [hget] at hk
      obtain ⟨u', hu'⟩ := Option.isSome_iff_exists.mp hk
      rw [hu']
  cases p
  cases p'
  simp only at hvalues hremoved
  subst hvalues hremoved
  rfl

theorem agreesOff_self (p : Patch) :
  AgreesOff name p p
  := fun _ _ => ⟨rfl, rfl⟩

/-- What a change does to its own variable does not depend on the changes before. -/
theorem lookup_step_name (p p' : Patch) (s : Step) :
  (p'.step s).value? s.name = (p.step s).value? s.name
    ∧ (p'.step s).withdraws s.name = (p.step s).withdraws s.name
  := by
  cases s with
  | assign k v => simp [Step.name, step, value?_assign, withdraws_assign]
  | withdraw k => simp [Step.name, step, value?_withdraw, withdraws_withdraw]

/-- After the same change they still agree. -/
theorem AgreesOff.step (h : AgreesOff name p p') (s : Step) :
  AgreesOff name (p.step s) (p'.step s)
  := by
  intro k hk
  by_cases hs : s.name = k
  · rw [← hs]
    apply lookup_step_name
  · rw [(lookup_step hs).1, (lookup_step hs).2, (lookup_step hs).1, (lookup_step hs).2]
    apply h k hk

/-- The same change of the variable makes them the same. -/
theorem AgreesOff.step_eq {s : Step} (h : AgreesOff s.name p p') :
  p'.step s = p.step s
  := by
  apply ext_lookup
  intro k
  by_cases hk : k = s.name
  · rw [hk]
    apply lookup_step_name
  · apply h.step s k hk

end Patch

/-! ### Invocations that agree but for the output and the log filter -/

/-- The second invocation is the first but for its output and what it does about the log filter. -/
structure Invocation.AlikeButLog (i i' : Invocation) : Prop where
  /-- They are of the same command. -/
  command : i'.command = i.command
  /-- It is run in the same directory. -/
  directory : i'.directory = i.directory
  /-- It sees the same but for the log filter. -/
  patch : i.patch.AgreesOff "RUST_LOG" i'.patch

namespace Plan

variable (p : Plan) (o : Output)

theorem buildPatch_agreesOff :
  p.buildPatch.AgreesOff "RUST_LOG" { p with output := o }.buildPatch
  := by
  intro k hk
  have hname : ∀ q : Plan, ∀ s ∈ [q.logPolicy], s.name ≠ k := by
    intro q s hs
    rw [List.mem_singleton.mp hs, name_logPolicy]
    exact hk.symm
  obtain ⟨hvalue, hwithdraws⟩ := p.buildPatch_makesJust.leaves k (hname p)
  obtain ⟨hvalue', hwithdraws'⟩ :=
    buildPatch_makesJust { p with output := o } |>.leaves k (hname _)
  exact ⟨hvalue'.trans hvalue.symm, hwithdraws'.trans hwithdraws.symm⟩

theorem servicePatch_agreesOff :
  p.servicePatch.AgreesOff "RUST_LOG" { p with output := o }.servicePatch
  := (p.buildPatch_agreesOff o).step p.confChange

/-- The integration tests see the same. -/
theorem integrationTestPatch_output :
  { p with output := o }.integrationTestPatch = p.integrationTestPatch
  := (p.servicePatch_agreesOff o).step_eq (s := integrationPolicy)

theorem value?_integrationTestPatch :
  p.integrationTestPatch.value? "RUST_LOG" = some "integration_tests=debug"
  := (Patch.makes_step p.servicePatch integrationPolicy).1

/-- No build has the log filter of the integration tests. -/
theorem value?_buildPatch_ne :
  p.buildPatch.value? "RUST_LOG" ≠ some "integration_tests=debug"
  := by
  have hpolicy := p.buildPatch_makesJust.makes p.logPolicy (List.mem_singleton_self _)
  rw [logPolicy] at hpolicy
  cases houtput : p.output with
  | suppressed =>
    rw [houtput] at hpolicy
    rw [hpolicy.1]
    rintro ⟨⟩
  | streamed =>
    rw [houtput] at hpolicy
    rw [hpolicy.1]
    decide

theorem buildPatch_ne_integrationTestPatch :
  p.buildPatch ≠ p.integrationTestPatch
  := by
  intro h
  apply p.value?_buildPatch_ne
  rw [h, value?_integrationTestPatch]

/-- If the services see what the integration tests see, they do so with any output: the filter is
then the path that they are given. -/
theorem servicePatch_output_of_eq (h : p.servicePatch = p.integrationTestPatch) :
  { p with output := o }.servicePatch = p.servicePatch
  := by
  by_cases hvariable : p.confVariable = "RUST_LOG"
  · have hagree := p.buildPatch_agreesOff o
    rw [← hvariable] at hagree
    exact hagree.step_eq (s := p.confChange)
  · exfalso
    apply p.value?_buildPatch_ne
    have hvalue := (Patch.lookup_step (p := p.buildPatch) (s := p.confChange) hvariable).1
    have hservice : (p.buildPatch.step p.confChange) = p.servicePatch := rfl
    rw [← hvalue, hservice, h, value?_integrationTestPatch]

end Plan

/-! ### Events -/

/-- What two runs do at the same point: the same, but the invocations need only be alike but for
the log, and those of the integration tests have the same patch. -/
inductive Event.Alike (plan : Plan) : Event → Event → Prop
  /-- The same happens. -/
  | same (e : Event) : Alike plan e e
  /-- Alike commands are executed. -/
  | executes {i i' : Invocation} (h : i.AlikeButLog i')
      (htest : i = plan.integrationTestInvocation → i'.patch = i.patch) :
      Alike plan (.executing i) (.executing i')
  /-- A service is launched by alike commands, with the same result. -/
  | launches (service : String) {i i' : Invocation} (h : i.AlikeButLog i')
      (result : Except ProcessFault Handle) :
      Alike plan (.launched service i result) (.launched service i' result)

variable {plan : Plan} {o : Output}

theorem Event.Alike.phase? {e e' : Event} (h : e.Alike plan e') :
  e'.phase? = e.phase?
  := by
  cases h with
  | same => rfl
  | executes => rfl
  | launches => rfl

theorem Event.Alike.notice? {e e' : Event} (h : e.Alike plan e') :
  e'.notice? = e.notice?
  := by
  cases h with
  | same => rfl
  | executes => rfl
  | launches => rfl

/-- The same is found in what has happened if it is found in events that are alike. -/
theorem World.Parallel.filterMap {w w' : World σ} (h : w.Parallel A w') {f : Event → Option α}
    (hf : ∀ e e', A e e' → f e' = f e) :
  w'.events.filterMap f = w.events.filterMap f
  := by
  have hall := h.events
  generalize w.events = es at hall
  generalize w'.events = es' at hall
  induction hall with
  | nil => rfl
  | cons he _ ih => rw [List.filterMap_cons, List.filterMap_cons, hf _ _ he, ih]

/-- The ports heed of an invocation its command and its directory alone. -/
structure Ports.HeedsCommands (P : Ports σ) : Prop where
  /-- When it is executed. -/
  execute : ∀ s now {i i' : Invocation}, i'.command = i.command → i'.directory = i.directory →
    P.execute s now i' = P.execute s now i
  /-- When it launches a service. -/
  launch : ∀ s now service {i i' : Invocation}, i'.command = i.command →
    i'.directory = i.directory → P.launch s now service i' = P.launch s now service i

namespace Run

variable {P : Ports σ}

/-! ### Runs -/

/-- Alike commands are begun in accord. -/
theorem begin_accord (c : Controls) (hP : P.HeedsCommands) (n : Notice) {i i' : Invocation}
    (h : i.AlikeButLog i') (htest : i = plan.integrationTestInvocation → i'.patch = i.patch) :
  Session.Accord (Event.Alike plan) _ (begin P n i) (begin P n i')
  := by
  apply begin_congruent (Session.accord_congruence c Event.Alike.same)
  · apply Session.accord_record (.executes h htest)
  · intro s now
    apply hP.execute s now h.command h.directory

/-- Services are launched in accord. -/
theorem launch_accord (c : Controls) (hP : P.HeedsCommands) {plan' : Plan} (service : Service)
    (h : (plan.runInvocation service).AlikeButLog (plan'.runInvocation service)) :
  Session.Accord (Event.Alike plan) _ (launch P c plan service) (launch P c plan' service)
  := by
  apply launch_congruent (Session.accord_congruence c Event.Alike.same)
  · intro answer w w' hw
    exact .ok () (hw.launch answer (.launches service.name h _))
  · intro s now
    apply hP.launch s now service.name h.command h.directory

/-- Plans that differ in the output are run in the same way by ports that do not heed it. -/
theorem counterparts_output (c : Controls) (hP : P.HeedsCommands) (plan : Plan) (o : Output) :
  Counterparts (Session.Accord (Event.Alike plan)) P c c plan { plan with output := o }
  := by
  constructor
  case services => rfl
  case workspaceTests => rfl
  case url => rfl
  case interval => rfl
  case builds =>
    intro service
    apply begin_accord c hP
    · exact ⟨rfl, rfl, plan.buildPatch_agreesOff o⟩
    · intro htest
      exfalso
      apply plan.buildPatch_ne_integrationTestPatch
      exact congrArg Invocation.patch htest
  case launches =>
    intro service
    apply launch_accord c hP
    exact ⟨rfl, rfl, plan.servicePatch_agreesOff o⟩
  case testsWorkspace =>
    apply begin_accord c hP
    · exact ⟨rfl, rfl, plan.servicePatch_agreesOff o⟩
    · intro htest
      apply plan.servicePatch_output_of_eq o
      exact congrArg Invocation.patch htest
  case testsInstance =>
    have hpatch := plan.integrationTestPatch_output o
    apply begin_accord c hP
    · refine ⟨rfl, rfl, ?_⟩
      change plan.integrationTestPatch.AgreesOff "RUST_LOG"
        { plan with output := o }.integrationTestPatch
      rw [hpatch]
      apply Patch.agreesOff_self
    · intro _
      exact hpatch

/-- Services are stopped in accord. -/
theorem abandon_parallel (P : Ports σ) {w w' : World σ} (h : w.Parallel (Event.Alike plan) w') :
  (abandon P c w).Parallel (Event.Alike plan) (abandon P c w')
  := by
  rw [← w.bare_preceded, ← w'.bare_preceded, h.bare, abandon_preceded, abandon_preceded]
  apply World.parallel_preceded Event.Alike.same h.events

/-- Runs of plans that differ in the output have the same verdict and end in parallel worlds. -/
theorem perform_parallel (hP : P.HeedsCommands) (c : Controls) (plan : Plan) (o : Output)
    (runId : String) (ports : σ) :
  (perform P c { plan with output := o } runId ports).verdict
      = (perform P c plan runId ports).verdict
    ∧ (perform P c plan runId ports).world.Parallel (Event.Alike plan)
      (perform P c { plan with output := o } runId ports).world
  := by
  have hdefect : ({ plan with output := o } : Plan).defect? = plan.defect? := rfl
  have hinitial : (World.initial c ports).Parallel (Event.Alike plan) (World.initial c ports) :=
    World.parallel_self Event.Alike.same _
  rw [perform, perform, hdefect]
  cases plan.defect? with
  | some defect => exact ⟨rfl, hinitial⟩
  | none =>
    have hguarded := (counterparts_output c hP plan o).guarded
      (Session.accord_congruence c Event.Alike.same) runId _ _ hinitial
    dsimp only
    generalize (guarded P c plan runId).run (World.initial c ports) = r at hguarded
    generalize (guarded P c { plan with output := o } runId).run (World.initial c ports) = r'
      at hguarded
    cases hguarded with
    | ok result h =>
      cases result with
      | ok summary => exact ⟨rfl, h⟩
      | error fault => exact ⟨rfl, h⟩
    | error k h => exact ⟨rfl, abandon_parallel P h⟩

/-- What becomes of the output of the commands changes nothing else in a run, if the ports heed of a
command no more than what is executed and where.  With any output the run has the same verdict
after the same time, and leaves the ports, the signal and the services in the same state.  The log
is told the same, the same phases are entered, and the same things happen in the same order: only
the invocations may differ, in their output and in what they do about the log filter, and those of
the integration tests in their output alone. -/
theorem perform_output (hP : P.HeedsCommands) (c : Controls) (plan : Plan) (o : Output)
    (runId : String) (ports : σ) :
  let r := perform P c plan runId ports
  let r' := perform P c { plan with output := o } runId ports
  r'.verdict = r.verdict ∧ r'.world.bare = r.world.bare
    ∧ r'.world.phases = r.world.phases ∧ r'.world.notices = r.world.notices
    ∧ List.Forall₂ (Event.Alike plan) r.world.events r'.world.events
  := by
  obtain ⟨hverdict, hworld⟩ := perform_parallel hP c plan o runId ports
  use hverdict, hworld.bare
  use hworld.filterMap fun _ _ h => h.phase?
  use hworld.filterMap fun _ _ h => h.notice?
  apply hworld.events

/-- Ports that play a script know commands by their texts. -/
theorem heedsCommands_scripted (script : Scripted.Script) :
  (Scripted.ports script).HeedsCommands
  := by
  constructor
  case execute =>
    intro s now i i' hcommand _
    simp only [Scripted.ports, hcommand]
  case launch =>
    intro s now service i i' _ _
    rfl

/-- The default plan with and without the output of its commands, where the instance refuses two
probes: the builds differ, and nothing else does. -/
theorem perform_output_readyAfter :
  let P := Scripted.ports { probes := .readyAfter 2 }
  let r := perform P { dropAt := 120007 } {} "run-1" {}
  let r' := perform P { dropAt := 120007 } { output := .streamed } "run-1" {}
  P.HeedsCommands
    ∧ ({ output := .streamed } : Plan).buildInvocation (.cargo "oprish")
      ≠ ({} : Plan).buildInvocation (.cargo "oprish")
    ∧ r.verdict = .passed {
        runId := "run-1"
        services := ["oprish", "pandemonium", "effis"]
        attempts := 3
        teardown := { stopped := ["oprish", "pandemonium", "effis"] } }
    ∧ r'.verdict = r.verdict ∧ r'.world.bare = r.world.bare
    ∧ r'.world.phases = r.world.phases ∧ r'.world.notices = r.world.notices
    ∧ List.Forall₂ (Event.Alike {}) r.world.events r'.world.events
  := by
  intro P r r'
  use heedsCommands_scripted _, by decide +kernel, by decide +kernel
  apply perform_output (heedsCommands_scripted { probes := .readyAfter 2 }) { dropAt := 120007 } {}
    .streamed "run-1" {}

end Run

end ServiceHarness
