import ServiceHarness.Proofs.Session.Congruence
import ServiceHarness.Run.Basic

/-!
# Relations and the parts of a run

A run is put together in the same way whatever the controls are, so a relation that is a
`Session.Congruence` holds of each of its parts under the one controls and the other, and of the
run itself (`guarded_congruent`).  Beside what `Session.Congruence` says this takes that launching
a service and interrupting the live ones are mild changes of the world.
-/

namespace ServiceHarness.Run

variable {σ α : Type} {c c' : Controls}

/-! ### The changes that a run makes -/

theorem stop_mild (P : Ports σ) (h : Handle) :
  World.Mild (stop P c h)
  := by
  constructor
  case past =>
    intro before w
    have hports : (w.preceded before).ports = w.ports := rfl
    have hnow : (w.preceded before).now = w.now := rfl
    rw [stop, stop, hports, hnow]
    dsimp only
    rw [World.tell_preceded, World.interrupt_preceded, World.raiseIf_preceded]
    -- the log may be told of the answer
    cases answerNotice h (P.interrupt w.ports w.now h).result <;> simp
  case raised =>
    intro w hraised
    rw [stop]
    dsimp only
    generalize P.interrupt w.ports w.now h = answer
    have hinterrupted : (((w.tell (.stopping h.name h.pid)).interrupt h answer).raiseIf
        answer.raises c).raised = true :=
      World.raised_raiseIf answer.raises c hraised
    cases answerNotice h answer.result with
    | none => exact hinterrupted
    | some n => exact hinterrupted

theorem stopAll_mild (P : Ports σ) :
    ∀ (handles : List Handle) (t : Teardown), World.Mild (stopAll P c handles t)
  | [], _ => ⟨fun _ _ => rfl, fun _ hraised => hraised⟩
  | h :: rest, t => by
    constructor
    case past =>
      intro before w
      rw [stopAll, (stop_mild P h).past before w]
      apply (stopAll_mild P rest _).past before
    case raised =>
      intro w hraised
      rw [stopAll]
      apply (stopAll_mild P rest _).raised
      apply (stop_mild P h).raised w hraised

theorem teardownWorld_mild (P : Ports σ) :
  World.Mild (teardownWorld P c)
  := by
  constructor
  case past =>
    intro before w
    apply (stopAll_mild P w.live {}).past before w
  case raised =>
    intro w hraised
    apply (stopAll_mild P w.live {}).raised w hraised

theorem abandon_preceded (P : Ports σ) (before : Array Event) (w : World σ) :
  abandon P c (w.preceded before) = (abandon P c w).preceded before
  := by
  have hlive : (w.preceded before).live = w.live := rfl
  rw [abandon, abandon, hlive, World.tell_preceded, (teardownWorld_mild P).past]
  split
  · rfl
  · rfl

theorem raised_abandon (P : Ports σ) {w : World σ} (hraised : w.raised = true) :
  (abandon P c w).raised = true
  := by
  rw [abandon]
  split
  · exact hraised
  · apply (teardownWorld_mild P).raised
    exact hraised

/-! ### The parts of a run -/

variable {R : ∀ α : Type, Session σ α → Session σ α → Prop} (h : Session.Congruence c c' R)

include h

/-- Commands that the ports take for the same are begun alike if to record them is related. -/
theorem begin_congruent (P : Ports σ) (n : Notice) {i i' : Invocation}
    (hrecord : R Unit (Session.record (.executing i)) (Session.record (.executing i')))
    (hexecute : ∀ s now, P.execute s now i' = P.execute s now i) :
  R _ (begin P n i) (begin P n i')
  := by
  apply h.binds (h.tells n)
  intro _
  apply h.binds hrecord
  intro _
  apply h.consults
  · intro _ _
    rfl
  · intro _ _
    rfl
  · intro w
    rw [hexecute]
    apply h.returns

theorem stage_congruent (P : Ports σ) (phase : Phase) (n : Notice) {i i' : Invocation}
    (hbegin : R _ (begin P n i) (begin P n i')) (failure : Int → RunFault) :
  R _ (stage P c phase n i failure).run (stage P c' phase n i' failure).run
  := by
  apply h.lifts (h.binds (h.races hbegin) (h.concludes _))
  rintro (_ | fault | completion)
  · apply h.returns
  · apply h.returns
  · dsimp only
    split
    case isTrue => apply h.returns
    case isFalse =>
      apply h.lifts h.asks
      intro raised
      split
      · apply h.returns
      · apply h.returns

/-- A service is launched alike if the ports take its commands for the same and to record that it
is launched is related. -/
theorem launch_congruent (P : Ports σ) {plan plan' : Plan} (service : Service)
    (hrecord : ∀ answer,
      R PUnit (modify (·.launch service.name (plan.runInvocation service) answer))
        (modify (·.launch service.name (plan'.runInvocation service) answer)))
    (hlaunch : ∀ s now, P.launch s now service.name (plan'.runInvocation service)
      = P.launch s now service.name (plan.runInvocation service)) :
  R _ (launch P c plan service) (launch P c' plan' service)
  := by
  apply h.binds (h.tells _)
  intro _
  apply h.consults
  · intro _ _
    rfl
  · intro _ _
    rfl
  · intro w
    dsimp only
    rw [hlaunch]
    generalize P.launch w.ports w.now service.name (plan.runInvocation service) = answer
    apply h.binds (hrecord answer)
    intro _
    apply h.binds (h.raisesIf answer.raises)
    intro _
    split
    · apply h.returns
    · apply h.binds (h.tells _)
      intro _
      apply h.returns

theorem launchStep_congruent (P : Ports σ) {plan plan' : Plan} (service : Service)
    (hlaunch : R _ (launch P c plan service) (launch P c' plan' service)) :
  R _ (launchStep P c plan service).run (launchStep P c' plan' service).run
  := by
  apply h.lifts h.asks
  intro raised
  split
  case isTrue => apply h.returns
  case isFalse =>
    apply h.lifts hlaunch
    rintro (fault | pid)
    · apply h.returns
    · apply h.returns

theorem beginProbe_congruent (P : Ports σ) (url : String) :
  R _ (beginProbe P url) (beginProbe P url)
  := by
  apply h.binds (h.records _)
  intro _
  apply h.consults
  · intro _ _
    rfl
  · intro _ _
    rfl
  · intro w
    apply h.returns

theorem awaitFrom_congruent (P : Ports σ) (url : String) (interval : Nat) :
    ∀ patience attempts : Nat,
      R _ (awaitFrom P c url interval patience attempts)
        (awaitFrom P c' url interval patience attempts)
  | 0, _ => h.cuts _
  | patience + 1, attempts => by
    apply h.ifRaised
    · apply h.returns
    · apply h.binds (h.binds (h.races (beginProbe_congruent h P url)) (h.concludes _))
      rintro (_ | (reason | reason) | _)
      · apply h.returns
      · apply h.binds (h.suspends (some interval))
        rintro (_ | _)
        · apply awaitFrom_congruent P url interval patience
        · apply h.returns
      · apply h.returns
      · apply h.binds (h.tells _)
        intro _
        apply h.returns

theorem awaitReady_congruent (P : Ports σ) (url : String) (interval : Nat) :
  R _ (awaitReady P c url interval) (awaitReady P c' url interval)
  := by
  rw [awaitReady, awaitReady, patience, patience, h.dropAt]
  apply awaitFrom_congruent h

/-! ### The whole -/

/-- A phase is entered, and then an attempt goes on. -/
theorem within_congruent (p : Phase) {m m' : Attempt σ α} (hm : R _ m.run m'.run) :
  R _ (do Session.enter (σ := σ) p; m : Attempt σ α).run
    (do Session.enter (σ := σ) p; m' : Attempt σ α).run
  := h.lifts (h.enters p) fun _ => hm

omit h in
/-- Two plans are run in the same way: what they have executed and launched is begun as the
relation has it, and else they agree in what a run reads of them. -/
structure Counterparts (R : ∀ α : Type, Session σ α → Session σ α → Prop) (P : Ports σ)
    (c c' : Controls) (plan plan' : Plan) : Prop where
  /-- They have the same services. -/
  services : plan'.services = plan.services
  /-- Both or none test the workspace. -/
  workspaceTests : plan'.workspaceTests = plan.workspaceTests
  /-- They probe the same URL. -/
  url : plan'.url = plan.url
  /-- They probe it as often. -/
  interval : plan'.interval = plan.interval
  /-- They build a service alike. -/
  builds (service : Service) :
    R _ (begin P (.compiling service.name) (plan.buildInvocation service))
      (begin P (.compiling service.name) (plan'.buildInvocation service))
  /-- They launch a service alike. -/
  launches (service : Service) :
    R _ (launch P c plan service) (launch P c' plan' service)
  /-- They test the workspace alike. -/
  testsWorkspace :
    R _ (begin P (.testing .workspaceTests) plan.workspaceTestInvocation)
      (begin P (.testing .workspaceTests) plan'.workspaceTestInvocation)
  /-- They test the instance alike. -/
  testsInstance :
    R _ (begin P (.testing .integrationTests) plan.integrationTestInvocation)
      (begin P (.testing .integrationTests) plan'.integrationTestInvocation)

/-- A plan is run as it is run. -/
theorem counterparts_self (P : Ports σ) (plan : Plan) :
  Counterparts R P c c' plan plan
  := by
  constructor
  case services => rfl
  case workspaceTests => rfl
  case url => rfl
  case interval => rfl
  case builds => exact fun service => begin_congruent h P _ (h.records _) fun _ _ => rfl
  case launches =>
    intro service
    apply launch_congruent h P service _ fun _ _ => rfl
    intro answer
    apply h.modifies
    · intro before w
      apply w.launch_preceded
    · intro _ hraised
      exact hraised
  case testsWorkspace => exact begin_congruent h P _ (h.records _) fun _ _ => rfl
  case testsInstance => exact begin_congruent h P _ (h.records _) fun _ _ => rfl

theorem drive_congruent (P : Ports σ) {plan plan' : Plan}
    (hplans : Counterparts R P c c' plan plan') :
  R _ (drive P c plan).run (drive P c' plan').run
  := by
  have hbuild : R _ (buildServices P c plan).run (buildServices P c' plan').run := by
    rw [buildServices, buildServices, hplans.services]
    apply within_congruent h
    apply h.loops
    intro service
    apply stage_congruent h
    apply hplans.builds
  have hlaunch : R _ (launchServices P c plan).run (launchServices P c' plan').run := by
    rw [launchServices, launchServices, hplans.services]
    apply within_congruent h
    apply h.loops
    intro service
    apply launchStep_congruent h
    apply hplans.launches
  have hworkspace : R _ (testWorkspace P c plan).run (testWorkspace P c' plan').run := by
    rw [testWorkspace, testWorkspace, hplans.workspaceTests]
    split
    case isTrue =>
      apply within_congruent h
      apply stage_congruent h
      apply hplans.testsWorkspace
    case isFalse => apply h.succeeds (h.tells _)
  have hawait : R _ (awaitInstance P c plan).run (awaitInstance P c' plan').run := by
    rw [awaitInstance, awaitInstance, await, await, hplans.url, hplans.interval]
    apply within_congruent h
    apply h.lifts (h.tells _)
    intro _
    apply h.lifts (awaitReady_congruent h P plan.url plan.interval)
    rintro (fault | attempts)
    · apply h.returns
    · apply h.returns
  have htest : R _ (testInstance P c plan).run (testInstance P c' plan').run := by
    apply within_congruent h
    apply stage_congruent h
    apply hplans.testsInstance
  apply h.attempts hbuild
  intro _
  apply h.attempts hlaunch
  intro _
  apply h.attempts hworkspace
  intro _
  apply h.attempts hawait
  intro attempts
  apply h.attempts htest
  intro _
  apply h.returns

omit h in
/-- To interrupt the first live service is to do one thing after the other. -/
theorem modifyGet_stop (P : Ports σ) (c : Controls) (handle : Handle) :
  (modifyGet (stop P c handle) : Session σ _) = do
    Session.tell (.stopping handle.name handle.pid)
    let w ← get
    let answer := P.interrupt w.ports w.now handle
    modify (·.interrupt handle answer)
    modify (World.raiseIf answer.raises c)
    (answerNotice handle answer.result).elim (pure ()) Session.tell
    return answer.result
  := by
  have hnotice : ∀ (notice : Option Notice) (w : World σ),
      (notice.elim (pure ()) Session.tell : Session σ Unit).run w = .ok () (notice.elim w w.tell) := by
    intro notice w
    cases notice with
    | none => rfl
    | some n => rfl
  funext w
  change _ = ((answerNotice handle (P.interrupt w.ports w.now handle).result).elim (pure ())
    Session.tell >>= fun _ => pure (P.interrupt w.ports w.now handle).result).run _
  rw [EStateM.run_bind, hnotice]
  rfl

theorem stop_congruent (P : Ports σ) (handle : Handle) :
  R _ (modifyGet (stop P c handle)) (modifyGet (stop P c' handle))
  := by
  rw [modifyGet_stop, modifyGet_stop]
  apply h.binds (h.tells _)
  intro _
  apply h.consults
  · intro _ _
    rfl
  · intro _ _
    rfl
  · intro w
    dsimp only
    generalize P.interrupt w.ports w.now handle = answer
    apply h.binds
    · apply h.modifies
      · intro before w
        apply w.interrupt_preceded
      · intro _ hraised
        exact hraised
    · intro _
      apply h.binds (h.raisesIf answer.raises)
      intro _
      cases answerNotice handle answer.result with
      | none => apply h.returns
      | some n =>
        apply h.binds (h.tells n)
        intro _
        apply h.returns

theorem stopAll_congruent (P : Ports σ) :
    ∀ (handles : List Handle) (t : Teardown),
      R _ (modifyGet (stopAll P c handles t)) (modifyGet (stopAll P c' handles t))
  | [], t => h.returns t
  | handle :: rest, t => by
    change R _ (modifyGet (stop P c handle) >>= fun answer =>
        modifyGet (stopAll P c rest (t.add handle answer)))
      (modifyGet (stop P c' handle) >>= fun answer =>
        modifyGet (stopAll P c' rest (t.add handle answer)))
    apply h.binds (stop_congruent h P handle)
    intro answer
    apply stopAll_congruent P rest

theorem teardown_congruent (P : Ports σ) :
  R _ (teardown P c) (teardown P c')
  := by
  change R _ (get >>= fun w => modifyGet (stopAll P c w.live {}))
    (get >>= fun w => modifyGet (stopAll P c' w.live {}))
  apply h.consults
  · intro _ _
    rfl
  · intro _ _
    rfl
  · intro w
    apply stopAll_congruent h P

/-- The teardown phases, after which something goes on. -/
theorem finish_congruent (P : Ports σ) {f : Teardown → Session σ α} (hf : ∀ t, R _ (f t) (f t)) :
  R _ (do Session.enter .teardown; let t ← teardown P c; Session.enter .done; f t)
    (do Session.enter .teardown; let t ← teardown P c'; Session.enter .done; f t)
  := by
  apply h.binds (h.enters _)
  intro _
  apply h.binds (teardown_congruent h P)
  intro t
  apply h.binds (h.enters _)
  intro _
  apply hf

/-- Two plans that are run in the same way have related runs. -/
theorem Counterparts.guarded {P : Ports σ} {plan plan' : Plan}
    (hplans : Counterparts R P c c' plan plan') (runId : String) :
  R _ (guarded P c plan runId) (guarded P c' plan' runId)
  := by
  rw [Run.guarded, Run.guarded, hplans.services]
  apply h.binds (h.tells _)
  intro _
  apply h.binds (drive_congruent h P hplans)
  intro outcome
  apply h.consults
  · intro _ _
    rfl
  · intro _ _
    rfl
  · intro w
    cases outcome with
    | error fault =>
      apply h.binds (h.enters _)
      intro _
      apply h.binds (h.tells _)
      intro _
      apply finish_congruent h
      intro _
      apply h.returns
    | ok attempts =>
      apply finish_congruent h
      intro t
      apply h.binds (h.tells _)
      intro _
      apply h.returns

/-- A run is related to itself, under the one controls and the other. -/
theorem guarded_congruent (P : Ports σ) (plan : Plan) (runId : String) :
  R _ (guarded P c plan runId) (guarded P c' plan runId)
  := (counterparts_self h P plan).guarded h runId

end ServiceHarness.Run
