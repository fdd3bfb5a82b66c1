import ServiceHarness.Proofs.Run.Parts

/-!
# The part of a run before its teardown

`drive_goes` says what `drive` does.  It goes along the path of its plan (`Plan.path`), phase by
phase: where it succeeds it has entered them all and done what `Drives` says, and where it fails
or is cut short it has entered a first part of them, and a fault fits the last one of these.
That is put together by `Attempt.Goes.bind` from the phases, each of which enters and then stays
within it.
-/

namespace ServiceHarness

variable {σ α β : Type} {c : Controls} {w : World σ}

/-- The phases of a run of the plan before its teardown. -/
def Plan.path (plan : Plan) : List Phase :=
  [.building, .launching] ++ (if plan.workspaceTests then [.workspaceTesting] else [])
    ++ [.waitingReady, .integrationTesting]

/-! ### Going along a path -/

/-- The fault fits the last one of the phases that were entered, which are a first part of the
path. -/
def FailsOn (path : List Phase) (fault : RunFault) (ds : List Event) : Prop :=
  ∃ before p after, path = before ++ p :: after ∧ Trace.phases ds = before ++ [p] ∧ fault.Fits p

theorem FailsOn.append_right {path : List Phase} {fault : RunFault} {ds : List Event}
    (h : FailsOn path fault ds) (path' : List Phase) :
  FailsOn (path ++ path') fault ds
  := by
  obtain ⟨before, p, after, rfl, hphases, hfits⟩ := h
  exact ⟨before, p, after ++ path', List.append_assoc _ _ _, hphases, hfits⟩

theorem FailsOn.append_left {path path' : List Phase} {fault : RunFault} {ds ds' : List Event}
    (h : FailsOn path' fault ds') (hds : Trace.phases ds = path) :
  FailsOn (path ++ path') fault (ds ++ ds')
  := by
  obtain ⟨before, p, after, rfl, hphases, hfits⟩ := h
  use path ++ before, p, after
  constructor
  · rw [List.append_assoc]
  · constructor
    · rw [Trace.phases_append, hds, hphases, List.append_assoc]
    · apply hfits

namespace Attempt

/-- The attempt goes along a path of phases, and does what `done` says where it succeeds.  It is
not cut short before it has entered a phase. -/
def Goes (c : Controls) (path : List Phase) (m : Attempt σ α) (w : World σ)
    (done : α → List Event → Prop) : Prop :=
  Does c m w (fun a ds _ => Trace.phases ds = path ∧ done a ds)
    (fun fault ds _ => FailsOn path fault ds)
    (fun k ds w' => (Trace.phases ds ≠ [] ∧ Trace.phases ds <+: path)
      ∧ (k = .dropped → w'.raised = false))

theorem Goes.imp {path : List Phase} {m : Attempt σ α} {done done' : α → List Event → Prop}
    (h : Goes c path m w done) (hdone : ∀ a ds, done a ds → done' a ds) :
  Goes c path m w done'
  := by
  apply Does.mono h
  · rintro a ds w' ⟨hphases, h'⟩
    exact ⟨hphases, hdone a ds h'⟩
  · intro fault ds w' h'
    exact h'
  · intro k ds w' h'
    exact h'

/-- One attempt after the other goes along one path after the other. -/
theorem Goes.bind {path path' : List Phase} {m : Attempt σ α} {f : α → Attempt σ β}
    {done : α → List Event → Prop} {done' : α → β → List Event → Prop}
    (h : Goes c path m w done)
    (hf : ∀ a w', Moves c w w' → Goes c path' (f a) w' (done' a)) :
  Goes c (path ++ path') (m >>= f) w
    (fun b ds => ∃ a first rest, ds = first ++ rest ∧ done a first ∧ done' a b rest)
  := by
  apply Does.bind
  apply Does.mono h.moves
  · rintro a ds w' ⟨⟨hmoves, -⟩, hphases, hdone⟩
    apply Does.mono (hf a w' hmoves)
    · rintro b ds' w'' ⟨hphases', hdone'⟩
      constructor
      · rw [Trace.phases_append, hphases, hphases']
      · exact ⟨a, ds, ds', rfl, hdone, hdone'⟩
    · intro fault ds' w'' hfails
      apply hfails.append_left hphases
    · rintro k ds' w'' ⟨⟨hsome, hfirst⟩, hdropped⟩
      rw [Trace.phases_append, hphases, List.prefix_append_right_inj]
      exact ⟨⟨List.append_ne_nil_of_right_ne_nil _ hsome, hfirst⟩, hdropped⟩
  · rintro fault ds w' ⟨-, hfails⟩
    apply hfails.append_right
  · rintro k ds w' ⟨-, ⟨hsome, hfirst⟩, hdropped⟩
    exact ⟨⟨hsome, hfirst.trans (List.prefix_append _ _)⟩, hdropped⟩

/-- An attempt that does nothing goes nowhere. -/
theorem goes_pure (a : α) (w : World σ) :
  Goes c [] (pure a) w (fun b ds => b = a ∧ ds = [])
  := does_pure ⟨rfl, rfl, rfl⟩

end Attempt

/-! ### Phases -/

/-- A phase is entered, after the log may have been told that it does not follow. -/
def Enters (p : Phase) (ds : List Event) : Prop :=
  ∃ notices : List Notice, ds = notices.map Event.noticed ++ [.entered p]

/-- A phase is entered, and then something is done. -/
def Through (p : Phase) (done : List Event → Prop) (ds : List Event) : Prop :=
  ∃ entering rest, ds = entering ++ rest ∧ Enters p entering ∧ done rest

theorem Trace.phases_notices (notices : List Notice) :
  Trace.phases (notices.map .noticed) = []
  := by
  rw [Trace.phases, List.filterMap_map]
  apply List.filterMap_eq_nil_iff.mpr
  intro _ _
  rfl

theorem Enters.phases {p : Phase} {ds : List Event} (h : Enters p ds) :
  Trace.phases ds = [p]
  := by
  obtain ⟨notices, rfl⟩ := h
  rw [Trace.phases_append, Trace.phases_notices]
  rfl

theorem Enters.calls {p : Phase} {ds : List Event} (h : Enters p ds) :
  Trace.calls ds = []
  := by
  obtain ⟨notices, rfl⟩ := h
  have hnone : Trace.calls (notices.map .noticed) = [] := by
    simp [Trace.calls, Event.isCall]
  rw [Trace.calls_append, hnone]
  rfl

namespace Session

/-- What the log is told when a phase is entered: that it does not follow the one before it, if
that is so. -/
def enterNotices (before : Option Phase) (p : Phase) : List Notice :=
  match before with
  | some current => if !current.mayPrecede p then [.unexpectedPhase current p] else []
  | none => []

/-- Entering a phase leaves the live services, and tells the log what it has to be told. -/
theorem enter_tells (p : Phase) (w : World σ) :
  Does c (enter p) w
    (fun _ ds w' => ds = (enterNotices w.phase p).map .noticed ++ [.entered p] ∧ w'.live = w.live)
    (fun _ _ _ => False)
  := by
  -- what comes after the log may have been told
  have henter : ∀ (notices : List Notice) (w' : World σ), w'.live = w.live →
      Does c (do modify fun w => { w with phase := some p }; record (.entered p)) w'
        (fun _ ds w'' => notices.map .noticed ++ ds = notices.map .noticed ++ [.entered p]
          ∧ w''.live = w.live)
        (fun _ _ _ => False) := by
    intro notices w' hlive
    exact ⟨.single (.enters w' p), [.entered p],
      World.deeds_record { w' with phase := some p } rfl, rfl, hlive⟩
  apply Does.bind
  apply does_get
  cases hphase : w.phase with
  | some current =>
    dsimp only [enterNotices]
    split
    case isTrue =>
      apply Does.bind
      apply does_tell
      apply henter [.unexpectedPhase current p]
      rfl
    case isFalse =>
      apply henter []
      rfl
  | none =>
    apply henter []
    rfl

/-- Entering a phase leaves the live services. -/
theorem enter_does (p : Phase) (w : World σ) :
  Does c (enter p) w (fun _ ds w' => Enters p ds ∧ w'.live = w.live) (fun _ _ _ => False)
  := by
  apply Does.uncut (enter_tells p w)
  rintro _ ds w' ⟨rfl, hlive⟩
  exact ⟨⟨_, rfl⟩, hlive⟩

end Session

/-- A phase is entered, and then the attempt stays within it. -/
theorem Attempt.goes_enter {p : Phase} {m : Attempt σ α} {done : α → List Event → Prop}
    (h : ∀ w', Moves c w w' → Attempt.Stays c p m w' done) :
  Attempt.Goes c [p] (do Session.enter (σ := σ) p; m : Attempt σ α) w
    (fun a => Through p (done a))
  := by
  apply Attempt.Does.bind
  apply Attempt.does_lift
  apply Session.Does.mono (Session.enter_does p w).moves
  · rintro _ entering w' ⟨⟨hmoves, -⟩, henters, -⟩
    have hphases := henters.phases
    apply Attempt.Does.mono (h w' hmoves)
    · rintro a rest w'' ⟨hnone, hdone⟩
      constructor
      · rw [Trace.phases_append, hphases, hnone]
        rfl
      · exact ⟨entering, rest, rfl, henters, hdone⟩
    · rintro fault rest w'' ⟨hnone, hfits⟩
      use [], p, []
      constructor
      · rfl
      · constructor
        · rw [Trace.phases_append, hphases, hnone]
          rfl
        · apply hfits
    · rintro k rest w'' ⟨hnone, hdropped⟩
      rw [Trace.phases_append, hphases, hnone]
      exact ⟨⟨List.cons_ne_nil _ _, List.prefix_rfl⟩, hdropped⟩
  · rintro _ _ _ ⟨-, h⟩
    apply h.elim

namespace Run

/-! ### The phases of a run -/

/-- The services are built: each is, in order. -/
def Builds (plan : Plan) (ds : List Event) : Prop :=
  ∃ rounds, List.Forall₂ (fun service =>
      Succeeds (.compiling service.name) (plan.buildInvocation service)) plan.services rounds
    ∧ ds = rounds.flatten

/-- The services are launched: each is, in order. -/
def LaunchesAll (P : Ports σ) (plan : Plan) (ds : List Event) : Prop :=
  ∃ rounds, List.Forall₂ (fun service ds => ∃ h, Launches P plan service h ds)
      plan.services rounds
    ∧ ds = rounds.flatten

/-- The workspace is tested, or the log is told that it is not. -/
def TestsWorkspace (plan : Plan) (ds : List Event) : Prop :=
  if plan.workspaceTests then
    Through .workspaceTesting
      (Succeeds (.testing .workspaceTests) plan.workspaceTestInvocation) ds
  else ds = [.noticed .skippingWorkspace]

/-- The instance is awaited until it answers. -/
def Awaits (plan : Plan) (attempts : Nat) (ds : List Event) : Prop :=
  ∃ reasons rest, ds = [.noticed (.awaiting plan.url)] ++ rest
    ∧ Answers plan.url reasons attempts rest
    ∧ attempts = min (reasons.length + 1) attemptLimit

theorem buildServices_goes (P : Ports σ) (c : Controls) (plan : Plan) (w : World σ) :
  Attempt.Goes c [.building] (buildServices P c plan) w
    (fun _ => Through .building (Builds plan))
  := by
  apply Attempt.goes_enter
  intro w' _
  apply Attempt.stays_forM (build_stays P c plan)

theorem launchServices_goes (P : Ports σ) (c : Controls) (plan : Plan) (w : World σ) :
  Attempt.Goes c [.launching] (launchServices P c plan) w
    (fun _ => Through .launching (LaunchesAll P plan))
  := by
  apply Attempt.goes_enter
  intro w' _
  apply Attempt.stays_forM (launchStep_stays P c plan)

theorem testWorkspace_goes (P : Ports σ) (c : Controls) (plan : Plan) (w : World σ) :
  Attempt.Goes c (if plan.workspaceTests then [.workspaceTesting] else []) (testWorkspace P c plan)
    w (fun _ => TestsWorkspace plan)
  := by
  unfold testWorkspace TestsWorkspace
  split
  case isTrue =>
    apply Attempt.goes_enter
    intro w' _
    apply workspaceTests_stays
  case isFalse =>
    apply Attempt.does_lift
    apply Session.does_tell
    exact ⟨rfl, rfl⟩

theorem awaitInstance_goes (P : Ports σ) (c : Controls) (plan : Plan)
    (hinterval : 0 < plan.interval) (hw : w.Orderly c) :
  Attempt.Goes c [.waitingReady] (awaitInstance P c plan) w
    (fun attempts => Through .waitingReady (Awaits plan attempts))
  := by
  apply Attempt.goes_enter
  intro w' hmoves
  apply Attempt.Does.bind
  apply Attempt.does_lift
  apply Session.does_tell
  have hdrop : (w'.tell (.awaiting plan.url)).now ≤ c.dropAt := (hmoves.orderly hw).punctual.1
  apply Attempt.Does.mono (await_stays P c plan hinterval hdrop)
  · rintro attempts rest _ ⟨hphases, reasons, hanswers, hattempts⟩
    constructor
    · apply hphases
    · exact ⟨reasons, rest, rfl, hanswers, hattempts⟩
  · intro fault rest _ h
    exact h
  · intro k rest _ h
    exact h

theorem testInstance_goes (P : Ports σ) (c : Controls) (plan : Plan) (w : World σ) :
  Attempt.Goes c [.integrationTesting] (testInstance P c plan) w
    (fun _ => Through .integrationTesting
      (Succeeds (.testing .integrationTests) plan.integrationTestInvocation))
  := by
  apply Attempt.goes_enter
  intro w' _
  apply integrationTests_stays

/-- What a run that succeeds does before its teardown. -/
def Drives (P : Ports σ) (plan : Plan) (attempts : Nat) (ds : List Event) : Prop :=
  ∃ building launching testing waiting integrating,
    ds = building ++ (launching ++ (testing ++ (waiting ++ integrating)))
    ∧ Through .building (Builds plan) building
    ∧ Through .launching (LaunchesAll P plan) launching
    ∧ TestsWorkspace plan testing
    ∧ Through .waitingReady (Awaits plan attempts) waiting
    ∧ Through .integrationTesting
        (Succeeds (.testing .integrationTests) plan.integrationTestInvocation) integrating

/-- The part of a run before its teardown goes along the path of the plan. -/
theorem drive_goes (P : Ports σ) (c : Controls) (plan : Plan) (hinterval : 0 < plan.interval)
    (hw : w.Orderly c) :
  Attempt.Goes c plan.path (drive P c plan) w (Drives P plan)
  := by
  have hpath : plan.path = [.building] ++ ([.launching]
      ++ ((if plan.workspaceTests then [.workspaceTesting] else [])
      ++ ([.waitingReady] ++ ([.integrationTesting] ++ [])))) := by
    simp [Plan.path]
  rw [hpath]
  have hgoes := (buildServices_goes P c plan w).bind fun _ w₁ hmoves₁ =>
    (launchServices_goes P c plan w₁).bind fun _ w₂ hmoves₂ =>
    (testWorkspace_goes P c plan w₂).bind fun _ w₃ hmoves₃ =>
    (awaitInstance_goes P c plan hinterval
      (hmoves₃.orderly (hmoves₂.orderly (hmoves₁.orderly hw)))).bind fun attempts w₄ _ =>
    (testInstance_goes P c plan w₄).bind fun _ w₅ _ =>
    Attempt.goes_pure attempts w₅
  apply hgoes.imp
  rintro _ _ ⟨_, building, _, rfl, hbuilding, _, launching, _, rfl, hlaunching,
    _, testing, _, rfl, htesting, _, waiting, _, rfl, hwaiting,
    _, integrating, _, rfl, hintegrating, rfl, rfl⟩
  use building, launching, testing, waiting, integrating
  rw [List.append_nil]
  exact ⟨rfl, hbuilding, hlaunching, htesting, hwaiting, hintegrating⟩

end Run

end ServiceHarness
