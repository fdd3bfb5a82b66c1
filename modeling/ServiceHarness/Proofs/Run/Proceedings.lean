import ServiceHarness.Proofs.Run.Drive

/-!
# The calls of a run that succeeds

`Proceedings` are the calls of a run in which everything succeeds, in their parts: the builds,
the handles of the services, the workspace tests, the reasons for which the instance was not
ready yet and the integration tests.  `Drives.proceedings` tells that these are the calls of a
run that succeeds before its teardown, all of them and in this order.
-/

namespace ServiceHarness.Run

variable {σ : Type} {P : Ports σ} {plan : Plan} {ds : List Event}

/-- The command is executed once, and exits with the code zero. -/
def Executed (i : Invocation) (calls : List Event) : Prop :=
  ∃ millis, calls = [.executing i, .executed (.ok ⟨0, millis⟩)]

/-- The launcher gives the handle for the service, in some state and at some time. -/
def Gives (P : Ports σ) (plan : Plan) (service : Service) (h : Handle) : Prop :=
  ∃ s t, (P.launch s t service.name (plan.runInvocation service)).result = .ok h

/-- The launches that give the handles for the services. -/
def launches (plan : Plan) (services : List Service) (handles : List Handle) : List Event :=
  List.zipWith (fun service h => .launched service.name (plan.runInvocation service) (.ok h))
    services handles

/-- The calls of a run in which everything succeeds. -/
structure Proceedings (P : Ports σ) (plan : Plan) where
  /-- The calls of each build. -/
  builds : List (List Event)
  /-- The services are built, in order. -/
  built : List.Forall₂ (fun service => Executed (plan.buildInvocation service))
    plan.services builds
  /-- The handles of the services. -/
  handles : List Handle
  /-- They are what the launcher gives for the services, in order. -/
  given : List.Forall₂ (Gives P plan) plan.services handles
  /-- The calls of the workspace tests. -/
  workspace : List Event
  /-- They are run if the plan wants that. -/
  tested : if plan.workspaceTests then Executed plan.workspaceTestInvocation workspace
    else workspace = []
  /-- The reasons for which the instance was not ready yet. -/
  reasons : List String
  /-- The calls of the integration tests. -/
  integration : List Event
  /-- The integration tests are run. -/
  integrated : Executed plan.integrationTestInvocation integration

namespace Proceedings

/-- The probes: refusals, and an answer. -/
def probes (x : Proceedings P plan) : List Event :=
  refusals plan.url x.reasons ++ [.probing plan.url, .probed (.ok ())]

/-- What is called before the integration tests. -/
def preparation (x : Proceedings P plan) : List Event :=
  x.builds.flatten ++ launches plan plan.services x.handles ++ x.workspace ++ x.probes

end Proceedings

/-! ### The calls of each part -/

theorem Succeeds.calls {n : Notice} {i : Invocation} (h : Succeeds n i ds) :
  Executed i (Trace.calls ds)
  := by
  obtain ⟨millis, rfl⟩ := h
  exact ⟨millis, rfl⟩

theorem Builds.calls (h : Builds plan ds) :
  ∃ builds, List.Forall₂ (fun service => Executed (plan.buildInvocation service))
      plan.services builds
    ∧ Trace.calls ds = builds.flatten
  := by
  obtain ⟨rounds, hrounds, rfl⟩ := h
  generalize plan.services = services at hrounds ⊢
  induction hrounds with
  | nil => exact ⟨[], .nil, rfl⟩
  | @cons service round _ _ hround _ ih =>
    obtain ⟨builds, hbuilds, hcalls⟩ := ih
    use Trace.calls round :: builds, .cons hround.calls hbuilds
    rw [List.flatten_cons, Trace.calls_append, hcalls]
    rfl

theorem LaunchesAll.calls (h : LaunchesAll P plan ds) :
  ∃ handles, List.Forall₂ (Gives P plan) plan.services handles
    ∧ Trace.calls ds = launches plan plan.services handles
  := by
  obtain ⟨rounds, hrounds, rfl⟩ := h
  generalize plan.services = services at hrounds ⊢
  induction hrounds with
  | nil => exact ⟨[], .nil, rfl⟩
  | cons hround _ ih =>
    obtain ⟨h, hgives, rfl⟩ := hround
    obtain ⟨handles, hhandles, hcalls⟩ := ih
    use h :: handles, .cons hgives hhandles
    rw [List.flatten_cons, Trace.calls_append, hcalls]
    rfl

theorem TestsWorkspace.calls (h : TestsWorkspace plan ds) :
  if plan.workspaceTests then Executed plan.workspaceTestInvocation (Trace.calls ds)
  else Trace.calls ds = []
  := by
  rw [TestsWorkspace] at h
  split at h
  case isTrue hwanted =>
    obtain ⟨entering, rest, rfl, henters, hsucceeds⟩ := h
    rw [if_pos hwanted, Trace.calls_append, henters.calls]
    apply hsucceeds.calls
  case isFalse hwanted =>
    rw [if_neg hwanted, h]
    rfl

theorem calls_refusals (url : String) (reasons : List String) :
  Trace.calls (refusals url reasons) = refusals url reasons
  := by
  apply List.filter_eq_self.mpr
  intro e he
  obtain ⟨reason, -, he⟩ := List.mem_flatMap.mp he
  obtain rfl | rfl := List.mem_pair.mp he
  · rfl
  · rfl

theorem Awaits.calls {attempts : Nat} (h : Awaits plan attempts ds) :
  ∃ reasons, Trace.calls ds = refusals plan.url reasons ++ [.probing plan.url, .probed (.ok ())]
    ∧ attempts = min (reasons.length + 1) attemptLimit
  := by
  obtain ⟨reasons, rest, rfl, rfl, hattempts⟩ := h
  use reasons
  constructor
  · rw [Trace.calls_append, Trace.calls_append, calls_refusals]
    rfl
  · apply hattempts

/-- What a run that succeeds calls before its teardown, with the number of its probes. -/
theorem Drives.proceedings {attempts : Nat} (h : Drives P plan attempts ds) :
  ∃ x : Proceedings P plan, Trace.calls ds = x.preparation ++ x.integration
    ∧ attempts = min (x.reasons.length + 1) attemptLimit
  := by
  obtain ⟨_, _, testing, _, _, rfl, ⟨_, building, rfl, henters₁, hbuilds⟩,
    ⟨_, launching, rfl, henters₂, hlaunches⟩, htests, ⟨_, waiting, rfl, henters₃, hawaits⟩,
    ⟨_, integrating, rfl, henters₄, hsucceeds⟩⟩ := h
  obtain ⟨builds, hbuilt, hcalls₁⟩ := hbuilds.calls
  obtain ⟨handles, hgiven, hcalls₂⟩ := hlaunches.calls
  obtain ⟨reasons, hcalls₃, hattempts⟩ := hawaits.calls
  use ⟨builds, hbuilt, handles, hgiven, Trace.calls testing, htests.calls, reasons,
    Trace.calls integrating, hsucceeds.calls⟩
  constructor
  · simp only [Trace.calls_append, henters₁.calls, henters₂.calls, henters₃.calls,
      henters₄.calls, hcalls₁, hcalls₂, hcalls₃, List.nil_append, List.append_assoc,
      Proceedings.preparation, Proceedings.probes]
  · apply hattempts

/-! ### What is launched -/

theorem Executed.handles {i : Invocation} {calls : List Event} (h : Executed i calls) :
  Trace.launched calls = [] ∧ Trace.interrupted calls = []
  := by
  obtain ⟨millis, rfl⟩ := h
  exact ⟨rfl, rfl⟩

theorem handles_refusals (url : String) (reasons : List String) :
  Trace.launched (refusals url reasons) = [] ∧ Trace.interrupted (refusals url reasons) = []
  := by
  induction reasons with
  | nil => exact ⟨rfl, rfl⟩
  | cons reason rest ih =>
    rw [refusals, List.flatMap_cons, Trace.launched_append, Trace.interrupted_append]
    exact ih

theorem handles_builds {services : List Service} {builds : List (List Event)}
    (h : List.Forall₂ (fun service => Executed (plan.buildInvocation service)) services builds) :
  Trace.launched builds.flatten = [] ∧ Trace.interrupted builds.flatten = []
  := by
  induction h with
  | nil => exact ⟨rfl, rfl⟩
  | cons hbuild _ ih =>
    rw [List.flatten_cons, Trace.launched_append, Trace.interrupted_append, hbuild.handles.1,
      hbuild.handles.2]
    exact ih

theorem handles_launches {services : List Service} {handles : List Handle}
    (h : List.Forall₂ (Gives P plan) services handles) :
  Trace.launched (launches plan services handles) = handles
    ∧ Trace.interrupted (launches plan services handles) = []
  := by
  induction h with
  | nil => exact ⟨rfl, rfl⟩
  | cons _ _ ih =>
    rw [launches, List.zipWith_cons_cons]
    exact ⟨congrArg (List.cons _) ih.1, ih.2⟩

/-- The handles that the launcher gives are those of the proceedings, and none is interrupted. -/
theorem Proceedings.handles_calls (x : Proceedings P plan) :
  Trace.launched (x.preparation ++ x.integration) = x.handles
    ∧ Trace.interrupted (x.preparation ++ x.integration) = []
  := by
  have hworkspace : Trace.launched x.workspace = [] ∧ Trace.interrupted x.workspace = [] := by
    have htested := x.tested
    split at htested
    · apply htested.handles
    · rw [htested]
      exact ⟨rfl, rfl⟩
  obtain ⟨hbuilds, hbuilds'⟩ := handles_builds x.built
  obtain ⟨hlaunches, hlaunches'⟩ := handles_launches x.given
  obtain ⟨hrefusals, hrefusals'⟩ := handles_refusals plan.url x.reasons
  obtain ⟨hintegration, hintegration'⟩ := x.integrated.handles
  rw [preparation, probes]
  simp only [Trace.launched_append, Trace.interrupted_append, hbuilds, hbuilds', hlaunches,
    hlaunches', hworkspace, hrefusals, hrefusals', hintegration, hintegration']
  constructor
  · simp [Trace.launched, Event.launched?]
  · simp [Trace.interrupted, Event.interrupted?]

/-- What a run launches before its teardown is not interrupted before. -/
theorem Drives.interrupted {attempts : Nat} (h : Drives P plan attempts ds) :
  Trace.interrupted ds = []
  := by
  obtain ⟨x, hcalls, -⟩ := h.proceedings
  rw [← Trace.interrupted_calls, hcalls]
  apply x.handles_calls.2

end ServiceHarness.Run
