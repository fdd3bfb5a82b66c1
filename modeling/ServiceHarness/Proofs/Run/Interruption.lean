import ServiceHarness.Proofs.Run.Guarded
import ServiceHarness.Scripted

/-!
# Interrupted runs

What the stop signal does to a run.  From the moment at which it is raised no time passes until
the run is over, nothing begins any more, and only the services that were launched before are
interrupted (`StopsAt`).  A run that passes all the same was running its integration tests by
then, and the phase that an interrupted run names is the one in which it was.
-/

namespace ServiceHarness.Run

variable {σ : Type} {c : Controls}

/-- In a run that passes the integration tests begin in their phase. -/
theorem Passes.integration {P : Ports σ} {plan : Plan} {runId : String} {summary : Summary}
    {ds : List Event} (h : Passes P plan runId summary ds) :
  ∃ before after, ds = before ++ .executing plan.integrationTestInvocation :: after
    ∧ .entered .integrationTesting ∈ before
  := by
  obtain ⟨_, finishing, rfl, ⟨building, launching, testing, waiting, _, rfl, -, -, -, -,
    ⟨_, _, rfl, ⟨notices, rfl⟩, ⟨millis, rfl⟩⟩⟩, -⟩ := h
  use [.noticed (.runStarted plan.services.length)] ++ building ++ launching ++ testing ++ waiting
    ++ notices.map .noticed ++ [.entered .integrationTesting,
      .noticed (.testing .integrationTests)],
    [.executed (.ok ⟨0, millis⟩)] ++ finishing
      ++ [.noticed (.passed summary.services.length summary.attempts)]
  constructor
  · simp
  · simp

/-- A run that fails goes along the path of its plan to a phase that the fault fits, and then
fails. -/
theorem Fails.phases {plan : Plan} {fault : RunFault} {ds : List Event} (h : Fails plan fault ds) :
  ∃ before p after, plan.path = before ++ p :: after ∧ fault.Fits p
    ∧ Trace.phases ds = before ++ [p, .failed, .teardown, .done]
  := by
  obtain ⟨driving, _, handles, finishing, rfl, ⟨before, p, after, hpath, hphases, hfits⟩,
    ⟨entering, _, rfl, henters, rfl⟩, htears⟩ := h
  use before, p, after, hpath, hfits
  simp only [Trace.phases_append, Trace.phases_noticed, hphases, henters.phases, htears.phases]
  simp

/-- In a run that passes the integration tests begin before the signal is raised. -/
theorem Passes.integration_before {P : Ports σ} {plan : Plan} {runId : String}
    {summary : Summary} {w : World σ} (h : Passes P plan runId summary w.deeds)
    (hquiet : w.Quiet) {pre post : List Event} {t : Nat}
    (hevents : w.events = pre ++ .raised t :: post) :
  ∃ before after, pre = before ++ .executing plan.integrationTestInvocation :: after
    ∧ .entered .integrationTesting ∈ before
  := by
  obtain ⟨_, _, hdeeds, hmem⟩ := h.integration
  obtain ⟨before, _, hsplit, rfl, -⟩ := Trace.split_filter hdeeds
  obtain ⟨after, rfl⟩ := hquiet.begins_before hevents hsplit rfl
  exact ⟨before, after, rfl, List.mem_of_mem_filter hmem⟩

end ServiceHarness.Run
