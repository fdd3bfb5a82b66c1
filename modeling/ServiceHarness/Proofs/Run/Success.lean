import ServiceHarness.Proofs.Run.Transcript
import ServiceHarness.Scripted

/-!
# Runs that pass

A run passes only if everything was done and succeeded: the calls of its ports are those of
some `Proceedings`, all of them answered so by the ports, followed by the interrupts of the
services; and its summary tells what happened.
-/

namespace ServiceHarness.Run

variable {σ : Type} {P : Ports σ} {plan : Plan}

/-- The handles of a launcher that names them after their services have the names of the
services. -/
theorem names_of_gives (hnames : ∀ s t name i h, (P.launch s t name i).result = .ok h →
      h.name = name)
    {services : List Service} {handles : List Handle}
    (h : List.Forall₂ (Gives P plan) services handles) :
  handles.map Handle.name = services.map Service.name
  := by
  induction h with
  | nil => rfl
  | cons hgives _ ih =>
    obtain ⟨s, t, hgives⟩ := hgives
    rw [List.map_cons, List.map_cons, hnames s t _ _ _ hgives, ih]

/-- The teardown phases call the launcher alone, for the interrupts. -/
theorem TearsDown.calls {handles : List Handle} {ds : List Event} (h : TearsDown handles ds) :
  ∃ answers : List (Except ProcessFault SignalOutcome), answers.length = handles.length
    ∧ Trace.calls ds = List.zipWith Event.interrupted handles answers
  := by
  obtain ⟨entering, entering', answers, rfl, henters, hlength, henters'⟩ := h
  use answers, hlength
  rw [Trace.calls_append, Trace.calls_append, henters.calls, henters'.calls,
    calls_zipWith_stops, List.nil_append, List.append_nil]

/-- The calls of a run that passes, the answers to those before its teardown, and what its summary
tells of them. -/
theorem perform_proceedings (P : Ports σ) (c : Controls) {plan : Plan} (runId : String) (ports : σ)
    {summary : Summary} (hpassed : (perform P c plan runId ports).verdict = .passed summary) :
  ∃ (x : Proceedings P plan) (answers : List (Except ProcessFault SignalOutcome)),
    answers.length = x.handles.length
    ∧ Trace.calls (perform P c plan runId ports).world.events
      = x.preparation ++ x.integration ++ List.zipWith Event.interrupted x.handles answers
    ∧ (∃ p, Answered P plan.interval { ports := ports } p
      ∧ p.calls = x.preparation ++ x.integration ∧ p.handles = x.handles)
    ∧ summary.services = x.handles.map Handle.name
    ∧ summary.attempts = min (x.reasons.length + 1) attemptLimit
    ∧ summary.teardown.signals = x.handles.length
  := by
  have hplan := defect_of_passed hpassed
  have hstarted := orderly_started c plan ports
  have hends := perform_ends P c runId ports hplan (Attempt.Ends.and
    (drive_goes P c plan (interval_pos hplan) hstarted) (driven_transcribed P c plan ports))
  rw [EndsAs, hpassed] at hends
  obtain ⟨w, ⟨⟨hmoves, driving, hds, -, hdrives⟩, hanswered⟩, -, -, _, hds',
    finishing, rfl, htears, -, hservices, hsignals⟩ := hends
  obtain ⟨x, hcalls, hattempts⟩ := hdrives.proceedings
  -- what is held before the teardown is what was launched
  have hhandles : w.live = x.handles := by
    rw [hmoves.live hstarted hds hdrives.interrupted, live_started, ← Trace.launched_calls, hcalls]
    apply x.handles_calls.1
  have hdriven : Trace.calls w.events = x.preparation ++ x.integration := by
    rw [← Trace.calls_deeds]
    change Trace.calls w.deeds = _
    rw [hds, deeds_started, Trace.calls_append, hcalls]
    rfl
  rw [hhandles] at htears hservices hsignals
  obtain ⟨answers, hlength, hcalls'⟩ := htears.calls
  use x, answers, hlength
  constructor
  · rw [World.calls_of_deeds hds', hdriven, Trace.calls_append, hcalls', Trace.calls_noticed,
      List.append_nil]
  · exact ⟨⟨w.standing, hanswered, hdriven, hhandles⟩, hservices, hattempts, hsignals⟩

/-- In a quiet world in which the calls of the proceedings were made, the integration tests
began before the signal was raised. -/
theorem Proceedings.integration_before {w : World σ} (hquiet : w.Quiet) (x : Proceedings P plan)
    {interrupts : List Event}
    (hcalls : Trace.calls w.events = x.preparation ++ x.integration ++ interrupts) :
  ∃ pre post, w.events = pre ++ .executing plan.integrationTestInvocation :: post
    ∧ Trace.calls pre = x.preparation ∧ ∀ t, .raised t ∉ pre
  := by
  obtain ⟨millis, hintegration⟩ := x.integrated
  rw [hintegration, List.append_assoc] at hcalls
  obtain ⟨pre, post, hevents, hpre, -⟩ := Trace.split_filter hcalls
  use pre, post, hevents, hpre
  -- what began was not begun after the signal
  intro t ht
  obtain ⟨before, after, rfl⟩ := List.append_of_mem ht
  rw [List.append_assoc] at hevents
  obtain ⟨-, -, hbegins⟩ := hquiet before t _ hevents
  cases hbegins (.executing plan.integrationTestInvocation) (by simp)

/-- A run that passes has called its ports for all that the plan asks for, and was answered with
success; the signal was not raised before the integration tests; and the summary is true. -/
theorem passed_proceedings (h : Harness σ) (P : Ports σ) (c : Controls) (plan : Plan)
    (runId : String) (summary : Summary)
    (hpassed : (h.perform P c plan runId).1.verdict = .passed summary) :
  let r := (h.perform P c plan runId).1
  plan.validate = .ok ()
    ∧ Transcript P plan.interval { ports := h.ports } r.world.standing
    ∧ ∃ (x : Proceedings P plan) (answers : List (Except ProcessFault SignalOutcome)),
      answers.length = x.handles.length
      ∧ Trace.calls r.world.events
        = x.preparation ++ x.integration ++ List.zipWith Event.interrupted x.handles answers
      ∧ (∃ p, Answered P plan.interval { ports := h.ports } p
        ∧ p.calls = x.preparation ++ x.integration ∧ p.handles = x.handles)
      ∧ (∃ pre post, r.world.events = pre ++ .executing plan.integrationTestInvocation :: post
        ∧ Trace.calls pre = x.preparation ∧ ∀ t, .raised t ∉ pre)
      ∧ summary.services = x.handles.map Handle.name
      ∧ ((∀ s t name i h, (P.launch s t name i).result = .ok h → h.name = name) →
        summary.services = plan.services.map Service.name)
      ∧ summary.attempts = min (x.reasons.length + 1) (UInt32.size - 1)
      ∧ summary.teardown.signals = plan.services.length
  := by
  change (perform P c plan runId h.ports).verdict = .passed summary at hpassed
  intro r
  have hplan := defect_of_passed hpassed
  obtain ⟨x, answers, hlength, hcalls, hanswered, hservices, hattempts, hsignals⟩ :=
    perform_proceedings P c runId h.ports hpassed
  use validate_eq_ok_iff.mpr hplan, perform_transcribed P c plan runId h.ports
  use x, answers, hlength, hcalls, hanswered
  constructor
  · apply x.integration_before (perform_orderly P c plan runId h.ports).quiet hcalls
  · use hservices
    constructor
    · intro hnames
      rw [hservices]
      apply names_of_gives hnames x.given
    · use hattempts
      rw [hsignals]
      apply x.given.length_eq.symm

/-- A run of the default plan that passes after the instance has refused two probes. -/
theorem passed_proceedings_readyAfter :
  (({ ports := {} } : Harness Scripted.Record).perform
      (Scripted.ports { probes := .readyAfter 2 }) { dropAt := 120007 } {} "run-1").1.verdict
    = .passed {
      runId := "run-1"
      services := ["oprish", "pandemonium", "effis"]
      attempts := 3
      teardown := { stopped := ["oprish", "pandemonium", "effis"] } }
    ∧ ∃ x : Proceedings (Scripted.ports { probes := .readyAfter 2 }) {}, x.reasons.length = 2
  := by
  have hverdict : (({ ports := {} } : Harness Scripted.Record).perform
      (Scripted.ports { probes := .readyAfter 2 }) { dropAt := 120007 } {} "run-1").1.verdict
      = .passed {
        runId := "run-1"
        services := ["oprish", "pandemonium", "effis"]
        attempts := 3
        teardown := { stopped := ["oprish", "pandemonium", "effis"] } } := by
    decide +kernel
  obtain ⟨-, -, x, -, -, -, -, -, -, -, hattempts, -⟩ := passed_proceedings _ _ _ _ _ _ hverdict
  use hverdict, x
  simp only [UInt32.size] at hattempts
  omega

end ServiceHarness.Run
