import ServiceHarness.CommandLine.Outcome
import ServiceHarness.Proofs.Run.Conservation
import ServiceHarness.Proofs.Run.History
import ServiceHarness.Proofs.Settings.WellFormed
import ServiceHarness.Scripted

/-!
# What the exit status tells

An invocation that does not ask for information comes to one of two ends.  If something in its setup
fails, the exit status is two, and nothing has been asked of the ports: they could be any others.
Otherwise a run is performed, and the exit status tells its verdict; it is never two, as a plan that
settings make has no defect that a run would refuse (`execute_exitStatus`).
-/

namespace ServiceHarness.CommandLine

variable {σ : Type} {P : Plan → Except String (Ports σ)} {site : Site} {args : List String}
  {a : Arguments}

/-- The arguments ask for the help or for the version. -/
def Asks (site : Site) (args : List String) : Prop :=
  parse site.environment args = .error .help ∨ parse site.environment args = .error .version

/-- Something stands in the way of a run. -/
inductive SetupFails (P : Plan → Except String (Ports σ)) (site : Site) (args : List String) :
    Prop where
  /-- The arguments are refused. -/
  | parsing {refusal : Refusal} (hparse : parse site.environment args = .error (.refused refusal))
  /-- The harness file cannot be loaded. -/
  | loading {a : Arguments} {fault : Settings.Fault} (hparse : parse site.environment args = .ok a)
    (hload : a.manifest site = .error fault)
  /-- The settings make no plan. -/
  | resolving {a : Arguments} {manifest : Settings.Manifest} {fault : Settings.Fault}
    (hparse : parse site.environment args = .ok a) (hload : a.manifest site = .ok manifest)
    (hresolve : Settings.resolve site.settings a.flags manifest = .error fault)
  /-- There is no client for the probes. -/
  | equipping {a : Arguments} {manifest : Settings.Manifest} {plan : Plan} {reason : String}
    (hparse : parse site.environment args = .ok a) (hload : a.manifest site = .ok manifest)
    (hresolve : Settings.resolve site.settings a.flags manifest = .ok plan)
    (hequip : P plan = .error reason)

/-- The calls of the ports, which are made in a run if one was begun. -/
def Outcome.calls : Outcome σ → List Event
  | .ended _ result => Trace.calls result.world.events
  | _ => []

/-! ### Nothing is begun -/

theorem plan_of_manifest {manifest : Settings.Manifest} (hload : a.manifest site = .ok manifest) :
  a.plan site = Settings.resolve site.settings a.flags manifest
  := by
  rw [Arguments.plan, hload]
  rfl

theorem plan_of_fault {fault : Settings.Fault} (hload : a.manifest site = .error fault) :
  a.plan site = .error fault
  := by
  rw [Arguments.plan, hload]
  rfl

/-- If something in the setup fails, the outcome does not depend on the ports. -/
theorem SetupFails.idle (h : SetupFails P site args) :
  ∃ outcome : Outcome σ, outcome.exitStatus = 2 ∧ outcome.calls = []
    ∧ ∀ P' c runId ports, (∀ plan reason, P plan = .error reason → P' plan = .error reason) →
      execute P' c runId site args ports = outcome
  := by
  cases h with
  | @parsing refusal hparse =>
    use .halted (.refused refusal), rfl, rfl
    intro P' c runId ports _
    rw [execute, hparse]
  | @loading a fault hparse hload =>
    use .refused fault, rfl, rfl
    intro P' c runId ports _
    rw [execute, hparse]
    dsimp only
    rw [plan_of_fault hload]
  | @resolving a manifest fault hparse hload hresolve =>
    use .refused fault, rfl, rfl
    intro P' c runId ports _
    rw [execute, hparse]
    dsimp only
    rw [plan_of_manifest hload, hresolve]
  | @equipping a manifest plan reason hparse hload hresolve hequip =>
    use .unequipped plan reason, rfl, rfl
    intro P' c runId ports hP
    rw [execute, hparse]
    dsimp only
    rw [plan_of_manifest hload, hresolve]
    dsimp only
    rw [hP plan reason hequip]

/-! ### A run is performed -/

/-- Unless something in the setup fails, a run of a valid plan is performed. -/
theorem execute_ended (hasks : ¬ Asks site args) (h : ¬ SetupFails P site args) :
  ∃ plan P', plan.validate = .ok () ∧ P plan = .ok P'
    ∧ ∀ c runId ports,
      execute P c runId site args ports = .ended plan (Run.perform P' c plan runId ports)
  := by
  cases hparse : parse site.environment args with
  | error halt =>
    exfalso
    cases halt with
    | help => exact hasks (.inl hparse)
    | version => exact hasks (.inr hparse)
    | refused refusal => exact h (.parsing hparse)
  | ok a =>
    cases hload : a.manifest site with
    | error fault => exact absurd (.loading hparse hload) h
    | ok manifest =>
      cases hresolve : Settings.resolve site.settings a.flags manifest with
      | error fault => exact absurd (.resolving hparse hload hresolve) h
      | ok plan =>
        cases hequip : P plan with
        | error reason => exact absurd (.equipping hparse hload hresolve hequip) h
        | ok P' =>
          obtain ⟨_, _, _, _, _, -, hvalid, -⟩ := Settings.resolve_eq_ok_iff.mp hresolve
          use plan, P', hvalid, hequip
          intro c runId ports
          rw [execute, hparse]
          dsimp only
          rw [plan_of_manifest hload, hresolve]
          dsimp only
          rw [hequip]

/-- A run of a valid plan is not refused. -/
theorem perform_not_configuration (P : Ports σ) (c : Controls) {plan : Plan} (runId : String)
    (ports : σ) (hvalid : plan.validate = .ok ()) (defect : Defect) :
  (Run.perform P c plan runId ports).verdict ≠ .failed (.configuration defect)
  := by
  intro hverdict
  have hleaves := Run.perform_leaves P c runId ports (Run.validate_eq_ok_iff.mp hvalid)
  dsimp only at hleaves
  rw [hverdict] at hleaves
  obtain ⟨_, _, _, -, hfits, -⟩ := hleaves
  exact hfits

/-- A fault other than a defect of the plan gives the status one. -/
theorem statusOf_exitStatus {fault : RunFault} (h : ∀ defect, fault ≠ .configuration defect) :
  Outcome.statusOf fault.exitStatus = 1
  := by
  cases fault with
  | configuration defect => exact absurd rfl (h defect)
  | _ => rfl

/-- The exit status after a run that was not refused tells its verdict. -/
theorem exitStatus_ended (plan : Plan) {result : Run.Result σ}
    (h : ∀ defect, result.verdict ≠ .failed (.configuration defect)) :
  (Outcome.ended plan result).exitStatus = match result.verdict with
    | .passed _ => 0
    | .failed _ => 1
    | .cut _ => 101
  := by
  rw [Outcome.exitStatus]
  cases hverdict : result.verdict with
  | passed summary => rfl
  | cut k => rfl
  | failed fault =>
    apply statusOf_exitStatus
    intro defect hfault
    apply h defect
    rw [hverdict, hfault]

/-- What the exit status of an invocation tells that does not ask for information.  It is two exactly
if the setup fails; then nothing has been asked of the ports, and the outcome is the same with any
others that can be made for the same plans.  Otherwise a run of a plan is performed, which does not
refuse the plan and interrupts every service that it launches, as the transcript of its calls has it:
the status is zero exactly if it passes, one exactly if it fails, and never two. -/
theorem execute_exitStatus (P : Plan → Except String (Ports σ)) (c : Controls) (runId : String)
    (site : Site) (args : List String) (ports : σ) (hasks : ¬ Asks site args) :
  let outcome := execute P c runId site args ports
  (outcome.exitStatus = 2 ↔ SetupFails P site args)
    ∧ (SetupFails P site args → outcome.calls = []
      ∧ ∀ P' c' runId' ports', (∀ plan reason, P plan = .error reason → P' plan = .error reason) →
        execute P' c' runId' site args ports' = outcome)
    ∧ (¬ SetupFails P site args → ∃ plan P', P plan = .ok P'
      ∧ let result := Run.perform P' c plan runId ports
        outcome = .ended plan result
        ∧ (∀ defect, result.verdict ≠ .failed (.configuration defect))
        ∧ Trace.interrupted result.world.events = Trace.launched result.world.events
        ∧ Run.Transcript P' plan.interval { ports := ports } result.world.standing
        ∧ (outcome.exitStatus = 0 ↔ ∃ summary, result.verdict = .passed summary)
        ∧ (outcome.exitStatus = 1 ↔ ∃ fault, result.verdict = .failed fault))
  := by
  intro outcome
  by_cases h : SetupFails P site args
  · obtain ⟨idle, hstatus, hcalls, hsame⟩ := h.idle
    have houtcome : outcome = idle := hsame P c runId ports fun _ _ hP => hP
    rw [houtcome]
    exact ⟨iff_of_true hstatus h, fun _ => ⟨hcalls, hsame⟩, fun hno => absurd h hno⟩
  · obtain ⟨plan, P', hvalid, hequip, hended⟩ := execute_ended hasks h
    have houtcome : outcome = .ended plan (Run.perform P' c plan runId ports) :=
      hended c runId ports
    have hrefused := perform_not_configuration P' c runId ports hvalid
    have hstatus := exitStatus_ended plan hrefused
    rw [houtcome]
    generalize hresult : Run.perform P' c plan runId ports = result at hrefused hstatus
    constructor
    · apply iff_of_false _ h
      rw [hstatus]
      cases result.verdict <;> simp
    · constructor
      · exact fun hfails => absurd hfails h
      · intro _
        use plan, P', hequip
        rw [hresult]
        use rfl, hrefused
        constructor
        · rw [← hresult]
          apply Run.perform_interrupted
        · constructor
          · rw [← hresult]
            apply Run.perform_transcribed
          · rw [hstatus]
            cases result.verdict with
            | passed summary => simp
            | failed fault => simp
            | cut k => simp

/-- A site without variables and files. -/
def bareSite : Site where
  environment := {}
  files := {}
  directory := "."
  userHome := none

/-- An interval of nothing is refused whatever the ports are, and a run whose probes are rejected has
the status one once its service is interrupted. -/
theorem execute_exitStatus_rejected :
  (execute (fun _ => .ok (Scripted.ports {})) { dropAt := 120007 } "run-1" bareSite
      ["--probe-interval-ms=0"] {}).exitStatus = 2
    ∧ (∀ P' c' runId' ports',
      execute P' c' runId' bareSite ["--probe-interval-ms=0"] ports'
        = execute (fun _ => .ok (Scripted.ports {})) { dropAt := 120007 } "run-1" bareSite
          ["--probe-interval-ms=0"] {})
    ∧ ∃ plan P', let result := Run.perform P' { dropAt := 120007 } plan "run-1" {}
      execute (fun _ => .ok (Scripted.ports { probes := .malformed "no host" }))
          { dropAt := 120007 } "run-1" bareSite ["--service", "effis"] {} = .ended plan result
        ∧ (∃ fault, result.verdict = .failed fault)
        ∧ Trace.interrupted result.world.events = Trace.launched result.world.events
  := by
  have hparse : parse {} ["--probe-interval-ms=0"] = .ok { flags := { interval := some 0 } } := by
    decide +kernel
  have hresolve : Settings.resolve bareSite.settings { interval := some 0 } {}
      = .error (.defective (.broken .intervalPositive)) := by
    decide +kernel
  obtain ⟨hstatus, hidle, -⟩ := execute_exitStatus (fun _ => .ok (Scripted.ports {}))
    { dropAt := 120007 } "run-1" bareSite ["--probe-interval-ms=0"] {}
    (by rw [Asks]; decide +kernel)
  have hfails := hstatus.mpr (.resolving hparse rfl hresolve)
  obtain ⟨hstatus', -, hended⟩ := execute_exitStatus
    (fun _ => .ok (Scripted.ports { probes := .malformed "no host" })) { dropAt := 120007 } "run-1"
    bareSite ["--service", "effis"] {} (by rw [Asks]; decide +kernel)
  have hone : (execute (fun _ => .ok (Scripted.ports { probes := .malformed "no host" }))
      { dropAt := 120007 } "run-1" bareSite ["--service", "effis"] {}).exitStatus = 1 := by
    decide +kernel
  have hbegun : ¬ SetupFails (fun _ => .ok (Scripted.ports { probes := .malformed "no host" }))
      bareSite ["--service", "effis"] := by
    rw [← hstatus', hone]
    decide
  obtain ⟨plan, P', -, houtcome, -, hinterrupted, -, -, hfailed⟩ := hended hbegun
  constructor
  · exact hfails
  · constructor
    · intro P' c' runId' ports'
      apply (hidle (hstatus.mp hfails)).2
      intro plan reason hequip
      cases hequip
    · exact ⟨plan, P', houtcome, hfailed.mp hone, hinterrupted⟩

end ServiceHarness.CommandLine
