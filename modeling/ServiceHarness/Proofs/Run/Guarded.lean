import ServiceHarness.Proofs.Plan.Defects
import ServiceHarness.Proofs.Run.Proceedings
import ServiceHarness.Proofs.Run.Teardown

/-!
# What a run does

`perform_ends` takes what is known of the part of a run before its teardown to the whole run, and
`perform_begun` says what a run of a plan without defects does: where it passes it has done what
`Passes` says, and where it fails what `Fails` says.  Either way the part before the teardown is
followed by the teardown of everything that is live then.
-/

namespace ServiceHarness.Run

variable {σ β : Type} {c : Controls} {w : World σ}

/-- The teardown phases: the handles are interrupted, with answers. -/
def TearsDown (handles : List Handle) (ds : List Event) : Prop :=
  ∃ entering entering', ∃ answers : List (Except ProcessFault SignalOutcome),
    ds = entering ++ ((List.zipWith stops handles answers).flatten ++ entering')
    ∧ Enters .teardown entering ∧ answers.length = handles.length ∧ Enters .done entering'

/-- The phases of a teardown. -/
theorem TearsDown.phases {handles : List Handle} {ds : List Event} (h : TearsDown handles ds) :
  Trace.phases ds = [.teardown, .done]
  := by
  obtain ⟨entering, entering', answers, rfl, henters, -, henters'⟩ := h
  rw [Trace.phases_append, Trace.phases_append, henters.phases, henters'.phases,
    phases_zipWith_stops]
  rfl

/-- What a run that passes does, with its summary. -/
def Passes (P : Ports σ) (plan : Plan) (runId : String) (summary : Summary) (ds : List Event) :
    Prop :=
  ∃ driving finishing,
    ds = [.noticed (.runStarted plan.services.length)] ++ (driving ++ (finishing
      ++ [.noticed (.passed summary.services.length summary.attempts)]))
    ∧ Drives P plan summary.attempts driving
    ∧ TearsDown (Trace.launched driving) finishing
    ∧ summary.runId = runId
    ∧ summary.services = (Trace.launched driving).map Handle.name
    ∧ summary.teardown.signals = (Trace.launched driving).length

/-- What a run that fails does, with its fault. -/
def Fails (plan : Plan) (fault : RunFault) (ds : List Event) : Prop :=
  ∃ driving failing handles finishing,
    ds = [.noticed (.runStarted plan.services.length)] ++ (driving ++ (failing ++ finishing))
    ∧ FailsOn plan.path fault driving
    ∧ Through .failed (fun ds => ds = [.noticed (.runFailed fault)]) failing
    ∧ TearsDown handles finishing

/-- The teardown of a run, after which something goes on. -/
theorem finish_does (P : Ports σ) {f : Teardown → Session σ β}
    {ok : β → List Event → World σ → Prop} {cut : Cut → List Event → World σ → Prop}
    (hrest : ∀ t finishing w', w'.live = [] → t.signals = w.live.length →
      TearsDown w.live finishing →
      Session.Does c (f t) w' (fun b ds => ok b (finishing ++ ds))
        (fun k ds => cut k (finishing ++ ds))) :
  Session.Does c (do
    Session.enter .teardown
    let t ← teardown P c
    Session.enter .done
    f t) w ok cut
  := by
  apply Session.Does.bind
  apply Session.Does.uncut (Session.enter_does .teardown w)
  rintro _ entering w₁ ⟨henters, hlive⟩
  apply Session.Does.bind
  apply Session.Does.uncut (teardown_does P w₁)
  rintro t stopping w₂ ⟨hnone, hsignals, answers, hlength, rfl⟩
  rw [hlive] at hsignals hlength ⊢
  apply Session.Does.bind
  apply Session.Does.uncut (Session.enter_does .done w₂)
  rintro _ entering' w₃ ⟨henters', hlive'⟩
  apply Session.Does.mono (hrest t _ w₃ (hlive'.trans hnone) hsignals
    ⟨entering, entering', answers, rfl, henters, hlength, henters'⟩)
  · intro b ds w₄ h
    rw [List.append_assoc, List.append_assoc] at h
    exact h
  · intro k ds w₄ h
    rw [List.append_assoc, List.append_assoc] at h
    exact h

/-- What a run that passes does after the part before its teardown, at the end of which the handles
are live. -/
def EndsWell (runId : String) (handles : List Handle) (summary : Summary) (ds : List Event) :
    Prop :=
  ∃ finishing,
    ds = finishing ++ [.noticed (.passed summary.services.length summary.attempts)]
    ∧ TearsDown handles finishing
    ∧ summary.runId = runId
    ∧ summary.services = handles.map Handle.name
    ∧ summary.teardown.signals = handles.length

/-- What a run that fails does after its failure. -/
def EndsBadly (handles : List Handle) (fault : RunFault) (ds : List Event) : Prop :=
  ∃ failing finishing, ds = failing ++ finishing
    ∧ Through .failed (fun ds => ds = [.noticed (.runFailed fault)]) failing
    ∧ TearsDown handles finishing

/-- A run that has succeeded so far passes. -/
theorem passing_does (P : Ports σ) (runId : String) (attempts : Nat) (w : World σ) :
  Session.Does c (do
    Session.enter .teardown
    let t ← teardown P c
    Session.enter .done
    Session.tell (.passed (w.live.map Handle.name).length attempts)
    return (.ok ⟨runId, w.live.map Handle.name, attempts, t⟩ : Except RunFault Summary)) w
    (fun result ds w' => w'.live = [] ∧ ∃ summary, result = .ok summary
      ∧ summary.attempts = attempts ∧ EndsWell runId w.live summary ds)
    (fun _ _ _ => False)
  := by
  apply finish_does
  intro t finishing w' hnone hsignals hfinishing
  apply Session.Does.bind
  apply Session.does_tell
  apply Session.does_pure
  use hnone, ⟨runId, w.live.map Handle.name, attempts, t⟩, rfl, rfl
  exact ⟨finishing, rfl, hfinishing, rfl, rfl, hsignals⟩

/-- A run with a fault fails. -/
theorem failing_does (P : Ports σ) (fault : RunFault) (w : World σ) :
  Session.Does c (do
    Session.enter .failed
    Session.tell (.runFailed fault)
    Session.enter .teardown
    let _ ← teardown P c
    Session.enter .done
    return (.error fault : Except RunFault Summary)) w
    (fun result ds w' => w'.live = [] ∧ result = .error fault ∧ EndsBadly w.live fault ds)
    (fun _ _ _ => False)
  := by
  apply Session.Does.bind
  apply Session.Does.uncut (Session.enter_does .failed w)
  rintro _ entering w₁ ⟨henters, hlive⟩
  apply Session.Does.bind
  apply Session.does_tell
  apply finish_does
  intro t finishing w₂ hnone _ hfinishing
  apply Session.does_pure
  use hnone, rfl, entering ++ [.noticed (.runFailed fault)], finishing
  constructor
  · simp
  · use ⟨entering, _, rfl, henters, rfl⟩
    rw [← hlive]
    apply hfinishing

/-- By moves that do what `done` says the world comes to one in which nothing is live. -/
def Finishes (c : Controls) (done : List Event → Prop) (w w' : World σ) : Prop :=
  Moves c w w' ∧ w'.live = [] ∧ ∃ ds, w'.deeds = w.deeds ++ ds ∧ done ds

/-- A run ends as the part before its teardown does: from the world in which that part has
passed or failed it is finished. -/
theorem guarded_ends (P : Ports σ) (c : Controls) (plan : Plan) (runId : String)
    {ok : Nat → World σ → Prop} {fail : RunFault → World σ → Prop} {cut : Cut → World σ → Prop}
    (h : Attempt.Ends (drive P c plan) (w.tell (.runStarted plan.services.length)) ok fail cut) :
  Session.Ends (guarded P c plan runId) w
    (fun result w' => match result with
      | .ok summary => ∃ w₁, ok summary.attempts w₁
        ∧ Finishes c (EndsWell runId w₁.live summary) w₁ w'
      | .error fault => ∃ w₁, fail fault w₁ ∧ Finishes c (EndsBadly w₁.live fault) w₁ w')
    cut
  := by
  rw [guarded, Session.ends_bind, Session.ends_tell, Session.ends_bind]
  apply Session.Ends.mono h
  · rintro (fault | attempts) w₁ h₁
    · apply Session.Ends.mono (failing_does (c := c) P fault w₁)
      · rintro result w' ⟨hmoves, ds, hds, hnone, rfl, hends⟩
        exact ⟨w₁, h₁, hmoves, hnone, ds, hds, hends⟩
      · rintro _ _ ⟨-, _, -, h⟩
        apply h.elim
    · apply Session.Ends.mono (passing_does (c := c) P runId attempts w₁)
      · rintro result w' ⟨hmoves, ds, hds, hnone, summary, rfl, rfl, hends⟩
        exact ⟨w₁, h₁, hmoves, hnone, ds, hds, hends⟩
      · rintro _ _ ⟨-, _, -, h⟩
        apply h.elim
  · intro k w₁ h₁
    exact h₁

/-- What is known of a run that was begun. -/
def Begun (P : Ports σ) (c : Controls) (plan : Plan) (runId : String) (ports : σ)
    (r : Result σ) : Prop :=
  match r.verdict with
  | .passed summary => Moves c (World.initial c ports) r.world ∧ r.world.live = []
      ∧ Passes P plan runId summary r.world.deeds
  | .failed fault => Moves c (World.initial c ports) r.world ∧ r.world.live = []
      ∧ Fails plan fault r.world.deeds
  | .cut k => ∃ w, Moves c (World.initial c ports) w ∧ Trace.phases w.deeds <+: plan.path
      ∧ (k = .dropped → w.raised = false) ∧ r.world = abandon P c w

/-- A plan is valid if it has no defect. -/
theorem validate_eq_ok_iff {plan : Plan} :
  plan.validate = .ok () ↔ plan.defect? = none
  := by
  rw [Plan.validate_eq_ok_iff, Plan.defect?_eq_none_iff]

/-- A plan without defects has probes that are some time apart. -/
theorem interval_pos {plan : Plan} (h : plan.defect? = none) :
  0 < plan.interval
  := by
  have hdefects := plan.defects_eq_nil_iff.mp (plan.defect?_eq_none_iff.mp h)
  apply Nat.pos_of_ne_zero hdefects.2.2.2.2

/-- A run begins with no service, and with nothing done. -/
theorem initial_blank (c : Controls) (ports : σ) :
  (World.initial c ports).live = [] ∧ (World.initial c ports).deeds = []
  := by
  unfold World.initial
  split
  · exact ⟨World.live_trip _, World.deeds_trip _⟩
  · exact ⟨rfl, rfl⟩

/-- The world in which the part of a run before its teardown begins: the log has been told that the
run begins. -/
def started (c : Controls) (plan : Plan) (ports : σ) : World σ :=
  (World.initial c ports).tell (.runStarted plan.services.length)

theorem started_moves (c : Controls) (plan : Plan) (ports : σ) :
  Moves c (World.initial c ports) (started c plan ports)
  := .single (.tells _ _)

theorem orderly_started (c : Controls) (plan : Plan) (ports : σ) :
  (started c plan ports).Orderly c
  := (started_moves c plan ports).orderly (World.orderly_initial c ports)

theorem deeds_started (c : Controls) (plan : Plan) (ports : σ) :
  (started c plan ports).deeds = [.noticed (.runStarted plan.services.length)]
  := by
  rw [started, World.deeds_tell, (initial_blank c ports).2, List.nil_append]

theorem live_started (c : Controls) (plan : Plan) (ports : σ) :
  (started c plan ports).live = []
  := (initial_blank c ports).1

/-- What is known of a run whose part before the teardown ends in a world of `ok`, `fail` or `cut`:
from there it is finished, or given up. -/
def EndsAs (P : Ports σ) (c : Controls) (runId : String) (ok : Nat → World σ → Prop)
    (fail : RunFault → World σ → Prop) (cut : Cut → World σ → Prop) (r : Result σ) : Prop :=
  match r.verdict with
  | .passed summary => ∃ w, ok summary.attempts w
    ∧ Finishes c (EndsWell runId w.live summary) w r.world
  | .failed fault => ∃ w, fail fault w ∧ Finishes c (EndsBadly w.live fault) w r.world
  | .cut k => ∃ w, cut k w ∧ r.world = abandon P c w

/-- What is known of the session of a run is known of the run, which is given up where the session
is cut short. -/
theorem perform_of_guarded {P : Ports σ} {c : Controls} {plan : Plan} {runId : String} {ports : σ}
    {R : Verdict → World σ → Prop} (hplan : plan.defect? = none)
    (h : Session.Ends (guarded P c plan runId) (World.initial c ports)
      (fun result w => (∀ summary, result = .ok summary → R (.passed summary) w)
        ∧ ∀ fault, result = .error fault → R (.failed fault) w)
      (fun k w => R (.cut k) (abandon P c w))) :
  R (perform P c plan runId ports).verdict (perform P c plan runId ports).world
  := by
  rw [Session.Ends] at h
  rw [perform, hplan]
  dsimp only
  split at h
  case h_1 result w hrun =>
    rw [hrun]
    cases result with
    | ok summary => apply h.1 summary rfl
    | error fault => apply h.2 fault rfl
  case h_2 k w hrun =>
    rw [hrun]
    exact h

/-- A run of a plan without defects ends as the part before its teardown does. -/
theorem perform_ends (P : Ports σ) (c : Controls) {plan : Plan} (runId : String) (ports : σ)
    (hplan : plan.defect? = none) {ok : Nat → World σ → Prop}
    {fail : RunFault → World σ → Prop} {cut : Cut → World σ → Prop}
    (h : Attempt.Ends (drive P c plan) (started c plan ports) ok fail cut) :
  EndsAs P c runId ok fail cut (perform P c plan runId ports)
  := by
  apply perform_of_guarded (R := fun verdict w => EndsAs P c runId ok fail cut ⟨verdict, w⟩) hplan
  apply Session.Ends.mono (guarded_ends P c plan runId h)
  · rintro (fault | summary) w hends
    · constructor
      · rintro _ ⟨⟩
      · rintro _ ⟨⟩
        exact hends
    · constructor
      · rintro _ ⟨⟩
        exact hends
      · rintro _ ⟨⟩
  · intro k w hcut
    exact ⟨w, hcut, rfl⟩

/-- A run of a plan without defects is begun. -/
theorem perform_begun (P : Ports σ) (c : Controls) {plan : Plan} (runId : String) (ports : σ)
    (hplan : plan.defect? = none) :
  Begun P c plan runId ports (perform P c plan runId ports)
  := by
  have hbegin := started_moves c plan ports
  have hstarted := orderly_started c plan ports
  have h := perform_ends P c runId ports hplan
    (drive_goes P c plan (interval_pos hplan) hstarted)
  rw [EndsAs] at h
  rw [Begun]
  cases hverdict : (perform P c plan runId ports).verdict with
  | passed summary =>
    rw [hverdict] at h
    obtain ⟨w, ⟨hmoves, driving, hds, -, hdrives⟩, hmoves', hnone, _, hds',
      finishing, rfl, hfinishing, hrunId, hservices, hsignals⟩ := h
    have hlaunched : w.live = Trace.launched driving := by
      rw [hmoves.live hstarted hds hdrives.interrupted, live_started, List.nil_append]
    rw [hlaunched] at hfinishing hservices hsignals
    use (hbegin.trans hmoves).trans hmoves', hnone, driving, finishing
    rw [hds', hds, deeds_started, List.append_assoc]
    exact ⟨rfl, hdrives, hfinishing, hrunId, hservices, hsignals⟩
  | failed fault =>
    rw [hverdict] at h
    obtain ⟨w, ⟨hmoves, driving, hds, hfails⟩, hmoves', hnone, _, hds',
      failing, finishing, rfl, hfailing, hfinishing⟩ := h
    use (hbegin.trans hmoves).trans hmoves', hnone, driving, failing, w.live, finishing
    rw [hds', hds, deeds_started, List.append_assoc]
    exact ⟨rfl, hfails, hfailing, hfinishing⟩
  | cut k =>
    rw [hverdict] at h
    obtain ⟨w, ⟨hmoves, driving, hds, ⟨-, hpath⟩, hdropped⟩, hworld⟩ := h
    use w, hbegin.trans hmoves
    rw [hds, deeds_started]
    exact ⟨hpath, hdropped, hworld⟩

/-- A run that passes was begun, of a plan without defects. -/
theorem defect_of_passed {P : Ports σ} {c : Controls} {plan : Plan} {runId : String} {ports : σ}
    {summary : Summary} (h : (perform P c plan runId ports).verdict = .passed summary) :
  plan.defect? = none
  := by
  cases hplan : plan.defect? with
  | none => rfl
  | some defect =>
    rw [perform, hplan] at h
    cases h

/-- What happens in a run is made of moves. -/
theorem perform_moves (P : Ports σ) (c : Controls) (plan : Plan) (runId : String) (ports : σ) :
  Moves c (World.initial c ports) (perform P c plan runId ports).world
  := by
  cases hplan : plan.defect? with
  | some defect =>
    rw [perform, hplan]
  | none =>
    have h := perform_begun P c runId ports hplan
    rw [Begun] at h
    split at h
    · apply h.1
    · apply h.1
    · obtain ⟨w, hmoves, -, -, hworld⟩ := h
      rw [hworld]
      apply hmoves.trans (abandon_moves P w).1

/-- A run ends in an orderly world. -/
theorem perform_orderly (P : Ports σ) (c : Controls) (plan : Plan) (runId : String) (ports : σ) :
  (perform P c plan runId ports).world.Orderly c
  := (perform_moves P c plan runId ports).orderly (World.orderly_initial c ports)

/-- After a run no service is live. -/
theorem live_perform (P : Ports σ) (c : Controls) (plan : Plan) (runId : String) (ports : σ) :
  (perform P c plan runId ports).world.live = []
  := by
  cases hplan : plan.defect? with
  | some defect =>
    rw [perform, hplan]
    apply (initial_blank c ports).1
  | none =>
    have h := perform_begun P c runId ports hplan
    rw [Begun] at h
    split at h
    · apply h.2.1
    · apply h.2.1
    · obtain ⟨w, -, -, -, hworld⟩ := h
      rw [hworld]
      apply (abandon_moves (c := c) P w).2.1

end ServiceHarness.Run
