import ServiceHarness.Proofs.Run.Congruence
import ServiceHarness.Proofs.Run.History

/-!
# A harness that was used before

Runs leave nothing behind that a later run would notice.  `resume` performs a run in the very world
in which earlier runs ended.  There a run begins its own time, with a signal of its own, and
forgets the phase, but nothing else is taken back: services that were still live would be stopped
by it, and what happened before stays in the trace.  That makes no difference
(`resume_of_rested`): to do the same with any past is a congruence, so no part of a run looks back,
and every run comes to rest, with no service live.  `Harness.perform_afresh` says it of any number
of earlier runs.
-/

namespace ServiceHarness

variable {σ : Type} {P : Ports σ} {c : Controls} {plan : Plan} {w : World σ}

/-! ### Sessions do not look back -/

namespace Session

/-- Whatever else has happened before, the second session does what the first does without. -/
def Forgetful (α : Type) (m m' : Session σ α) : Prop :=
  ∀ before w, m'.run (w.preceded before) = match m.run w with
    | .ok a w' => .ok a (w'.preceded before)
    | .error k w' => .error k (w'.preceded before)

/-- A suspension looks at the time and at the signal. -/
theorem forgetful_suspend (c : Controls) (millis : Option Nat) :
  Forgetful (σ := σ) Wake (suspend c millis) (suspend c millis)
  := by
  intro before w
  have hraised : (w.preceded before).raised = w.raised := rfl
  have hnow : (w.preceded before).now = w.now := rfl
  simp only [suspend, EStateM.run_bind, EStateM.run_get, hraised, hnow]
  split
  case isTrue => rfl
  case isFalse =>
    cases raisedBy c (millis.map (w.now + ·)) with
    | some t =>
      exact congrArg (EStateM.Result.ok Wake.raised)
        (World.trip_preceded before { w with now := max w.now t })
    | none =>
      cases millis.map (w.now + ·) with
      | none => rfl
      | some t =>
        dsimp only
        split
        · rfl
        · rfl

theorem forgetful_congruence (c : Controls) :
  Congruence c c (Forgetful (σ := σ))
  := by
  constructor
  case dropAt => rfl
  case returns =>
    intro _ _ _ _
    rfl
  case cuts =>
    intro _ _ _ _
    rfl
  case binds =>
    intro _ _ m m' f f' h hf before w
    rw [EStateM.run_bind, EStateM.run_bind, h before w]
    cases m.run w with
    | ok a w' => apply hf
    | error k w' => rfl
  case looks =>
    intro _ _
    rfl
  case changes =>
    intro _ f hf before w
    rw [EStateM.run_modifyGet, hf.past]
    rfl
  case suspends => apply forgetful_suspend
  case raises =>
    intro before w
    exact congrArg (EStateM.Result.ok PUnit.unit) (w.raise_preceded before c)

end Session

namespace Run

/-! ### Runs in the world of earlier runs -/

/-- The world in which a run begins that takes up the world of an earlier one: its time begins, and
its signal is not raised yet. -/
def restarted (c : Controls) (w : World σ) : World σ :=
  let w := { w with now := 0, raised := false }
  if c.sender = .raises 0 then w.trip else w

/-- A run in the world of an earlier one.  If the plan has a defect nothing is begun; otherwise the
phase is forgotten, and a run that is cut short gives up its supervisor. -/
def resume (P : Ports σ) (c : Controls) (plan : Plan) (runId : String) (w : World σ) : Result σ :=
  match plan.defect? with
  | some defect => ⟨.failed (.configuration defect), restarted c w⟩
  | none =>
    match (guarded P c plan runId).run (restarted c { w with phase := none }) with
    | .ok (.ok summary) w => ⟨.passed summary, w⟩
    | .ok (.error fault) w => ⟨.failed fault, w⟩
    | .error cut w => ⟨.cut cut, abandon P c w⟩

/-- Runs of a plan in one world, one after the other, each under its own controls and name. -/
def resumeAll (P : Ports σ) (plan : Plan) : List (Controls × String) → World σ → World σ
  | [], w => w
  | (c, runId) :: rest, w => resumeAll P plan rest (resume P c plan runId w).world

/-- The world has come to rest: no service is live, and no phase is known but that of a run of a
plan without defects. -/
structure Rested (plan : Plan) (w : World σ) : Prop where
  /-- No service is live. -/
  live : w.live = []
  /-- A plan with a defect has entered no phase. -/
  phase : plan.defect?.isSome = true → w.phase = none

/-- A run that takes up a world at rest begins as any run does, but with a past. -/
theorem restarted_eq (c : Controls) (hlive : w.live = []) (hphase : w.phase = none) :
  restarted c w = (World.initial c w.ports).preceded w.trace
  := by
  have hfresh : { w with now := 0, raised := false } = (World.fresh w.ports).preceded w.trace := by
    rw [World.fresh, World.preceded, ← hlive, ← hphase, Array.append_empty]
  rw [restarted, World.initial, hfresh]
  split
  · apply World.trip_preceded
  · rfl

/-- A run in a world at rest is the run on its ports, but for the past. -/
theorem resume_of_rested (P : Ports σ) (c : Controls) (runId : String) (h : Rested plan w) :
  resume P c plan runId w
    = ⟨(perform P c plan runId w.ports).verdict,
      (perform P c plan runId w.ports).world.preceded w.trace⟩
  := by
  cases hplan : plan.defect? with
  | some defect =>
    have hphase : w.phase = none := h.phase (by rw [hplan]; rfl)
    simp only [resume, perform, hplan]
    rw [restarted_eq c h.live hphase]
  | none =>
    have hbegin : restarted c { w with phase := none }
        = (World.initial c w.ports).preceded w.trace :=
      restarted_eq (w := { w with phase := none }) c h.live rfl
    simp only [resume, perform, hplan]
    rw [hbegin, guarded_congruent (Session.forgetful_congruence c) P plan runId]
    rcases (guarded P c plan runId).run (World.initial c w.ports)
      with ⟨fault | summary, w'⟩ | ⟨k, w'⟩
    · rfl
    · rfl
    · dsimp only
      rw [abandon_preceded]

/-- A run leaves the world at rest. -/
theorem rested_resume (P : Ports σ) (c : Controls) (runId : String) (h : Rested plan w) :
  Rested plan (resume P c plan runId w).world
  := by
  rw [resume_of_rested P c runId h]
  constructor
  case live => exact live_perform P c plan runId w.ports
  case phase =>
    intro hdefect
    obtain ⟨defect, hplan⟩ := Option.isSome_iff_exists.mp hdefect
    change (perform P c plan runId w.ports).world.phase = none
    rw [perform, hplan]
    dsimp only
    rw [World.initial]
    split
    · rfl
    · rfl

/-- After any number of runs the world is at rest, and its ports are those of a harness that
performed the same runs. -/
theorem resumeAll_rested (P : Ports σ) (plan : Plan) :
    ∀ (earlier : List (Controls × String)) {w : World σ} {h : Harness σ}, Rested plan w →
      w.ports = h.ports →
      Rested plan (resumeAll P plan earlier w)
        ∧ (resumeAll P plan earlier w).ports
          = (h.after P (earlier.map fun r => (r.1, plan, r.2))).ports
  | [], _, _, hw, hports => ⟨hw, hports⟩
  | (c, runId) :: rest, w, h, hw, hports => by
    apply resumeAll_rested P plan rest (rested_resume P c runId hw)
    rw [resume_of_rested P c runId hw, hports]
    rfl

/-- A harness whose plan has a defect never has a history. -/
theorem Harness.history_after_of_defect (P : Ports σ) {plan : Plan} {defect : Defect}
    (hplan : plan.defect? = some defect) :
    ∀ (earlier : List (Controls × String)) (h : Harness σ),
      (h.after P (earlier.map fun r => (r.1, plan, r.2))).history = h.history
  | [], _ => rfl
  | (c, runId) :: rest, h => by
    have hrest := history_after_of_defect P hplan rest (h.perform P c plan runId).2
    rw [(h.perform_of_defect P c runId hplan).2] at hrest
    exact hrest

/-- Whatever runs a harness has performed, whatever became of them and in whatever state they left
the ports: one more run on it has the result and leaves the history of a run on a new harness with
these ports.  It is so also where the run is performed in the world in which those runs ended: the
verdict is the same, and so is the world but for its past, and after the events of those runs the
same things happen. -/
theorem Harness.perform_afresh (P : Ports σ) (ports : σ) (plan : Plan)
    (earlier : List (Controls × String)) (c : Controls) (runId : String) :
  let used := ({ ports := ports } : Harness σ).after P (earlier.map fun r => (r.1, plan, r.2))
  let w := resumeAll P plan earlier (World.fresh ports)
  let r := (({ ports := used.ports } : Harness σ).perform P c plan runId).1
  used.perform P c plan runId = ({ ports := used.ports } : Harness σ).perform P c plan runId
    ∧ resume P c plan runId w = ⟨r.verdict, r.world.preceded w.trace⟩
    ∧ (resume P c plan runId w).world.events = w.events ++ r.world.events
  := by
  intro used w r
  obtain ⟨hrested, hports⟩ : Rested plan w ∧ w.ports = used.ports := by
    apply resumeAll_rested P plan earlier
    · exact ⟨rfl, fun _ => rfl⟩
    · rfl
  have hresume : resume P c plan runId w = ⟨r.verdict, r.world.preceded w.trace⟩ := by
    rw [resume_of_rested P c runId hrested, hports]
    rfl
  constructor
  · rw [Harness.perform, Harness.perform]
    cases hplan : plan.defect? with
    | none => rfl
    | some defect =>
      have hhistory : used.history = [] := Harness.history_after_of_defect P hplan earlier _
      rw [hhistory]
  · use hresume
    rw [hresume]
    apply World.events_preceded

end Run

end ServiceHarness
