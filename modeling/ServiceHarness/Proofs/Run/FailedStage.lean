import Mathlib.Data.List.Basic
import ServiceHarness.Proofs.Run.Closing
import ServiceHarness.Proofs.Run.Driving
import ServiceHarness.Scripted

/-!
# Stages that do not succeed

What becomes of a run in which a command does not succeed, once the signal is raised
(`perform_failedStage`).  A command that the signal overtakes, and one that exits with a code other
than zero, count as interrupted, and the run names the phase that they belong to.  A command that
cannot be executed does not: the run fails with what went wrong, raised signal or not
(`broken_although_raised`).
-/

namespace ServiceHarness

variable {σ : Type} {c : Controls} {w w' : World σ}

/-! ### Commands that succeed -/

namespace Trace

/-- The commands that came to an end have exited with the code zero. -/
def Succeeded (ds : List Event) : Prop :=
  ∀ result, .executed result ∈ ds → ∃ millis, result = .ok ⟨0, millis⟩

/-- The commands that were begun have come to an end. -/
def Ended (ds : List Event) : Prop :=
  ∀ pre i post, ds = pre ++ .executing i :: post → ∃ result, .executed result ∈ post

/-- The commands that were begun have succeeded. -/
structure Smooth (ds : List Event) : Prop where
  /-- What came to an end has succeeded. -/
  succeeded : Succeeded ds
  /-- What was begun came to an end. -/
  ended : Ended ds

theorem Succeeded.append {ds ds' : List Event} (h : Succeeded ds) (h' : Succeeded ds') :
  Succeeded (ds ++ ds')
  := by
  intro result hmem
  obtain hmem | hmem := List.mem_append.mp hmem
  · apply h result hmem
  · apply h' result hmem

theorem Ended.append {ds ds' : List Event} (h : Ended ds) (h' : Ended ds') :
  Ended (ds ++ ds')
  := by
  intro pre i post hsplit
  obtain ⟨mid, rfl, hmid⟩ | ⟨mid, rfl, hmid⟩ := List.append_eq_append_iff.mp hsplit
  · apply h' mid i post hmid
  · cases mid with
    | nil => apply h' [] i post hmid.symm
    | cons e mid =>
      obtain ⟨rfl, rfl⟩ := List.cons.inj hmid
      obtain ⟨result, hmem⟩ := h pre i mid rfl
      exact ⟨result, List.mem_append_left _ hmem⟩

theorem Smooth.append {ds ds' : List Event} (h : Smooth ds) (h' : Smooth ds') :
  Smooth (ds ++ ds')
  := ⟨h.succeeded.append h'.succeeded, h.ended.append h'.ended⟩

/-- Where no command is begun or comes to its end, all is smooth. -/
theorem smooth_of_idle {ds : List Event} (hbegun : ∀ i, .executing i ∉ ds)
    (hended : ∀ result, .executed result ∉ ds) :
  Smooth ds
  := by
  constructor
  case succeeded =>
    intro result hmem
    cases hended result hmem
  case ended =>
    rintro pre i post rfl
    cases hbegun i (by simp)

theorem Plain.smooth {ds : List Event} (h : Plain ds) :
  Smooth ds
  := by
  apply smooth_of_idle
  · intro i hmem
    cases h _ hmem
  · intro result hmem
    cases h _ hmem

theorem smooth_noticed (n : Notice) :
  Smooth [.noticed n]
  := by
  apply smooth_of_idle
  · simp
  · simp

/-- A command that is begun and then comes to its end. -/
theorem ended_execution (i : Invocation) (result : Except ProcessFault Completion) :
  Ended [.executing i, .executed result]
  := by
  intro pre i' post hsplit
  use result
  rcases pre with _ | ⟨_, _ | ⟨_, pre⟩⟩
  · cases hsplit
    simp
  · cases hsplit
  · simp at hsplit

end Trace

namespace Run

theorem Succeeds.smooth {n : Notice} {i : Invocation} {ds : List Event} (h : Succeeds n i ds) :
  Trace.Smooth ds
  := by
  obtain ⟨millis, rfl⟩ := h
  apply (Trace.smooth_noticed n).append
  constructor
  case succeeded =>
    intro result hmem
    use millis
    simpa using hmem
  case ended => apply Trace.ended_execution

theorem smooth_enters {p : Phase} {ds : List Event} (h : Enters p ds) :
  Trace.Smooth ds
  := by
  have hclosing := closing_enters h
  apply Trace.smooth_of_idle
  · intro i hmem
    cases hclosing _ hmem
  · intro result hmem
    cases hclosing _ hmem

/-! ### How the part of a run before its teardown fails -/

/-- Either all commands have succeeded, or the last one has not: the signal has overtaken it, it
could not be executed, or it exited with a code other than zero. -/
inductive Halts : RunFault → World σ → Prop where
  /-- All commands have succeeded. -/
  | smooth {fault : RunFault} {w : World σ} (h : Trace.Smooth w.deeds) : Halts fault w
  /-- The signal has overtaken a command. -/
  | overtaken {before : List Event} {i : Invocation} {phase : Phase} {w : World σ}
      (h : Trace.Smooth before) (hphase : phase.Executes)
      (hds : w.deeds = before ++ [.executing i]) :
    Halts (.interrupted phase) w
  /-- A command could not be executed. -/
  | broken {before : List Event} {i : Invocation} {fault : ProcessFault} {w : World σ}
      (h : Trace.Smooth before)
      (hds : w.deeds = before ++ [.executing i, .executed (.error fault)]) :
    Halts (.execution fault) w
  /-- A command exited with a code other than zero. -/
  | rejected {before : List Event} {i : Invocation} {completion : Completion} {fault : RunFault}
      {w : World σ} (h : Trace.Smooth before)
      (hfault : w.raised = true → ∃ phase : Phase, phase.Executes ∧ fault = .interrupted phase)
      (hds : w.deeds = before ++ [.executing i, .executed (.ok completion)]) :
    Halts fault w

/-- What holds while the part of a run before its teardown goes on. -/
def Succeeding (c : Controls) (w : World σ) : Prop :=
  w.Orderly c ∧ Trace.Smooth w.deeds

theorem Succeeding.append {ds : List Event} (h : Succeeding c w) (hmoves : Moves c w w')
    (hds : w'.deeds = w.deeds ++ ds) (hsmooth : Trace.Smooth ds) :
  Succeeding c w'
  := by
  use hmoves.orderly h.1
  rw [hds]
  apply h.2.append hsmooth

/-- A stage that follows commands that have succeeded succeeds, or halts the run. -/
theorem stage_halts (P : Ports σ) (c : Controls) {phase : Phase} (n : Notice) (i : Invocation)
    (failure : Int → RunFault) (hphase : phase.Executes) :
  Attempt.Maintains (Succeeding c) (fun fault w => w.Orderly c ∧ Halts fault w)
    (fun w => Trace.Succeeded w.deeds) (stage P c phase n i failure)
  := by
  intro w hw
  have hbefore : Trace.Smooth (w.deeds ++ [.noticed n]) := hw.2.append (Trace.smooth_noticed n)
  apply Attempt.Ends.mono (stage_does P c phase n i failure w)
  · rintro _ w' ⟨hmoves, ds, hds, hsucceeds⟩
    apply hw.append hmoves hds hsucceeds.smooth
  · rintro fault w' ⟨hmoves, ds, hds, hfails⟩
    use hmoves.orderly hw.1
    cases hfails with
    | overtaken _ hnone =>
      obtain rfl | rfl := hnone
      · apply Halts.smooth
        rw [hds, List.append_nil]
        exact hw.2
      · apply Halts.overtaken hbefore hphase
        rw [hds, List.append_assoc]
        rfl
    | broken fault =>
      apply Halts.broken hbefore
      rw [hds, List.append_assoc]
      rfl
    | rejected completion =>
      apply Halts.rejected hbefore
      · intro hraised
        use phase, hphase
        rw [if_pos hraised]
      · rw [hds, List.append_assoc]
        rfl
  · rintro k w' ⟨hmoves, _, hds, rfl, -⟩
    rw [hds]
    apply hw.2.succeeded.append
    simp [Trace.Succeeded]

/-- The part of a run before its teardown goes on while commands succeed. -/
theorem drive_halts (P : Ports σ) (c : Controls) (plan : Plan) :
  Attempt.Maintains (Succeeding c) (fun fault w => w.Orderly c ∧ Halts fault w)
    (fun w => Trace.Succeeded w.deeds) (drive P c plan)
  := by
  apply drive_maintains P c plan
  case henter =>
    intro p
    apply Session.maintains_of_does (Session.enter_does p)
    rintro w _ ds w' hw hmoves hds ⟨henters, -⟩
    apply hw.append hmoves hds (smooth_enters henters)
  case hplain =>
    intro _ m hm
    apply Attempt.maintains_of_plain hm
    case happend =>
      intro w ds w' hw hmoves hds hplain
      apply hw.append hmoves hds hplain.smooth
    case hfail =>
      rintro _ w ⟨horderly, hsmooth⟩
      exact ⟨horderly, .smooth hsmooth⟩
    case hcut => exact fun _ hw => hw.2.succeeded
  case hstage =>
    intro phase n i failure hphase _
    apply stage_halts P c n i failure hphase

/-! ### Where a command does not succeed -/

/-- A result is that of a command that did not succeed. -/
def Unsuccessful (result : Except ProcessFault Completion) : Prop :=
  ∀ completion, result = .ok completion → completion.succeeded = false

/-- Among commands that have succeeded there is none that did not. -/
theorem Unsuccessful.not_mem {result : Except ProcessFault Completion} {ds : List Event}
    (hresult : Unsuccessful result) (h : Trace.Succeeded ds) :
  .executed result ∉ ds
  := by
  intro hmem
  obtain ⟨millis, rfl⟩ := h result hmem
  cases hresult _ rfl

/-- A command that did not succeed is the last thing that was done before the run failed, and the
fault is what became of it. -/
theorem Halts.at_executed {fault : RunFault} {pre mid : List Event}
    {result : Except ProcessFault Completion} (h : Halts fault w)
    (hsplit : w.deeds = pre ++ .executed result :: mid) (hresult : Unsuccessful result) :
  mid = [] ∧ match result with
    | .ok _ => w.raised = true → ∃ phase : Phase, phase.Executes ∧ fault = .interrupted phase
    | .error cause => fault = .execution cause
  := by
  -- it is not among the commands that succeeded, so it is the last one
  have hlast : ∀ {before : List Event} {i : Invocation} {last},
      Trace.Smooth before → w.deeds = before ++ [.executing i, .executed last] →
      last = result ∧ mid = [] := by
    intro before i last hbefore hds
    have hwhole : (before ++ [.executing i]) ++ .executed last :: []
        = pre ++ .executed result :: mid := by
      rw [← hsplit, hds, List.append_assoc]
      rfl
    have hnone : .executed result ∉ before ++ [.executing i] := by
      simpa using hresult.not_mem hbefore.succeeded
    obtain ⟨-, hresults, hmid⟩ :=
      (List.append_cons_inj_of_notMem hnone List.not_mem_nil).mp hwhole
    cases hresults
    exact ⟨rfl, hmid.symm⟩
  cases h with
  | smooth h =>
    exfalso
    apply hresult.not_mem h.succeeded
    rw [hsplit]
    simp
  | overtaken h _ hds =>
    exfalso
    apply hresult.not_mem h.succeeded
    have hmem : .executed result ∈ w.deeds := by
      rw [hsplit]
      simp
    rw [hds] at hmem
    simpa using hmem
  | broken h hds =>
    obtain ⟨rfl, rfl⟩ := hlast h hds
    exact ⟨rfl, rfl⟩
  | rejected h hfault hds =>
    obtain ⟨rfl, rfl⟩ := hlast h hds
    exact ⟨rfl, hfault⟩

/-- A command that has not come to its end before the run failed was interrupted. -/
theorem Halts.at_executing {fault : RunFault} {pre mid : List Event} {i : Invocation}
    (h : Halts fault w) (hsplit : w.deeds = pre ++ .executing i :: mid)
    (hnone : ∀ result, .executed result ∉ mid) :
  mid = [] ∧ ∃ phase : Phase, phase.Executes ∧ fault = .interrupted phase
  := by
  -- the commands before the last one have come to their ends, and so has one with a result
  have hended : ¬ Trace.Ended w.deeds := by
    intro hended
    obtain ⟨result, hmem⟩ := hended pre i mid hsplit
    apply hnone result hmem
  cases h with
  | smooth h => cases hended h.ended
  | @overtaken before i' phase _ h hphase hds =>
    rw [hds] at hsplit
    obtain ⟨rest, rfl, hrest⟩ | ⟨rest, rfl, hrest⟩ := List.append_eq_append_iff.mp hsplit
    · cases rest with
      | nil =>
        cases hrest
        exact ⟨rfl, phase, hphase, rfl⟩
      | cons e rest => simp at hrest
    · cases rest with
      | nil =>
        cases hrest
        exact ⟨rfl, phase, hphase, rfl⟩
      | cons e rest =>
        obtain ⟨rfl, rfl⟩ := List.cons.inj hrest
        obtain ⟨result, hmem⟩ := h.ended pre i rest rfl
        cases hnone result (List.mem_append_left _ hmem)
  | broken h hds =>
    rw [hds] at hended
    cases hended (h.ended.append (Trace.ended_execution _ _))
  | rejected h _ hds =>
    rw [hds] at hended
    cases hended (h.ended.append (Trace.ended_execution _ _))

/-! ### Whole runs -/

/-- A part of a command that happens in a run happens before the run is closed. -/
theorem Closes.split {path : List Phase} {pre post : List Event} {e : Event}
    (h : Closes c path w w') (hclosing : e.isClosing = false) (hraise : e.isRaise = false)
    (hevents : w'.events = pre ++ e :: post) :
  ∃ mid, w.deeds = Trace.deeds pre ++ e :: mid ∧ ∀ e' ∈ mid, e' ∈ post
  := by
  obtain ⟨-, ds, hds, -, hall⟩ := h
  have hwhole : w.deeds ++ ds = Trace.deeds pre ++ e :: Trace.deeds post := by
    have hcons : Trace.deeds (e :: post) = e :: Trace.deeds post :=
      List.filter_cons_of_pos (by rw [hraise]; rfl)
    rw [← hds, World.deeds, hevents, Trace.deeds_append, hcons]
  have hnot : e ∉ ds := by
    intro hmem
    rw [hall e hmem] at hclosing
    cases hclosing
  obtain ⟨rest, -, rfl⟩ | ⟨rest, hrest, hpost⟩ := List.append_eq_append_iff.mp hwhole
  · simp at hnot
  · cases rest with
    | nil =>
      rw [List.nil_append] at hpost
      rw [← hpost] at hnot
      simp at hnot
    | cons e' mid =>
      obtain ⟨rfl, hmid⟩ := List.cons.inj hpost
      use mid, hrest
      intro e' hmem
      apply List.mem_of_mem_filter (p := fun e => !e.isRaise)
      change e' ∈ Trace.deeds post
      rw [hmid]
      apply List.mem_append_left _ hmem

/-- If the signal is raised before something that is no part of the closing of a run, then it is
raised before the run is closed. -/
theorem Closes.raised {path : List Phase} {pre post mid : List Event} {e : Event} {t : Nat}
    (h : Closes c path w w') (hw : w.Orderly c) (hevents : w'.events = pre ++ e :: post)
    (hdeeds : w.deeds = Trace.deeds pre ++ e :: mid) (hmem : .raised t ∈ pre) :
  w.raised = true
  := by
  obtain ⟨rest, hrest⟩ := h.1.events_grow
  rw [hevents] at hrest
  obtain ⟨more, rfl, -⟩ | ⟨more, hmore, -⟩ := List.append_eq_append_iff.mp hrest
  · -- what happened before the closing would be less than what was done before it
    exfalso
    have hlength := congrArg List.length hdeeds
    rw [Trace.deeds_append] at hlength
    simp [World.deeds] at hlength
  · obtain ⟨before, after, hsplit⟩ := List.append_of_mem hmem
    rw [hsplit, List.append_assoc] at hmore
    apply (hw.quiet before t _ hmore).1

/-- A run has failed: what is known of the world in which its part before the teardown did. -/
structure Halted (c : Controls) (plan : Plan) (fault : RunFault) (w : World σ) (r : Result σ) :
    Prop where
  /-- The verdict tells the fault. -/
  verdict : r.verdict = .failed fault
  /-- The fault fits the phase that was entered last. -/
  failsOn : FailsOn plan.path fault w.deeds
  /-- The world is orderly. -/
  orderly : w.Orderly c
  /-- The commands before the last one have succeeded. -/
  halts : Halts fault w
  /-- From there the run was closed. -/
  closes : Closes c [.failed, .teardown, .done] w r.world

/-- What is known of the commands of a run, by its verdict. -/
theorem perform_halts (P : Ports σ) (c : Controls) {plan : Plan} (runId : String) (ports : σ)
    (hplan : plan.defect? = none) :
  ClosesAs c (Succeeding c) (fun fault w => FailsOn plan.path fault w.deeds
      ∧ w.Orderly c ∧ Halts fault w)
    (fun _ w => Trace.Succeeded w.deeds) (perform P c plan runId ports)
  := by
  apply perform_closes P c runId ports hplan
  have hstarted : Succeeding c (started c plan ports) := by
    use orderly_started c plan ports
    rw [deeds_started]
    apply Trace.smooth_noticed
  apply Attempt.Ends.mono ((drive_enters P c ports hplan).and (drive_halts P c plan _ hstarted))
  · rintro _ w ⟨-, hw⟩
    exact hw
  · rintro fault w h
    exact h
  · rintro _ w ⟨-, hw⟩
    exact hw

/-- A run in which a command did not succeed has failed. -/
theorem halted_of_executed (P : Ports σ) (c : Controls) {plan : Plan} (runId : String) (ports : σ)
    (hplan : plan.defect? = none) {pre post : List Event}
    {result : Except ProcessFault Completion}
    (hevents : (perform P c plan runId ports).world.events = pre ++ .executed result :: post)
    (hresult : Unsuccessful result) :
  ∃ fault w, Halted c plan fault w (perform P c plan runId ports)
  := by
  -- its result would be one of a command that has succeeded
  have hfalse : ∀ {path : List Phase} {w : World σ},
      Closes c path w (perform P c plan runId ports).world → Trace.Succeeded w.deeds → False := by
    intro path w hcloses hsucceeded
    obtain ⟨mid, hds, -⟩ := hcloses.split rfl rfl hevents
    apply hresult.not_mem hsucceeded
    rw [hds]
    simp
  have hhalts := perform_halts P c runId ports hplan
  rw [ClosesAs] at hhalts
  cases hverdict : (perform P c plan runId ports).verdict with
  | passed summary =>
    rw [hverdict] at hhalts
    obtain ⟨w, hw, hcloses⟩ := hhalts
    cases hfalse hcloses hw.2.succeeded
  | failed fault =>
    rw [hverdict] at hhalts
    obtain ⟨w, ⟨hfails, horderly, hhalts⟩, hcloses⟩ := hhalts
    exact ⟨fault, w, hverdict, hfails, horderly, hhalts, hcloses⟩
  | cut k =>
    rw [hverdict] at hhalts
    obtain ⟨w, hw, hcloses⟩ := hhalts
    cases hfalse hcloses hw

/-- A run in which a command did not come to its end has failed, or was cut short. -/
theorem halted_of_executing (P : Ports σ) (c : Controls) {plan : Plan} (runId : String)
    (ports : σ) (hplan : plan.defect? = none) {pre post : List Event} {i : Invocation}
    (hevents : (perform P c plan runId ports).world.events = pre ++ .executing i :: post)
    (hnone : ∀ result, .executed result ∉ post) :
  (∃ k, (perform P c plan runId ports).verdict = .cut k)
    ∨ ∃ fault w, Halted c plan fault w (perform P c plan runId ports)
  := by
  have hhalts := perform_halts P c runId ports hplan
  rw [ClosesAs] at hhalts
  cases hverdict : (perform P c plan runId ports).verdict with
  | passed summary =>
    exfalso
    rw [hverdict] at hhalts
    obtain ⟨w, ⟨-, hsmooth⟩, hcloses⟩ := hhalts
    obtain ⟨mid, hds, hmid⟩ := hcloses.split rfl rfl hevents
    obtain ⟨result, hmem⟩ := hsmooth.ended _ i mid hds
    apply hnone result (hmid _ hmem)
  | failed fault =>
    right
    rw [hverdict] at hhalts
    obtain ⟨w, ⟨hfails, horderly, hhalts⟩, hcloses⟩ := hhalts
    exact ⟨fault, w, hverdict, hfails, horderly, hhalts, hcloses⟩
  | cut k =>
    left
    use k

/-- The fault fits the phase that was entered last before the last deed. -/
theorem Halted.last {plan : Plan} {fault : RunFault} {r : Result σ} {pre : List Event}
    {e : Event} (h : Halted c plan fault w r) (he : e.phase? = none)
    (hds : w.deeds = Trace.deeds pre ++ [e]) :
  ∃ phase, fault.Fits phase ∧ (Trace.phases pre).getLast? = some phase
  := by
  obtain ⟨before, p, after, -, hphases, hfits⟩ := h.failsOn
  use p, hfits
  have hpre : Trace.phases w.deeds = Trace.phases pre := by
    rw [hds, Trace.phases_append, Trace.phases_deeds, Trace.phases, Trace.phases,
      List.filterMap_cons_none he, List.filterMap_nil, List.append_nil]
  rw [← hpre, hphases]
  apply List.getLast?_concat

/-- What becomes of a run of a valid plan in which a command does not succeed.  If the signal is
raised by the time the command comes to its end, its phase is the one that was entered last, and
the run was interrupted in that phase if the command exited with a code other than zero; if it
could not be executed, the run fails with the reason.  A command that does not come to its end
was interrupted in its phase, unless the run was cut short. -/
theorem perform_failedStage (h : Harness σ) (P : Ports σ) (c : Controls) (plan : Plan)
    (runId : String) (hplan : plan.validate = .ok ()) :
  let r := (h.perform P c plan runId).1
  (∀ pre result post, r.world.events = pre ++ .executed result :: post →
      (∃ t, .raised t ∈ pre) →
      (∀ completion, result = .ok completion → completion.succeeded = false) →
      ∃ phase : Phase,
        (phase = .building ∨ phase = .workspaceTesting ∨ phase = .integrationTesting)
        ∧ (Trace.phases pre).getLast? = some phase
        ∧ match result with
          | .ok _ => r.verdict = .failed (.interrupted phase)
          | .error fault => r.verdict = .failed (.execution fault))
    ∧ ∀ pre i post, r.world.events = pre ++ .executing i :: post →
      (∀ result, .executed result ∉ post) →
      (∃ k, r.verdict = .cut k) ∨ ∃ phase : Phase,
        (phase = .building ∨ phase = .workspaceTesting ∨ phase = .integrationTesting)
        ∧ (Trace.phases pre).getLast? = some phase
        ∧ r.verdict = .failed (.interrupted phase)
  := by
  intro r
  have hdefect := validate_eq_ok_iff.mp hplan
  constructor
  · rintro pre result post hevents ⟨t, ht⟩ hresult
    obtain ⟨fault, w, hhalted⟩ :=
      halted_of_executed P c runId h.ports hdefect hevents hresult
    obtain ⟨mid, hds, -⟩ := hhalted.closes.split rfl rfl hevents
    have hraised := hhalted.closes.raised hhalted.orderly hevents hds ht
    obtain ⟨rfl, hfault⟩ := hhalted.halts.at_executed hds hresult
    obtain ⟨phase, hfits, hphase⟩ := hhalted.last rfl hds
    use phase
    cases result with
    | ok completion =>
      obtain ⟨_, hexecutes, rfl⟩ := hfault hraised
      cases hfits
      exact ⟨hexecutes, hphase, hhalted.verdict⟩
    | error cause =>
      dsimp only at hfault
      obtain rfl := hfault
      exact ⟨hfits, hphase, hhalted.verdict⟩
  · intro pre i post hevents hnone
    obtain hcut | ⟨fault, w, hhalted⟩ :=
      halted_of_executing P c runId h.ports hdefect hevents hnone
    · left
      exact hcut
    · right
      obtain ⟨mid, hds, hmid⟩ := hhalted.closes.split rfl rfl hevents
      obtain ⟨rfl, _, hexecutes, rfl⟩ :=
        hhalted.halts.at_executing hds fun result hmem => hnone result (hmid _ hmem)
      obtain ⟨phase, hfits, hphase⟩ := hhalted.last rfl hds
      use phase
      cases hfits
      exact ⟨hexecutes, hphase, hhalted.verdict⟩

/-- Ports on which the first build raises the signal and then has the outcome. -/
def raisingBuild (outcome : Scripted.CommandOutcome) : Ports Scripted.Record :=
  let rule : Scripted.CommandRule := { course := { raises := true }, outcome := outcome }
  Scripted.ports { commands := KeyMap.insert {} "cargo build -p oprish" rule }

/-- A build that exits with a code other than zero after it has raised the signal was
interrupted. -/
theorem perform_failedStage_exits :
  ({} : Plan).validate = .ok ()
    ∧ (∃ pre post, (({ ports := {} } : Harness Scripted.Record).perform
        (raisingBuild (.exits 130)) { dropAt := 120007 } {} "run-1").1.world.events
        = pre ++ .executed (.ok ⟨130, 1⟩) :: post
      ∧ .raised 0 ∈ pre)
    ∧ (({ ports := {} } : Harness Scripted.Record).perform (raisingBuild (.exits 130))
        { dropAt := 120007 } {} "run-1").1.verdict
      = .failed (.interrupted .building)
  := by
  have hplan : ({} : Plan).validate = .ok () := validate_eq_ok_iff.mpr (by decide +kernel)
  have hevents : (({ ports := {} } : Harness Scripted.Record).perform
      (raisingBuild (.exits 130)) { dropAt := 120007 } {} "run-1").1.world.events
      = [.noticed (.runStarted 3), .entered .building, .noticed (.compiling "oprish"),
          .executing (({} : Plan).buildInvocation (Service.cargo "oprish")), .raised 0]
        ++ .executed (.ok ⟨130, 1⟩) :: [.entered .failed,
          .noticed (.runFailed (.interrupted .building)), .entered .teardown, .entered .done] := by
    decide +kernel
  obtain ⟨hstage, -⟩ := perform_failedStage { ports := {} } (raisingBuild (.exits 130))
    { dropAt := 120007 } {} "run-1" hplan
  obtain ⟨phase, -, hphase, hverdict⟩ := hstage _ _ _ hevents ⟨0, by simp⟩ (by simp; decide)
  cases hphase
  exact ⟨hplan, ⟨_, _, hevents, by simp⟩, hverdict⟩

/-- A build that cannot be executed after it has raised the signal was not interrupted. -/
theorem broken_although_raised :
  (∃ pre post, (({ ports := {} } : Harness Scripted.Record).perform
      (raisingBuild (.fault (.io "broken pipe"))) { dropAt := 120007 }
      { workspaceTests := false } "run-1").1.world.events
      = pre ++ .executed (.error (.io "broken pipe")) :: post
    ∧ .raised 0 ∈ pre)
    ∧ (({ ports := {} } : Harness Scripted.Record).perform
        (raisingBuild (.fault (.io "broken pipe"))) { dropAt := 120007 }
        { workspaceTests := false } "run-1").1.verdict
      = .failed (.execution (.io "broken pipe"))
  := by
  constructor
  · use [.noticed (.runStarted 3), .entered .building, .noticed (.compiling "oprish"),
      .executing (({} : Plan).buildInvocation (Service.cargo "oprish")), .raised 0],
      [.entered .failed, .noticed (.runFailed (.execution (.io "broken pipe"))),
        .entered .teardown, .entered .done]
    constructor
    · decide +kernel
    · simp
  · decide +kernel

end Run

end ServiceHarness
