import ServiceHarness.Proofs.Run.Guarded

/-!
# How a run is closed

What follows the part of a run before its teardown is of one kind, however the run ends: phases
are entered, the log is told and services are interrupted (`Closes`).  `perform_closes` says so of
every run of a plan without defects, also of one that is given up.
-/

namespace ServiceHarness

/-- Whether the event may stand in the closing of a run. -/
def Event.isClosing : Event → Bool
  | .entered _ => true
  | .noticed _ => true
  | .interrupted .. => true
  | _ => false

namespace Run

variable {σ : Type} {c : Controls} {w w' : World σ}

/-- All of the events may stand in the closing of a run. -/
def Closing (ds : List Event) : Prop :=
  ∀ e ∈ ds, e.isClosing = true

theorem Closing.append {ds ds' : List Event} (h : Closing ds) (h' : Closing ds') :
  Closing (ds ++ ds')
  := by
  intro e he
  obtain he | he := List.mem_append.mp he
  · apply h e he
  · apply h' e he

theorem closing_noticed (n : Notice) :
  Closing [.noticed n]
  := by
  intro e he
  rw [List.mem_singleton.mp he]
  rfl

theorem closing_enters {p : Phase} {ds : List Event} (h : Enters p ds) :
  Closing ds
  := by
  obtain ⟨notices, rfl⟩ := h
  intro e he
  obtain he | he := List.mem_append.mp he
  · obtain ⟨n, -, rfl⟩ := List.mem_map.mp he
    rfl
  · rw [List.mem_singleton.mp he]
    rfl

theorem closing_stops (h : Handle) (answer : Except ProcessFault SignalOutcome) :
  Closing (stops h answer)
  := by
  rcases answer with fault | (_ | _)
  all_goals simp [Closing, stops, answerNotice, Event.isClosing]

/-- What holds of the events of every interrupt holds of the events of several. -/
theorem forall_mem_stops {p : Event → Prop}
    (hp : ∀ h answer, ∀ e ∈ stops h answer, p e) :
    ∀ (handles : List Handle) (answers : List (Except ProcessFault SignalOutcome)),
      ∀ e ∈ (List.zipWith stops handles answers).flatten, p e
  | [], _, e, he => by simp at he
  | _ :: _, [], e, he => by simp at he
  | h :: handles, answer :: answers, e, he => by
    rw [List.zipWith_cons_cons, List.flatten_cons] at he
    obtain he | he := List.mem_append.mp he
    · apply hp h answer e he
    · apply forall_mem_stops hp handles answers e he

theorem closing_tearsDown {handles : List Handle} {ds : List Event} (h : TearsDown handles ds) :
  Closing ds
  := by
  obtain ⟨entering, entering', answers, rfl, henters, -, henters'⟩ := h
  apply (closing_enters henters).append
  apply Closing.append (forall_mem_stops closing_stops handles answers)
  apply closing_enters henters'

theorem EndsWell.closes {runId : String} {handles : List Handle} {summary : Summary}
    {ds : List Event} (h : EndsWell runId handles summary ds) :
  Trace.phases ds = [.teardown, .done] ∧ Closing ds
  := by
  obtain ⟨finishing, rfl, hfinishing, -⟩ := h
  constructor
  · rw [Trace.phases_append, hfinishing.phases]
    rfl
  · apply (closing_tearsDown hfinishing).append (closing_noticed _)

theorem EndsBadly.closes {handles : List Handle} {fault : RunFault} {ds : List Event}
    (h : EndsBadly handles fault ds) :
  Trace.phases ds = [.failed, .teardown, .done] ∧ Closing ds
  := by
  obtain ⟨failing, finishing, rfl, ⟨entering, _, rfl, henters, rfl⟩, hfinishing⟩ := h
  constructor
  · rw [Trace.phases_append, Trace.phases_append, henters.phases, hfinishing.phases]
    rfl
  · apply ((closing_enters henters).append (closing_noticed _)).append
    apply closing_tearsDown hfinishing

/-- A run closes from one world to another: it enters the phases of the path, and does nothing
else but tell the log and interrupt services. -/
def Closes (c : Controls) (path : List Phase) (w w' : World σ) : Prop :=
  Moves c w w' ∧ ∃ ds, w'.deeds = w.deeds ++ ds ∧ Trace.phases ds = path ∧ Closing ds

/-- What is done when a run is given up: if services are live, the log is told and they are
interrupted. -/
theorem abandon_deeds (P : Ports σ) (w : World σ) :
  ∃ ds, (abandon P c w).deeds = w.deeds ++ ds
    ∧ (ds = [] ∨ ∃ answers : List (Except ProcessFault SignalOutcome),
      ds = [.noticed (.abandoned w.live.length)] ++ (List.zipWith stops w.live answers).flatten)
  := by
  rw [abandon]
  split
  case isTrue => exact ⟨[], (List.append_nil _).symm, .inl rfl⟩
  case isFalse =>
    obtain ⟨-, -, -, answers, -, hdeeds⟩ := stopAll_moves P
      (w.tell (.abandoned w.live.length)).live {} (w.tell (.abandoned w.live.length)) rfl
    rw [World.deeds_tell, List.append_assoc] at hdeeds
    exact ⟨_, hdeeds, .inr ⟨answers, rfl⟩⟩

/-- Giving up a run closes it, without entering a phase. -/
theorem abandon_closes (P : Ports σ) (w : World σ) :
  Closes c [] w (abandon P c w)
  := by
  use (abandon_moves P w).1
  obtain ⟨ds, hds, rfl | ⟨answers, rfl⟩⟩ := abandon_deeds P w
  · use [], hds, rfl
    intro e he
    cases he
  · use [.noticed (.abandoned w.live.length)] ++ (List.zipWith stops w.live answers).flatten, hds
    constructor
    · rw [Trace.phases_append, phases_zipWith_stops]
      rfl
    · apply Closing.append (closing_noticed _) (forall_mem_stops closing_stops w.live answers)

/-- A run of a plan without defects is closed as it ends: after the part before its teardown, of
which something is known, it enters the phases that are left, and nothing is executed, launched
or probed any more. -/
def ClosesAs (c : Controls) (ok : World σ → Prop) (fail : RunFault → World σ → Prop)
    (cut : Cut → World σ → Prop) (r : Result σ) : Prop :=
  match r.verdict with
  | .passed _ => ∃ w, ok w ∧ Closes c [.teardown, .done] w r.world
  | .failed fault => ∃ w, fail fault w ∧ Closes c [.failed, .teardown, .done] w r.world
  | .cut k => ∃ w, cut k w ∧ Closes c [] w r.world

theorem perform_closes (P : Ports σ) (c : Controls) {plan : Plan} (runId : String) (ports : σ)
    (hplan : plan.defect? = none) {ok : World σ → Prop} {fail : RunFault → World σ → Prop}
    {cut : Cut → World σ → Prop}
    (h : Attempt.Ends (drive P c plan) (started c plan ports) (fun _ => ok) fail cut) :
  ClosesAs c ok fail cut (perform P c plan runId ports)
  := by
  have hends := perform_ends P c runId ports hplan h
  rw [EndsAs] at hends
  rw [ClosesAs]
  cases hverdict : (perform P c plan runId ports).verdict with
  | passed summary =>
    rw [hverdict] at hends
    obtain ⟨w, hw, hmoves, -, ds, hds, hends⟩ := hends
    exact ⟨w, hw, hmoves, ds, hds, hends.closes⟩
  | failed fault =>
    rw [hverdict] at hends
    obtain ⟨w, hw, hmoves, -, ds, hds, hends⟩ := hends
    exact ⟨w, hw, hmoves, ds, hds, hends.closes⟩
  | cut k =>
    rw [hverdict] at hends
    obtain ⟨w, hw, hworld⟩ := hends
    use w, hw
    rw [hworld]
    apply abandon_closes

/-- The phases that a run enters before its teardown. -/
theorem drive_enters (P : Ports σ) (c : Controls) {plan : Plan} (ports : σ)
    (hplan : plan.defect? = none) :
  Attempt.Ends (drive P c plan) (started c plan ports)
    (fun _ w => Trace.phases w.deeds = plan.path)
    (fun fault w => FailsOn plan.path fault w.deeds)
    (fun _ w => Trace.phases w.deeds ≠ [] ∧ Trace.phases w.deeds <+: plan.path)
  := by
  -- none was entered at the start
  have hstarted : ∀ {ds : List Event} {w : World σ},
      w.deeds = (started c plan ports).deeds ++ ds → Trace.phases w.deeds = Trace.phases ds := by
    intro ds w hds
    rw [hds, deeds_started, Trace.phases_append]
    rfl
  apply Attempt.Ends.mono
    (drive_goes P c plan (interval_pos hplan) (orderly_started c plan ports))
  · rintro _ w ⟨-, ds, hds, hpath, -⟩
    rw [hstarted hds, hpath]
  · rintro fault w ⟨-, ds, hds, hfails⟩
    rw [FailsOn, hstarted hds]
    exact hfails
  · rintro k w ⟨-, ds, hds, hpath, -⟩
    rw [hstarted hds]
    exact hpath

end Run

end ServiceHarness
