import Mathlib.Data.List.Perm.Basic
import ServiceHarness.Proofs.Run.Supervision

/-!
# What a teardown finds

A teardown asks the launcher to interrupt the live services one after the other, and what it is
answered may depend on everything that it has asked before (`answersTo`).  What it tells in the end
sorts the answered services, in order: those that are stopped, those of them that had exited
already, and those that failed (`Teardown.Sorts`).  One more answer keeps it so
(`Teardown.Sorts.add`), and hence every teardown does (`teardown_sorts`).
-/

namespace ServiceHarness.Run

variable {σ : Type} {P : Ports σ} {w : World σ}

/-! ### Answers -/

/-- The services with the answers to their interrupts, asked for at one instant and one after the
other: each interrupt finds the launcher in the state in which the one before left it. -/
def answersTo (P : Ports σ) (now : Nat) :
    σ → List Handle → List (Handle × Except ProcessFault SignalOutcome)
  | _, [] => []
  | s, h :: rest =>
    (h, (P.interrupt s now h).result) :: answersTo P now (P.interrupt s now h).state rest

/-- Every service is asked about once, in order. -/
theorem map_fst_answersTo (P : Ports σ) (now : Nat) :
    ∀ (s : σ) (handles : List Handle), (answersTo P now s handles).map Prod.fst = handles
  | _, [] => rfl
  | s, h :: rest => by
    rw [answersTo, List.map_cons, map_fst_answersTo P now (P.interrupt s now h).state rest]

/-- Interrupting a service tells what the launcher answers, which is then in the state in which it
answered; no time passes. -/
theorem stop_answers (P : Ports σ) (h : Handle) (w : World σ) :
  (stop P c h w).1 = (P.interrupt w.ports w.now h).result
    ∧ (stop P c h w).2.ports = (P.interrupt w.ports w.now h).state
    ∧ (stop P c h w).2.now = w.now
  := by
  rw [stop]
  dsimp only
  generalize P.interrupt w.ports w.now h = reply
  have hnotice : ∀ w' : World σ,
      ((answerNotice h reply.result).elim w' w'.tell).ports = w'.ports
        ∧ ((answerNotice h reply.result).elim w' w'.tell).now = w'.now := by
    intro w'
    cases answerNotice h reply.result with
    | none => exact ⟨rfl, rfl⟩
    | some n => exact ⟨rfl, rfl⟩
  use rfl
  rw [(hnotice _).1, (hnotice _).2, World.ports_raiseIf, World.now_raiseIf]
  exact ⟨rfl, rfl⟩

/-! ### Sorting the answers -/

/-- What the teardown tells sorts the answered services. -/
structure Teardown.Sorts (t : Teardown)
    (answered : List (Handle × Except ProcessFault SignalOutcome)) : Prop where
  /-- The services that the signal reached, or that had exited, are stopped. -/
  stopped : t.stopped =
    (answered.filter fun a => a.2 = .ok .delivered ∨ a.2 = .ok .alreadyExited).map
      fun a => a.1.name
  /-- Those that had exited are told once more. -/
  alreadyExited : t.alreadyExited =
    (answered.filter fun a => a.2 = .ok .alreadyExited).map fun a => a.1.name
  /-- They are some of the stopped ones, in the same order. -/
  subsequence : t.alreadyExited.Sublist t.stopped
  /-- The others failed, with the wording of the fault. -/
  failed : t.failed = answered.filterMap fun a =>
    match a.2 with
    | .error fault => some (a.1.name, fault.message)
    | .ok _ => none
  /-- Each service is either stopped or failed. -/
  partition : ∃ stopped failed : List Handle,
    (stopped ++ failed).Perm (answered.map Prod.fst)
      ∧ stopped.map Handle.name = t.stopped ∧ failed.map Handle.name = t.failed.map Prod.fst
  /-- It counts every service once. -/
  counted : t.signals = answered.length

namespace Teardown

theorem sorts_nil :
  ({} : Teardown).Sorts []
  := ⟨rfl, rfl, .slnil, rfl, ⟨[], [], .refl [], rfl, rfl⟩, rfl⟩

/-- What is found of one more service goes to its place. -/
theorem Sorts.add {t : Teardown} {answered : List (Handle × Except ProcessFault SignalOutcome)}
    (hsorts : t.Sorts answered) (h : Handle) (answer : Except ProcessFault SignalOutcome) :
  (t.add h answer).Sorts (answered ++ [(h, answer)])
  := by
  obtain ⟨hstopped, hexited, hsublist, hfailed, ⟨stopped, failed, hperm, hnames, hnames'⟩, hcounted⟩
    := hsorts
  constructor
  case stopped => rcases answer with fault | (_ | _) <;> simp [Teardown.add, hstopped]
  case alreadyExited => rcases answer with fault | (_ | _) <;> simp [Teardown.add, hexited]
  case subsequence =>
    rcases answer with fault | (_ | _)
    · exact hsublist
    · exact hsublist.trans (List.sublist_append_left _ _)
    · exact hsublist.append (.refl [h.name])
  case failed => rcases answer with fault | (_ | _) <;> simp [Teardown.add, hfailed]
  case partition =>
    rw [List.map_append, List.map_singleton]
    cases answer with
    | ok outcome =>
      use stopped ++ [h], failed
      constructor
      · have hlast : (stopped ++ [h] ++ failed).Perm (stopped ++ failed ++ [h]) := by
          rw [List.append_assoc, List.append_assoc]
          apply List.perm_append_comm.append_left
        apply hlast.trans (hperm.append_right [h])
      · cases outcome <;> simp [Teardown.add, hnames, hnames']
    | error fault =>
      use stopped, failed ++ [h]
      constructor
      · rw [← List.append_assoc]
        apply hperm.append_right
      · simp [Teardown.add, hnames, hnames']
  case counted => rw [signals_add, hcounted, List.length_append, List.length_singleton]

end Teardown

/-- Interrupting services one after the other sorts them by the answers of the launcher, which is
asked nothing else. -/
theorem stopAll_sorts (P : Ports σ) :
    ∀ (handles : List Handle) {t : Teardown}
      {answered : List (Handle × Except ProcessFault SignalOutcome)} {w : World σ},
      w.live = handles → t.Sorts answered →
        (stopAll P c handles t w).1.Sorts (answered ++ answersTo P w.now w.ports handles)
          ∧ Trace.calls (stopAll P c handles t w).2.events = Trace.calls w.events
            ++ (answersTo P w.now w.ports handles).map fun a => .interrupted a.1 a.2
  | [], t, answered, w, _, hsorts => by
    rw [answersTo, List.append_nil, List.map_nil, List.append_nil]
    exact ⟨hsorts, rfl⟩
  | h :: rest, t, answered, w, hlive, hsorts => by
    obtain ⟨hanswer, hports, hnow⟩ := stop_answers P h w
    obtain ⟨-, hdeeds, hrest⟩ := stop_moves P hlive
    obtain ⟨hsorts', hcalls⟩ := stopAll_sorts P rest hrest (hsorts.add h (stop P c h w).1)
    rw [hports, hnow, hanswer] at hsorts' hcalls
    rw [World.calls_of_deeds hdeeds, calls_stops, hanswer] at hcalls
    have hstopAll : stopAll P c (h :: rest) t w = stopAll P c rest (t.add h (stop P c h w).1) (stop P c h w).2
      := rfl
    rw [hstopAll, hanswer, answersTo]
    constructor
    · rw [List.append_cons]
      exact hsorts'
    · rw [hcalls, List.append_assoc, List.map_cons]
      rfl

/-- Whatever the launcher answers, a teardown sorts the live services by the answers: each of them
is interrupted once, in the order of launching, and is told to be stopped or to have failed. -/
theorem teardown_sorts (P : Ports σ) (w : World σ) :
  Session.Ends (teardown P c) w
    (fun t w' => t.Sorts (answersTo P w.now w.ports w.live)
      ∧ (answersTo P w.now w.ports w.live).map Prod.fst = w.live
      ∧ t.signals = w.live.length
      ∧ Trace.calls w'.events = Trace.calls w.events
        ++ (answersTo P w.now w.ports w.live).map fun a => .interrupted a.1 a.2)
    (fun _ _ => False)
  := by
  obtain ⟨hsorts, hcalls⟩ := stopAll_sorts P w.live rfl Teardown.sorts_nil
  have hhandles := map_fst_answersTo P w.now w.ports w.live
  have hcounted : (stopAll P c w.live {} w).1.signals = w.live.length := by
    rw [hsorts.counted, ← List.length_map Prod.fst, List.nil_append, hhandles]
  exact ⟨hsorts, hhandles, hcounted, hcalls⟩

end ServiceHarness.Run
