import ServiceHarness.Proofs.Session.Doing
import ServiceHarness.Run.Supervisor

/-!
# Tearing down

What it does to a world to interrupt its live services.  The step is `stop`, which interrupts
the first one (`stop_moves`); `stopAll_moves` takes it to all of them, and `teardown_does` and
`abandon_moves` say it of the two ways in which services are stopped: at the end of a run, and
when a run is given up.  Either way each live service is interrupted once, in the order of
launching, whatever the launcher answers, and none is live afterwards.
-/

namespace ServiceHarness.Run

variable {σ : Type} {c : Controls} {w : World σ}

/-- What interrupting a service does: the log is told, the service is interrupted, and the log
may be told of the answer. -/
def stops (h : Handle) (answer : Except ProcessFault SignalOutcome) : List Event :=
  [.noticed (.stopping h.name h.pid), .interrupted h answer]
    ++ (answerNotice h answer).toList.map .noticed

/-- The interrupts, and nothing else, are calls. -/
theorem calls_stops (h : Handle) (answer : Except ProcessFault SignalOutcome) :
  Trace.calls (stops h answer) = [.interrupted h answer]
  := by
  rcases answer with fault | (_ | _) <;> rfl

theorem phases_stops (h : Handle) (answer : Except ProcessFault SignalOutcome) :
  Trace.phases (stops h answer) = []
  := by
  rcases answer with fault | (_ | _) <;> rfl

/-- Interrupting the first live service lets its handle go. -/
theorem stop_moves (P : Ports σ) {h : Handle} {rest : List Handle} (hlive : w.live = h :: rest) :
  Moves c w (stop P c h w).2
    ∧ (stop P c h w).2.deeds = w.deeds ++ stops h (stop P c h w).1
    ∧ (stop P c h w).2.live = rest
  := by
  rw [stop]
  dsimp only
  generalize P.interrupt w.ports w.now h = reply
  -- the log may be told of the answer
  have hnotice : ∀ w' : World σ, Moves c w' ((answerNotice h reply.result).elim w' w'.tell)
      ∧ ((answerNotice h reply.result).elim w' w'.tell).deeds
        = w'.deeds ++ (answerNotice h reply.result).toList.map .noticed
      ∧ ((answerNotice h reply.result).elim w' w'.tell).live = w'.live := by
    intro w'
    cases answerNotice h reply.result with
    | none => exact ⟨.refl, (List.append_nil _).symm, rfl⟩
    | some n => exact ⟨.single (.tells w' n), w'.deeds_tell n, rfl⟩
  have hinterrupt : Moves c w ((w.tell (.stopping h.name h.pid)).interrupt h reply) :=
    .tail (.single (.tells w _)) (.interrupts _ h rest reply hlive)
  obtain ⟨hnotice, hdeeds, hlive'⟩ := hnotice
    (((w.tell (.stopping h.name h.pid)).interrupt h reply).raiseIf reply.raises c)
  constructor
  · apply (hinterrupt.trans (Session.raiseIf_moves _ c _)).trans hnotice
  · constructor
    · rw [hdeeds, World.deeds_raiseIf, World.deeds_interrupt, World.deeds_tell, stops]
      simp
    · rw [hlive', World.live_raiseIf]
      change w.live.tail = rest
      rw [hlive]
      rfl

/-- Whatever is found of a handle, it is one more that was dealt with. -/
theorem signals_add (t : Teardown) (h : Handle) (answer : Except ProcessFault SignalOutcome) :
  (t.add h answer).signals = t.signals + 1
  := by
  rcases answer with fault | (_ | _)
  all_goals
    simp only [Teardown.add, Teardown.signals, List.length_append, List.length_singleton]
    omega

/-- Interrupting the live services one after the other lets all of their handles go. -/
theorem stopAll_moves (P : Ports σ) :
    ∀ (handles : List Handle) (t : Teardown) (w : World σ), w.live = handles →
      Moves c w (stopAll P c handles t w).2
        ∧ (stopAll P c handles t w).2.live = []
        ∧ (stopAll P c handles t w).1.signals = t.signals + handles.length
        ∧ ∃ answers : List (Except ProcessFault SignalOutcome), answers.length = handles.length
          ∧ (stopAll P c handles t w).2.deeds
            = w.deeds ++ (List.zipWith stops handles answers).flatten
  | [], t, w, hlive => ⟨.refl, hlive, rfl, [], rfl, (List.append_nil _).symm⟩
  | h :: rest, t, w, hlive => by
    obtain ⟨hmoves, hdeeds, hrest⟩ := stop_moves P hlive
    obtain ⟨hmoves', hnone, hsignals, answers, hlength, hdeeds'⟩ :=
      stopAll_moves P rest (t.add h (stop P c h w).1) (stop P c h w).2 hrest
    use hmoves.trans hmoves', hnone
    constructor
    · rw [signals_add] at hsignals
      rw [stopAll, List.length_cons, hsignals]
      omega
    · use (stop P c h w).1 :: answers
      constructor
      · rw [List.length_cons, List.length_cons, hlength]
      · rw [stopAll, hdeeds', hdeeds, List.append_assoc]
        rfl

/-- No service is live after a teardown. -/
theorem live_teardownWorld (P : Ports σ) (c : Controls) (w : World σ) :
  (teardownWorld P c w).2.live = []
  := (stopAll_moves P w.live {} w rfl).2.1

/-- What interrupting services with the given answers calls is the interrupts. -/
theorem calls_zipWith_stops :
    ∀ (handles : List Handle) (answers : List (Except ProcessFault SignalOutcome)),
      Trace.calls (List.zipWith stops handles answers).flatten
        = List.zipWith Event.interrupted handles answers
  | [], _ => rfl
  | _ :: _, [] => rfl
  | h :: handles, answer :: answers => by
    rw [List.zipWith_cons_cons, List.flatten_cons, Trace.calls_append, calls_stops,
      calls_zipWith_stops handles answers]
    rfl

theorem phases_zipWith_stops :
    ∀ (handles : List Handle) (answers : List (Except ProcessFault SignalOutcome)),
      Trace.phases (List.zipWith stops handles answers).flatten = []
  | [], _ => rfl
  | _ :: _, [] => rfl
  | h :: handles, answer :: answers => by
    rw [List.zipWith_cons_cons, List.flatten_cons, Trace.phases_append, phases_stops,
      phases_zipWith_stops handles answers]
    rfl

/-- The teardown at the end of a run. -/
theorem teardown_does (P : Ports σ) (w : World σ) :
  Session.Does c (teardown P c) w
    (fun t ds w' => w'.live = [] ∧ t.signals = w.live.length
      ∧ ∃ answers : List (Except ProcessFault SignalOutcome), answers.length = w.live.length
        ∧ ds = (List.zipWith stops w.live answers).flatten)
    (fun _ _ _ => False)
  := by
  obtain ⟨hmoves, hnone, hsignals, answers, hlength, hdeeds⟩ :=
    stopAll_moves P w.live {} w rfl
  use hmoves, (List.zipWith stops w.live answers).flatten, hdeeds, hnone
  constructor
  · apply hsignals.trans (Nat.zero_add _)
  · exact ⟨answers, hlength, rfl⟩

/-- Giving up a run interrupts its live services, after the log has been told. -/
theorem abandon_moves (P : Ports σ) (w : World σ) :
  Moves c w (abandon P c w) ∧ (abandon P c w).live = []
    ∧ (abandon P c w = w ∨ Moves c (w.tell (.abandoned w.live.length)) (abandon P c w))
  := by
  rw [abandon]
  split
  case isTrue hlive =>
    exact ⟨.refl, List.isEmpty_iff.mp hlive, .inl rfl⟩
  case isFalse =>
    obtain ⟨hmoves, hnone, -⟩ := stopAll_moves P
      (w.tell (.abandoned w.live.length)).live {} (w.tell (.abandoned w.live.length)) rfl
    constructor
    · apply Relation.ReflTransGen.head (.tells w _) hmoves
    · exact ⟨hnone, .inr hmoves⟩

end ServiceHarness.Run
