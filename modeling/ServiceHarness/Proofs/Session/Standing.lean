import ServiceHarness.Proofs.Session.Doing

/-!
# How far a run has come

The `Standing` of a run is what a run without phases and without a log would know of itself: the
state of its ports, the time, the handles that it holds and the calls that it has made.  What is told
the log and what phases are entered is silent: it leaves the standing (`Session.Silent`).  A call
that takes its course is begun from a standing (`Session.Begins`).
-/

namespace ServiceHarness

variable {σ α : Type} {c : Controls}

/-- How far a run has come. -/
structure Standing (σ : Type) where
  /-- The state of the ports. -/
  ports : σ
  /-- The milliseconds since the run began. -/
  now : Nat := 0
  /-- The handles of the launched services, in the order of launching. -/
  handles : List Handle := []
  /-- The calls of the ports so far. -/
  calls : List Event := []

namespace World

variable (w : World σ)

/-- How far a run has come. -/
def standing : Standing σ where
  ports := w.ports
  now := w.now
  handles := w.live
  calls := Trace.calls w.events

theorem standing_tell (n : Notice) :
  (w.tell n).standing = w.standing
  := by
  rw [standing, events_tell, Trace.calls_append, Trace.calls_noticed, List.append_nil]
  rfl

theorem standing_record {e : Event} (he : e.isCall = true) :
  (w.record e).standing = { w.standing with calls := w.standing.calls ++ [e] }
  := by
  have hcalls : Trace.calls [e] = [e] := by simp [Trace.calls, he]
  rw [standing, events_record, Trace.calls_append, hcalls]
  rfl

theorem standing_launch (s : String) (i : Invocation) (reply : Reply σ Handle) :
  (w.launch s i reply).standing = { w.standing with
    ports := reply.state
    handles := w.standing.handles ++ reply.result.toOption.toList
    calls := w.standing.calls ++ [.launched s i reply.result] }
  := by
  rw [standing, events_launch, Trace.calls_append]
  rfl

theorem standing_interrupt (h : Handle) (reply : Reply σ SignalOutcome) :
  (w.interrupt h reply).standing = { w.standing with
    ports := reply.state
    handles := w.live.tail
    calls := w.standing.calls ++ [.interrupted h reply.result] }
  := by
  rw [standing, events_interrupt, Trace.calls_append]
  rfl

@[simp]
theorem standing_trip :
  w.trip.standing = w.standing
  := by
  have hcalls : Trace.calls w.trip.events = Trace.calls w.events := by
    rw [← Trace.calls_deeds, ← Trace.calls_deeds w.events]
    exact congrArg Trace.calls w.deeds_trip
  rw [standing, standing, ports_trip, now_trip, live_trip, hcalls]

@[simp]
theorem standing_raiseIf (b : Bool) (c : Controls) :
  (w.raiseIf b c).standing = w.standing
  := of_raiseIf standing_trip b c w

end World

namespace Session

/-- The session changes neither the standing nor the signal, and is not cut short. -/
def Silent (m : Session σ α) : Prop :=
  ∀ w, Ends m w (fun _ w' => w'.standing = w.standing ∧ w'.raised = w.raised) (fun _ _ => False)

theorem silent_tell (n : Notice) :
  Silent (σ := σ) (tell n)
  := fun w => ⟨w.standing_tell n, rfl⟩

theorem silent_enter (p : Phase) :
  Silent (σ := σ) (enter p)
  := by
  intro w
  have hrecord : ∀ w' : World σ,
      (World.record { w' with phase := some p } (.entered p)).standing = w'.standing := by
    intro w'
    have hcalls : Trace.calls [.entered p] = [] := rfl
    rw [World.standing, World.events_record, Trace.calls_append, hcalls, List.append_nil]
    rfl
  rw [enter, ends_bind, ends_get]
  split
  · split
    · exact ⟨(hrecord _).trans (w.standing_tell _), rfl⟩
    · exact ⟨hrecord w, rfl⟩
  · exact ⟨hrecord w, rfl⟩

/-- The session begins a call: its first event is recorded, and the activity is that of the ports as
they stand. -/
def Begins (begin : Session σ (Activity σ α)) (begun : Event)
    (activity : σ → Nat → Activity σ α) : Prop :=
  ∀ w, Ends begin w (fun x w' => x = activity w.ports w.now ∧ w'.raised = w.raised
      ∧ w'.standing = { w.standing with calls := w.standing.calls ++ [begun] })
    (fun _ _ => False)

end Session

end ServiceHarness
