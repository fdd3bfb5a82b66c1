import Mathlib.Data.List.Basic
import ServiceHarness.Session.Basic

/-!
# Traces

What a list of events tells: `Trace.calls` are the calls of the ports, `Trace.launched` the
handles that launches gave, `Trace.interrupted` those that were interrupted, and
`Trace.deeds` is everything but the raising of the stop signal, which may fall anywhere.
A deed, or a call, stands at one place of the trace (`Trace.split_filter`), and what is read off
the deeds is read off the trace.  The lemmas on worlds say what each way of changing a world adds.
-/

namespace ServiceHarness

/-! ### Kinds of events -/

namespace Event

/-- Whether the event is the raising of the stop signal. -/
def isRaise : Event → Bool
  | .raised _ => true
  | _ => false

/-- Whether a call begins with the event: of the executor, of the probe, or a launch. -/
def begins : Event → Bool
  | .executing _ => true
  | .launched .. => true
  | .probing _ => true
  | _ => false

/-- Whether the event is a part of a call of a port. -/
def isCall : Event → Bool
  | .executing _ => true
  | .executed _ => true
  | .launched .. => true
  | .probing _ => true
  | .probed _ => true
  | .interrupted .. => true
  | _ => false

/-- The handle that a launch gives, if it does. -/
def launched? : Event → Option Handle
  | .launched _ _ (.ok h) => some h
  | _ => none

/-- The handle that is interrupted, if one is. -/
def interrupted? : Event → Option Handle
  | .interrupted h _ => some h
  | _ => none

/-- The URL whose probe begins, if one does. -/
def probing? : Event → Option String
  | .probing url => some url
  | _ => none

end Event

/-! ### What events tell -/

namespace Trace

/-- The calls of the ports. -/
def calls (es : List Event) : List Event :=
  es.filter Event.isCall

/-- The handles that launches gave. -/
def launched (es : List Event) : List Handle :=
  es.filterMap Event.launched?

/-- The handles that were interrupted. -/
def interrupted (es : List Event) : List Handle :=
  es.filterMap Event.interrupted?

/-- The URLs that were probed. -/
def probes (es : List Event) : List String :=
  es.filterMap Event.probing?

/-- The phases that were entered. -/
def phases (es : List Event) : List Phase :=
  es.filterMap Event.phase?

/-- Everything but the raising of the stop signal. -/
def deeds (es : List Event) : List Event :=
  es.filter fun e => !e.isRaise

variable (es es' : List Event) (e : Event)

@[simp]
theorem calls_append :
  calls (es ++ es') = calls es ++ calls es'
  := List.filter_append es es'

@[simp]
theorem launched_append :
  launched (es ++ es') = launched es ++ launched es'
  := List.filterMap_append

@[simp]
theorem interrupted_append :
  interrupted (es ++ es') = interrupted es ++ interrupted es'
  := List.filterMap_append

@[simp]
theorem probes_append :
  probes (es ++ es') = probes es ++ probes es'
  := List.filterMap_append

@[simp]
theorem phases_append :
  phases (es ++ es') = phases es ++ phases es'
  := List.filterMap_append

@[simp]
theorem deeds_append :
  deeds (es ++ es') = deeds es ++ deeds es'
  := List.filter_append es es'

@[simp]
theorem calls_noticed (n : Notice) :
  calls [.noticed n] = []
  := rfl

@[simp]
theorem phases_noticed (n : Notice) :
  phases [.noticed n] = []
  := rfl

theorem launched_launched (s : String) (i : Invocation) (r : Except ProcessFault Handle) :
  launched [.launched s i r] = r.toOption.toList
  := by
  cases r with
  | ok h => rfl
  | error fault => rfl

theorem interrupted_launched (s : String) (i : Invocation) (r : Except ProcessFault Handle) :
  interrupted [.launched s i r] = []
  := rfl

/-- What is read off some of the events, being nothing for the others, is read off all. -/
theorem filterMap_filter {α : Type} {p : Event → Bool} {f : Event → Option α}
    (h : ∀ e, p e = false → f e = none) :
  (es.filter p).filterMap f = es.filterMap f
  := by
  rw [List.filterMap_filter]
  congr 1
  funext e
  cases hp : p e with
  | true => rfl
  | false => exact (h e hp).symm

/-- What is not read off the raising of the signal is read off the deeds. -/
theorem filterMap_deeds {α : Type} {f : Event → Option α} (hraised : ∀ t, f (.raised t) = none) :
  (deeds es).filterMap f = es.filterMap f
  := by
  apply filterMap_filter
  intro e h
  cases e with
  | raised t => apply hraised
  | _ => cases h

theorem phases_deeds :
  phases (deeds es) = phases es
  := filterMap_deeds es fun _ => rfl

theorem launched_deeds :
  launched (deeds es) = launched es
  := filterMap_deeds es fun _ => rfl

theorem probes_deeds :
  probes (deeds es) = probes es
  := filterMap_deeds es fun _ => rfl

theorem interrupted_deeds :
  interrupted (deeds es) = interrupted es
  := filterMap_deeds es fun _ => rfl

/-- What is launched and interrupted is read off the calls. -/
theorem launched_calls :
  launched (calls es) = launched es
  := by
  apply filterMap_filter
  intro e h
  cases e <;> first | rfl | cases h

theorem interrupted_calls :
  interrupted (calls es) = interrupted es
  := by
  apply filterMap_filter
  intro e h
  cases e <;> first | rfl | cases h

theorem calls_deeds :
  calls (deeds es) = calls es
  := by
  rw [calls, deeds, List.filter_filter]
  congr 1
  funext e
  cases e <;> rfl

variable {es}

/-- An event among some of the events has its place among all of them: of these, what stands
before it stands before it there, and what stands after it after it. -/
theorem split_filter {p : Event → Bool} {pre post : List Event} {e : Event}
    (h : es.filter p = pre ++ e :: post) :
  ∃ before after, es = before ++ e :: after ∧ before.filter p = pre ∧ after.filter p = post
  := by
  obtain ⟨before, rest, rfl, rfl, hrest⟩ := List.filter_eq_append_iff.mp h
  obtain ⟨others, after, rfl, hothers, -, rfl⟩ := List.filter_eq_cons_iff.mp hrest
  use before ++ others, after
  constructor
  · rw [List.append_assoc]
  · constructor
    · rw [List.filter_append, List.filter_eq_nil_iff.mpr hothers, List.append_nil]
    · rfl

/-- An event in a trace that is one longer is the last one or stands in the shorter one. -/
theorem split_concat {e e' : Event} {pre post : List Event}
    (h : es ++ [e'] = pre ++ e :: post) :
  (es = pre ∧ e' = e ∧ post = []) ∨ ∃ mid, es = pre ++ e :: mid ∧ post = mid ++ [e']
  := by
  obtain rfl | ⟨mid, last, rfl⟩ := List.eq_nil_or_concat' post
  · left
    obtain ⟨hpre, hlast⟩ := List.append_inj' h rfl
    use hpre, List.cons.inj hlast |>.1
  · right
    use mid
    rw [← List.cons_append, ← List.append_assoc] at h
    obtain ⟨hpre, hlast⟩ := List.append_inj' h rfl
    constructor
    · apply hpre
    · rw [hlast]

end Trace

/-! ### What is added to the trace of a world -/

namespace World

variable {σ : Type} (w : World σ)

@[simp]
theorem events_record (e : Event) :
  (w.record e).events = w.events ++ [e]
  := Array.toList_push

@[simp]
theorem events_tell (n : Notice) :
  (w.tell n).events = w.events ++ [.noticed n]
  := w.events_record _

@[simp]
theorem events_launch (s : String) (i : Invocation) (reply : Reply σ Handle) :
  (w.launch s i reply).events = w.events ++ [.launched s i reply.result]
  := w.events_record _

@[simp]
theorem events_interrupt (h : Handle) (reply : Reply σ SignalOutcome) :
  (w.interrupt h reply).events = w.events ++ [.interrupted h reply.result]
  := w.events_record _

/-- What has been done so far, apart from the raising of the stop signal. -/
def deeds : List Event :=
  Trace.deeds w.events

/-- The URLs probed so far. -/
def probes : List String :=
  Trace.probes w.events

@[simp]
theorem probes_record (e : Event) :
  (w.record e).probes = w.probes ++ Trace.probes [e]
  := by
  rw [probes, events_record, Trace.probes_append]
  rfl

/-- What is probed is among what is done. -/
theorem probes_of_deeds {w w' : World σ} {ds : List Event} (h : w'.deeds = w.deeds ++ ds) :
  w'.probes = w.probes ++ Trace.probes ds
  := by
  rw [probes, probes, ← Trace.probes_deeds, ← Trace.probes_deeds w.events, ← Trace.probes_append]
  exact congrArg Trace.probes h

/-- What is called is among what is done. -/
theorem calls_of_deeds {w w' : World σ} {ds : List Event} (h : w'.deeds = w.deeds ++ ds) :
  Trace.calls w'.events = Trace.calls w.events ++ Trace.calls ds
  := by
  rw [← Trace.calls_deeds, ← Trace.calls_deeds w.events, ← Trace.calls_append]
  exact congrArg Trace.calls h

@[simp]
theorem raised_trip :
  w.trip.raised = true
  := by
  rw [trip]
  split
  · assumption
  · rfl

theorem trip_of_raised (h : w.raised = true) :
  w.trip = w
  := if_pos h

theorem trip_of_not_raised (h : w.raised = false) :
  w.trip = { w.record (.raised w.now) with raised := true }
  := by
  rw [trip, h]
  rfl

@[simp]
theorem ports_trip :
  w.trip.ports = w.ports
  := by
  rw [trip]
  split <;> rfl

@[simp]
theorem now_trip :
  w.trip.now = w.now
  := by
  rw [trip]
  split <;> rfl

@[simp]
theorem live_trip :
  w.trip.live = w.live
  := by
  rw [trip]
  split <;> rfl

@[simp]
theorem deeds_trip :
  w.trip.deeds = w.deeds
  := by
  cases h : w.raised with
  | true => rw [w.trip_of_raised h]
  | false =>
    rw [w.trip_of_not_raised h]
    change Trace.deeds (w.record (.raised w.now)).events = _
    rw [events_record, Trace.deeds_append]
    apply List.append_nil

@[simp]
theorem probes_trip :
  w.trip.probes = w.probes
  := by
  have hnothing : w.trip.deeds = w.deeds ++ [] := by
    rw [deeds_trip, List.append_nil]
  rw [probes_of_deeds hnothing]
  apply List.append_nil

theorem deeds_record {e : Event} (he : e.isRaise = false) :
  (w.record e).deeds = w.deeds ++ [e]
  := by
  rw [deeds, events_record, Trace.deeds_append, Trace.deeds, Trace.deeds, List.filter_singleton, he]
  rfl

theorem deeds_tell (n : Notice) :
  (w.tell n).deeds = w.deeds ++ [.noticed n]
  := w.deeds_record rfl

theorem deeds_launch (s : String) (i : Invocation) (reply : Reply σ Handle) :
  (w.launch s i reply).deeds = w.deeds ++ [.launched s i reply.result]
  := w.deeds_record rfl

theorem deeds_interrupt (h : Handle) (reply : Reply σ SignalOutcome) :
  (w.interrupt h reply).deeds = w.deeds ++ [.interrupted h reply.result]
  := w.deeds_record rfl

end World

end ServiceHarness
