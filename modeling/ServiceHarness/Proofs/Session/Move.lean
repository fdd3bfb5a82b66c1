import Mathlib.Logic.Relation
import ServiceHarness.Proofs.Session.Ends
import ServiceHarness.Proofs.Session.Trace

/-!
# Moves

A `Move` is one thing that may happen to the world of a run: the log is told something, time
passes, a port is called, the stop signal is raised.  Calls of the executor, the launcher and
the probe begin, and time passes, only while the signal is not raised.  A world is `Orderly`
if the handles are accounted for, nothing has begun and no time has passed since the signal
was raised, and nothing is late; every move keeps it so, and hence every number of them.
-/

namespace ServiceHarness

variable {σ : Type} {c : Controls} {w w' w'' : World σ}

/-- One thing that may happen to the world of a run under the given controls. -/
inductive Move (c : Controls) : World σ → World σ → Prop where
  /-- The log is told something. -/
  | tells (w : World σ) (n : Notice) : Move c w (w.tell n)
  /-- A phase is entered. -/
  | enters (w : World σ) (p : Phase) :
    Move c w (World.record { w with phase := some p } (.entered p))
  /-- The ports come into another state. -/
  | settles (w : World σ) (s : σ) : Move c w { w with ports := s }
  /-- A command begins. -/
  | executing (w : World σ) (i : Invocation) (h : w.raised = false) :
    Move c w (w.record (.executing i))
  /-- A command has come to its end. -/
  | executed (w : World σ) (r : Except ProcessFault Completion) :
    Move c w (w.record (.executed r))
  /-- A service is launched. -/
  | launches (w : World σ) (s : String) (i : Invocation) (reply : Reply σ Handle)
      (h : w.raised = false) :
    Move c w (w.launch s i reply)
  /-- A probe begins. -/
  | probing (w : World σ) (url : String) (h : w.raised = false) :
    Move c w (w.record (.probing url))
  /-- A probe has come to its end. -/
  | probed (w : World σ) (r : Except ProbeFault Unit) : Move c w (w.record (.probed r))
  /-- The service that was launched first is interrupted. -/
  | interrupts (w : World σ) (h : Handle) (rest : List Handle)
      (reply : Reply σ SignalOutcome) (hlive : w.live = h :: rest) :
    Move c w (w.interrupt h reply)
  /-- Time passes, but not beyond the instant at which the signal is raised from outside or
  the caller drops the run. -/
  | passes (w : World σ) (t : Nat) (h : w.raised = false) (hle : w.now ≤ t)
      (hdrop : t ≤ max w.now c.dropAt)
      (hraise : ∀ u, c.sender = .raises u → u ≤ c.dropAt → w.now ≤ u → t ≤ u) :
    Move c w { w with now := t }
  /-- The stop signal is raised. -/
  | raises (w : World σ) : Move c w w.trip

/-- Any number of moves. -/
abbrev Moves (c : Controls) : World σ → World σ → Prop :=
  Relation.ReflTransGen (Move c)

/-! ### What a move keeps -/

namespace World

/-- Every handle that a launch gave has been interrupted or is live, in the order of
launching. -/
def Accounted (w : World σ) : Prop :=
  Trace.launched w.events = Trace.interrupted w.events ++ w.live

/-- If the signal has been raised, that is known, no time has passed since, and nothing has
begun. -/
def Quiet (w : World σ) : Prop :=
  ∀ pre t post, w.events = pre ++ .raised t :: post →
    w.raised = true ∧ w.now = t ∧ ∀ e ∈ post, e.begins = false

/-- It is no later than the caller drops the run, nor than the signal is raised from outside
if that comes first. -/
def Punctual (c : Controls) (w : World σ) : Prop :=
  w.now ≤ c.dropAt ∧ ∀ t, c.sender = .raises t → t ≤ c.dropAt → w.now ≤ t

/-- The phase is the one that was entered last. -/
def Current (w : World σ) : Prop :=
  w.phase = (Trace.phases w.events).getLast?

/-- What holds of the world of a run at every moment. -/
structure Orderly (c : Controls) (w : World σ) : Prop where
  /-- The handles are accounted for. -/
  accounted : w.Accounted
  /-- Nothing goes on after the stop signal. -/
  quiet : w.Quiet
  /-- Nothing is late. -/
  punctual : w.Punctual c
  /-- The phase is known. -/
  current : w.Current

/-- The account may be read off the deeds. -/
theorem Accounted.deeds (h : w.Accounted) :
  Trace.launched w.deeds = Trace.interrupted w.deeds ++ w.live
  := by
  rw [World.deeds, Trace.launched_deeds, Trace.interrupted_deeds]
  exact h

/-- Without a handle that is given or let go the account does not change. -/
theorem Accounted.append {e : Event} (h : w.Accounted) (hevents : w'.events = w.events ++ [e])
    (hlive : w'.live = w.live) (hl : e.launched? = none) (hi : e.interrupted? = none) :
  w'.Accounted
  := by
  rw [Accounted, Trace.launched, Trace.interrupted] at h ⊢
  rw [hevents, hlive, List.filterMap_append, List.filterMap_append,
    List.filterMap_cons_none hl, List.filterMap_cons_none hi]
  simpa using h

theorem Accounted.launch (h : w.Accounted) (s : String) (i : Invocation)
    (reply : Reply σ Handle) :
  (w.launch s i reply).Accounted
  := by
  rw [Accounted] at h ⊢
  rw [events_launch, Trace.launched_append, Trace.interrupted_append, h,
    Trace.launched_launched, Trace.interrupted_launched, List.append_nil, List.append_assoc]
  rfl

theorem Accounted.interrupt {first : Handle} {rest : List Handle} (h : w.Accounted)
    (hlive : w.live = first :: rest) (reply : Reply σ SignalOutcome) :
  (w.interrupt first reply).Accounted
  := by
  rw [Accounted] at h ⊢
  rw [events_interrupt, Trace.launched_append, Trace.interrupted_append, h, hlive]
  change _ ++ [] = (_ ++ [first]) ++ w.live.tail
  rw [hlive, List.append_nil, List.append_assoc]
  rfl

/-- An event that is not the raising of the signal, and with which nothing begins once it is
raised, leaves everything quiet. -/
theorem Quiet.append {e : Event} (h : w.Quiet) (hevents : w'.events = w.events ++ [e])
    (hraised : w'.raised = w.raised) (hnow : w'.now = w.now) (he : e.isRaise = false)
    (hbegins : w.raised = true → e.begins = false) :
  w'.Quiet
  := by
  intro pre t post hsplit
  rw [hevents] at hsplit
  obtain ⟨-, rfl, -⟩ | ⟨mid, hmid, rfl⟩ := Trace.split_concat hsplit
  · cases he
  · obtain ⟨hr, ht, hb⟩ := h pre t mid hmid
    rw [hraised, hnow]
    use hr, ht
    intro e' he'
    obtain he' | he' := List.mem_append.mp he'
    · apply hb e' he'
    · rw [List.mem_singleton.mp he']
      apply hbegins hr

/-- While the signal is not raised there is nothing to be quiet about. -/
theorem Quiet.not_mem (h : w.Quiet) (hr : w.raised = false) (t : Nat) :
  .raised t ∉ w.events
  := by
  intro ht
  obtain ⟨pre, post, hsplit⟩ := List.append_of_mem ht
  rw [(h pre t post hsplit).1] at hr
  cases hr

/-- What begins in a quiet world begins before the signal is raised. -/
theorem Quiet.begins_before {pre post before after : List Event} {t : Nat} {e : Event}
    (h : w.Quiet) (hraise : w.events = pre ++ .raised t :: post)
    (hbegin : w.events = before ++ e :: after) (he : e.begins = true) :
  ∃ mid, pre = before ++ e :: mid
  := by
  obtain ⟨-, -, hpost⟩ := h pre t post hraise
  rw [hraise] at hbegin
  obtain ⟨mid, rfl, hmid⟩ | ⟨mid, rfl, hmid⟩ := List.append_eq_append_iff.mp hbegin
  · -- the event would come after the signal, or be its raising
    cases mid with
    | nil =>
      cases hmid
      cases he
    | cons _ mid =>
      obtain ⟨-, rfl⟩ := List.cons.inj hmid
      rw [hpost e (by simp)] at he
      cases he
  · cases mid with
    | nil =>
      cases hmid
      cases he
    | cons _ mid =>
      obtain ⟨rfl, -⟩ := List.cons.inj hmid
      exact ⟨mid, rfl⟩

theorem Quiet.trip (h : w.Quiet) :
  w.trip.Quiet
  := by
  cases hr : w.raised with
  | true =>
    rw [w.trip_of_raised hr]
    apply h
  | false =>
    rw [w.trip_of_not_raised hr]
    intro pre t post hsplit
    change (w.record (.raised w.now)).events = _ at hsplit
    rw [events_record] at hsplit
    obtain ⟨-, ht, rfl⟩ | ⟨mid, hmid, -⟩ := Trace.split_concat hsplit
    · cases ht
      use rfl, rfl
      intro e he
      cases he
    · exfalso
      apply h.not_mem hr t
      rw [hmid]
      simp

/-- Nothing is late in a world in which no time has passed. -/
theorem Punctual.of_now_eq (h : w.Punctual c) (hnow : w'.now = w.now) :
  w'.Punctual c
  := by
  rw [Punctual, hnow]
  apply h

theorem Accounted.trip (h : w.Accounted) :
  w.trip.Accounted
  := by
  cases hr : w.raised with
  | true =>
    rw [w.trip_of_raised hr]
    apply h
  | false =>
    rw [w.trip_of_not_raised hr]
    apply h.append (w.events_record (.raised w.now)) rfl rfl rfl

/-- The phase stays known while none is entered. -/
theorem Current.append {e : Event} (h : w.Current) (hevents : w'.events = w.events ++ [e])
    (hphase : w'.phase = w.phase) (he : e.phase? = none) :
  w'.Current
  := by
  rw [Current, Trace.phases] at h ⊢
  rw [hevents, hphase, List.filterMap_append, List.filterMap_cons_none he, h]
  simp

theorem Current.trip (h : w.Current) :
  w.trip.Current
  := by
  cases hr : w.raised with
  | true =>
    rw [w.trip_of_raised hr]
    apply h
  | false =>
    rw [w.trip_of_not_raised hr]
    apply h.append (w.events_record (.raised w.now)) rfl rfl

/-- Entering a phase makes it known. -/
theorem current_enter (w : World σ) (p : Phase) :
  (World.record { w with phase := some p } (.entered p)).Current
  := by
  rw [Current, events_record, Trace.phases_append]
  symm
  apply List.getLast?_concat

end World

namespace Move

open World

theorem accounted (h : Move c w w') (hw : w.Accounted) :
  w'.Accounted
  := by
  cases h with
  | tells n => apply hw.append (w.events_tell n) rfl rfl rfl
  | enters p => apply hw.append (events_record _ (.entered p)) rfl rfl rfl
  | settles s => apply hw
  | executing i _ => apply hw.append (w.events_record _) rfl rfl rfl
  | executed r => apply hw.append (w.events_record _) rfl rfl rfl
  | launches s i reply _ => apply hw.launch
  | probing url _ => apply hw.append (w.events_record _) rfl rfl rfl
  | probed r => apply hw.append (w.events_record _) rfl rfl rfl
  | interrupts first rest reply hlive => apply hw.interrupt hlive
  | passes t _ _ _ _ => apply hw
  | raises => apply hw.trip

theorem quiet (h : Move c w w') (hw : w.Quiet) :
  w'.Quiet
  := by
  cases h with
  | tells n => apply hw.append (w.events_tell n) rfl rfl rfl (fun _ => rfl)
  | enters p => apply hw.append (events_record _ (.entered p)) rfl rfl rfl (fun _ => rfl)
  | settles s => apply hw
  | executing i hr => apply hw.append (w.events_record _) rfl rfl rfl (by simp [hr])
  | executed r => apply hw.append (w.events_record _) rfl rfl rfl (fun _ => rfl)
  | launches s i reply hr => apply hw.append (w.events_launch s i reply) rfl rfl rfl (by simp [hr])
  | probing url hr => apply hw.append (w.events_record _) rfl rfl rfl (by simp [hr])
  | probed r => apply hw.append (w.events_record _) rfl rfl rfl (fun _ => rfl)
  | interrupts first rest reply _ =>
    apply hw.append (w.events_interrupt first reply) rfl rfl rfl (fun _ => rfl)
  | passes t hr _ _ _ =>
    intro pre u post hsplit
    rw [(hw pre u post hsplit).1] at hr
    cases hr
  | raises => apply hw.trip

theorem punctual (h : Move c w w') (hw : w.Punctual c) :
  w'.Punctual c
  := by
  cases h with
  | passes t _ hle hdrop hraise =>
    constructor
    · rw [Nat.max_eq_right hw.1] at hdrop
      apply hdrop
    · intro u hu hd
      apply hraise u hu hd (hw.2 u hu hd)
  | raises => apply hw.of_now_eq w.now_trip
  | _ => apply hw.of_now_eq rfl

theorem current (h : Move c w w') (hw : w.Current) :
  w'.Current
  := by
  cases h with
  | tells n => apply hw.append (w.events_tell n) rfl rfl
  | enters p => apply current_enter
  | settles s => apply hw
  | executing i _ => apply hw.append (w.events_record _) rfl rfl
  | executed r => apply hw.append (w.events_record _) rfl rfl
  | launches s i reply _ => apply hw.append (w.events_launch s i reply) rfl rfl
  | probing url _ => apply hw.append (w.events_record _) rfl rfl
  | probed r => apply hw.append (w.events_record _) rfl rfl
  | interrupts first rest reply _ => apply hw.append (w.events_interrupt first reply) rfl rfl
  | passes t _ _ _ _ => apply hw
  | raises => apply hw.trip

/-- One move keeps an orderly world orderly. -/
theorem orderly (h : Move c w w') (hw : w.Orderly c) :
  w'.Orderly c
  := ⟨h.accounted hw.accounted, h.quiet hw.quiet, h.punctual hw.punctual, h.current hw.current⟩

/-- No move lowers the signal. -/
theorem raised (h : Move c w w') (hr : w.raised = true) :
  w'.raised = true
  := by
  cases h with
  | raises => apply w.raised_trip
  | _ => exact hr

end Move

/-- Any number of moves keep an orderly world orderly. -/
theorem Moves.orderly (h : Moves c w w') (hw : w.Orderly c) :
  w'.Orderly c
  := by
  induction h with
  | refl => apply hw
  | tail _ hmove ih => apply hmove.orderly ih

/-- Any number of moves leave a raised signal raised. -/
theorem Moves.raised (h : Moves c w w') (hr : w.raised = true) :
  w'.raised = true
  := by
  induction h with
  | refl => apply hr
  | tail _ hmove ih => apply hmove.raised ih

/-- Nothing that has happened is taken back. -/
theorem Move.events_grow (h : Move c w w') :
  w.events <+: w'.events
  := by
  cases h with
  | tells n => exact ⟨_, (w.events_tell n).symm⟩
  | enters p => exact ⟨_, (World.events_record _ _).symm⟩
  | settles s => apply List.prefix_rfl
  | executing i _ => exact ⟨_, (w.events_record _).symm⟩
  | executed r => exact ⟨_, (w.events_record _).symm⟩
  | launches s i reply _ => exact ⟨_, (w.events_launch s i reply).symm⟩
  | probing url _ => exact ⟨_, (w.events_record _).symm⟩
  | probed r => exact ⟨_, (w.events_record _).symm⟩
  | interrupts first rest reply _ => exact ⟨_, (w.events_interrupt first reply).symm⟩
  | passes t _ _ _ _ => apply List.prefix_rfl
  | raises =>
    cases hr : w.raised with
    | true => exact ⟨[], by rw [w.trip_of_raised hr, List.append_nil]⟩
    | false =>
      rw [w.trip_of_not_raised hr]
      exact ⟨_, (w.events_record _).symm⟩

theorem Moves.events_grow (h : Moves c w w') :
  w.events <+: w'.events
  := by
  induction h with
  | refl => apply List.prefix_rfl
  | tail _ hmove ih => apply ih.trans hmove.events_grow

/-- Time does not go back. -/
theorem Move.now_le (h : Move c w w') :
  w.now ≤ w'.now
  := by
  cases h with
  | passes t _ hle _ _ => apply hle
  | raises => apply Nat.le_of_eq (World.now_trip _).symm
  | _ => apply Nat.le_refl

theorem Moves.now_le (h : Moves c w w') :
  w.now ≤ w'.now
  := by
  induction h with
  | refl => apply Nat.le_refl
  | tail _ hmove ih => apply Nat.le_trans ih hmove.now_le

/-- Time does not go on beyond the instant at which the caller drops the run. -/
theorem Moves.now_le_max (h : Moves c w w') :
  w'.now ≤ max w.now c.dropAt
  := by
  induction h with
  | refl => apply Nat.le_max_left
  | tail _ hmove ih =>
    cases hmove with
    | passes t _ _ hdrop _ =>
      dsimp only
      omega
    | raises =>
      rw [World.now_trip]
      exact ih
    | _ => exact ih

/-- Where moves interrupt nothing, what they launch is live after them. -/
theorem Moves.live {ds : List Event} (h : Moves c w w') (hw : w.Orderly c)
    (hds : w'.deeds = w.deeds ++ ds) (hnone : Trace.interrupted ds = []) :
  w'.live = w.live ++ Trace.launched ds
  := by
  have hbefore := hw.accounted.deeds
  have hafter := (h.orderly hw).accounted.deeds
  rw [hds, Trace.launched_append, Trace.interrupted_append, hnone, hbefore, List.append_nil,
    List.append_assoc] at hafter
  exact (List.append_cancel_left hafter).symm

/-- If the signal is raised, that is an event. -/
theorem Move.raised_mem (h : Move c w w') (hw : w.raised = true → ∃ t, .raised t ∈ w.events)
    (hr : w'.raised = true) :
  ∃ t, .raised t ∈ w'.events
  := by
  cases hraised : w.raised with
  | true =>
    obtain ⟨t, ht⟩ := hw hraised
    use t
    apply h.events_grow.subset ht
  | false =>
    cases h with
    | raises =>
      use w.now
      rw [w.trip_of_not_raised hraised]
      change .raised w.now ∈ (w.record (.raised w.now)).events
      rw [w.events_record]
      apply List.mem_append_right _ (List.mem_singleton_self _)
    | _ =>
      change w.raised = true at hr
      rw [hraised] at hr
      cases hr

/-- If the signal is raised in a run, that is an event. -/
theorem Moves.raised_mem {s : σ} (h : Moves c (World.initial c s) w) (hr : w.raised = true) :
  ∃ t, .raised t ∈ w.events
  := by
  induction h with
  | refl =>
    rw [World.initial] at hr ⊢
    split at hr
    case isTrue hsender =>
      rw [if_pos hsender]
      apply Move.raised_mem (c := c) (.raises _) _ hr
      rintro ⟨⟩
    case isFalse => cases hr
  | tail _ hmove ih => apply hmove.raised_mem ih hr

/-- The world in which nothing has happened yet is orderly. -/
theorem World.orderly_fresh (c : Controls) (s : σ) :
  (World.fresh s).Orderly c
  := by
  constructor
  · rfl
  · intro pre t post hsplit
    cases pre <;> cases hsplit
  · constructor
    · apply Nat.zero_le
    · intro t _ _
      apply Nat.zero_le
  · rfl

/-- A run begins in an orderly world. -/
theorem World.orderly_initial (c : Controls) (s : σ) :
  (World.initial c s).Orderly c
  := by
  rw [World.initial]
  split
  · apply Move.orderly (.raises _) (World.orderly_fresh c s)
  · apply World.orderly_fresh

end ServiceHarness
