import ServiceHarness.Proofs.Run.Drive
import ServiceHarness.Proofs.Run.Teardown

/-!
# What the log is told of what is done

`chronicle` makes a trace of what a run has done, each thing with all that the log is told of it
right before and right after.  What the log is told depends on the plan, on what was done earlier
(how many commands were executed, how many probes were made, which phase was entered last) and, at
the end of a run, on its verdict.

A trace `Tells` of a run if the chronicle of what is done in it is the trace itself.  Traces that
follow one another tell if each of them does (`Tells.append`), and a single thing that is done tells
with what the log is told of it (`tells_recount`).
-/

namespace ServiceHarness

/-! ### What is done -/

namespace Event

/-- Whether something is done that is neither telling the log nor raising the stop signal. -/
def isDoing : Event → Bool
  | .noticed _ => false
  | .raised _ => false
  | _ => true

/-- The command whose execution begins, if one does. -/
def executing? : Event → Option Invocation
  | .executing i => some i
  | _ => none

/-- What the log is told of the end of a run, if anything. -/
def ending? : Event → Option Notice
  | .noticed (.runFailed fault) => some (.runFailed fault)
  | .noticed (.passed services attempts) => some (.passed services attempts)
  | .noticed (.abandoned live) => some (.abandoned live)
  | _ => none

end Event

namespace Trace

/-- What is done, leaving out what the log is told. -/
def doings (es : List Event) : List Event :=
  es.filter Event.isDoing

/-- The commands that were executed. -/
def executions (es : List Event) : List Invocation :=
  es.filterMap Event.executing?

/-- What the log was told of the end of a run. -/
def endings (es : List Event) : List Notice :=
  es.filterMap Event.ending?

variable (es es' : List Event)

@[simp]
theorem doings_append :
  doings (es ++ es') = doings es ++ doings es'
  := List.filter_append es es'

@[simp]
theorem executions_append :
  executions (es ++ es') = executions es ++ executions es'
  := List.filterMap_append

@[simp]
theorem endings_append :
  endings (es ++ es') = endings es ++ endings es'
  := List.filterMap_append

theorem doings_deeds :
  doings (deeds es) = doings es
  := by
  rw [doings, deeds, List.filter_filter]
  congr 1
  funext e
  cases e <;> rfl

theorem executions_deeds :
  executions (deeds es) = executions es
  := filterMap_deeds es fun _ => rfl

theorem endings_deeds :
  endings (deeds es) = endings es
  := filterMap_deeds es fun _ => rfl

@[simp]
theorem doings_notices (notices : List Notice) :
  doings (notices.map .noticed) = []
  := by
  simp [doings, Event.isDoing]

/-- What is read off neither the notices nor the signal is read off what is done. -/
theorem filterMap_doings {α : Type} {f : Event → Option α}
    (hnoticed : ∀ n, f (.noticed n) = none) (hraised : ∀ t, f (.raised t) = none) :
  (doings es).filterMap f = es.filterMap f
  := by
  apply filterMap_filter
  intro e h
  cases e with
  | noticed n => apply hnoticed
  | raised t => apply hraised
  | _ => cases h

theorem phases_doings :
  phases (doings es) = phases es
  := filterMap_doings es (fun _ => rfl) (fun _ => rfl)

theorem executions_doings :
  executions (doings es) = executions es
  := filterMap_doings es (fun _ => rfl) (fun _ => rfl)

theorem probes_doings :
  probes (doings es) = probes es
  := filterMap_doings es (fun _ => rfl) (fun _ => rfl)

theorem launched_doings :
  launched (doings es) = launched es
  := filterMap_doings es (fun _ => rfl) (fun _ => rfl)

theorem interrupted_doings :
  interrupted (doings es) = interrupted es
  := filterMap_doings es (fun _ => rfl) (fun _ => rfl)

end Trace

namespace Run

/-! ### What the log is told -/

/-- The commands of a run of the plan in which everything succeeds, in order, each with what the log
is told of it. -/
def commands (plan : Plan) : List (Notice × Invocation) :=
  plan.services.map (fun service => (.compiling service.name, plan.buildInvocation service))
    ++ (if plan.workspaceTests then [(.testing .workspaceTests, plan.workspaceTestInvocation)]
      else [])
    ++ [(.testing .integrationTests, plan.integrationTestInvocation)]

/-- What the log is told right before a phase is entered: before the wait for the instance, that
the workspace is not tested, if it is not. -/
def beforePhase (plan : Plan) : Phase → List Notice
  | .waitingReady => if plan.workspaceTests then [] else [.skippingWorkspace]
  | _ => []

/-- What the log is told right after a phase is entered: that the instance is awaited, that the run
failed, or that it passed. -/
def afterPhase (plan : Plan) (verdict : Verdict) : Phase → List Notice
  | .waitingReady => [.awaiting plan.url]
  | .failed => match verdict with
    | .failed fault => [.runFailed fault]
    | _ => []
  | .done => match verdict with
    | .passed summary => [.passed summary.services.length summary.attempts]
    | _ => []
  | _ => []

/-- What the log is told before the first interrupt of a run that is cut short: how many services
are given up. -/
def givingUp (verdict : Verdict) (earlier : List Event) : List Notice :=
  match verdict with
  | .cut _ =>
    if Trace.interrupted earlier = [] then [.abandoned (Trace.launched earlier).length] else []
  | _ => []

/-- What the log is told right before something is done. -/
def toldBefore (plan : Plan) (verdict : Verdict) (earlier : List Event) : Event → List Notice
  | .entered p => beforePhase plan p ++ Session.enterNotices (Trace.phases earlier).getLast? p
  | .executing _ => ((commands plan)[(Trace.executions earlier).length]?).toList.map Prod.fst
  | .launched service .. => [.starting service]
  | .interrupted h _ => givingUp verdict earlier ++ [.stopping h.name h.pid]
  | _ => []

/-- What the log is told right after something was done. -/
def toldAfter (plan : Plan) (verdict : Verdict) (earlier : List Event) : Event → List Notice
  | .entered p => afterPhase plan verdict p
  | .launched _ _ (.ok h) => [.launched h.name h.pid]
  | .probed (.ok ()) => [.reachable plan.url (min (Trace.probes earlier).length attemptLimit)]
  | .interrupted h answer => (answerNotice h answer).toList
  | _ => []

/-- Something that is done, with what the log is told of it. -/
def recount (plan : Plan) (verdict : Verdict) (earlier : List Event) (e : Event) : List Event :=
  (toldBefore plan verdict earlier e).map .noticed
    ++ e :: (toldAfter plan verdict earlier e).map .noticed

/-- What is done one after the other, each with what the log is told of it. -/
def chronicle (plan : Plan) (verdict : Verdict) : List Event → List Event → List Event
  | _, [] => []
  | earlier, e :: rest =>
    recount plan verdict earlier e ++ chronicle plan verdict (earlier ++ [e]) rest

/-- What the log is told of the end of a run: that it passed, that it failed, or, where it is cut
short while services are live, how many of them are given up.  A run is cut short before it has
interrupted any, so that all that were launched are live. -/
def ending (verdict : Verdict) (launched : List Handle) : List Notice :=
  match verdict, launched with
  | .passed summary, _ => [.passed summary.services.length summary.attempts]
  | .failed fault, _ => [.runFailed fault]
  | .cut _, [] => []
  | .cut _, _ :: _ => [.abandoned launched.length]

/-- The log is a faithful account of a run of the plan. -/
structure Faithful (plan : Plan) (verdict : Verdict) (es : List Event) : Prop where
  /-- After the beginning of the run the log is told of each thing that is done what is to be told
  of it, at its place, and nothing else. -/
  told : Trace.deeds es
    = .noticed (.runStarted plan.services.length) :: chronicle plan verdict [] (Trace.doings es)
  /-- The commands that are executed are those of the plan, in order. -/
  executions : Trace.executions es <+: (commands plan).map Prod.snd
  /-- Once the log is told of the end of the run, or never if that is not to be told. -/
  ending : Trace.endings es = ending verdict (Trace.launched es)

/-! ### Traces that tell -/

variable {plan : Plan} {verdict : Verdict} {earlier ds ds' : List Event}

theorem chronicle_append :
    ∀ (earlier es es' : List Event), chronicle plan verdict earlier (es ++ es')
      = chronicle plan verdict earlier es ++ chronicle plan verdict (earlier ++ es) es'
  | earlier, [], es' => by
    rw [List.append_nil]
    rfl
  | earlier, e :: rest, es' => by
    have hrest := chronicle_append (earlier ++ [e]) rest es'
    rw [List.append_assoc] at hrest
    rw [List.cons_append, chronicle, chronicle, hrest, List.append_assoc]
    rfl

/-- The trace is what is done in it, with all that the log is told of that. -/
def Tells (plan : Plan) (verdict : Verdict) (earlier ds : List Event) : Prop :=
  chronicle plan verdict earlier (Trace.doings ds) = ds

theorem tells_nil :
  Tells plan verdict earlier []
  := rfl

theorem Tells.append (h : Tells plan verdict earlier ds)
    (h' : Tells plan verdict (earlier ++ Trace.doings ds) ds') :
  Tells plan verdict earlier (ds ++ ds')
  := by
  rw [Tells] at h h' ⊢
  rw [Trace.doings_append, chronicle_append, h, h']

/-- What is done tells with what the log is told of it. -/
theorem tells_recount {e : Event} (he : e.isDoing = true) :
  Tells plan verdict earlier (recount plan verdict earlier e)
  := by
  have hdoings : Trace.doings (recount plan verdict earlier e) = [e] := by
    rw [recount, Trace.doings_append, Trace.doings_notices, ← List.singleton_append,
      Trace.doings_append, Trace.doings_notices, Trace.doings, List.filter_cons_of_pos he]
    rfl
  rw [Tells, hdoings, chronicle, chronicle, List.append_nil]

/-- A command of the plan that begins tells with what is to be told of it. -/
theorem tells_executing {n : Notice} {i : Invocation}
    (h : (commands plan)[(Trace.executions earlier).length]? = some (n, i)) :
  Tells plan verdict earlier [.noticed n, .executing i]
  := by
  have hrecount : recount plan verdict earlier (.executing i) = [.noticed n, .executing i] := by
    rw [recount, toldBefore, h]
    rfl
  rw [← hrecount]
  apply tells_recount rfl

/-- A launch tells whether it gives a handle. -/
theorem tells_launched (service : String) (i : Invocation) (r : Except ProcessFault Handle) :
  Tells plan verdict earlier ([.noticed (.starting service), .launched service i r]
    ++ r.toOption.toList.map fun h => .noticed (.launched h.name h.pid))
  := by
  cases r with
  | error fault => apply tells_recount (e := .launched service i (.error fault)) rfl
  | ok h => apply tells_recount (e := .launched service i (.ok h)) rfl

/-- A phase is entered after another one, or as the first one. -/
def entering (before : Option Phase) (p : Phase) : List Event :=
  (Session.enterNotices before p).map .noticed ++ [.entered p]

/-- A phase that is entered tells, also if it does not follow the one before it. -/
theorem tells_entering {p : Phase} {before : Option Phase}
    (h : before = (Trace.phases earlier).getLast?) :
  Tells plan verdict earlier ((beforePhase plan p).map .noticed ++ entering before p
    ++ (afterPhase plan verdict p).map .noticed)
  := by
  have hrecount : recount plan verdict earlier (.entered p) = (beforePhase plan p).map .noticed
      ++ entering before p ++ (afterPhase plan verdict p).map .noticed := by
    rw [recount, toldBefore, toldAfter, entering, ← h]
    simp
  rw [← hrecount]
  apply tells_recount rfl

/-- Before the first interrupt of a run that is cut short the log is told of the services that are
given up. -/
theorem tells_interrupted (h : Handle) (answer : Except ProcessFault SignalOutcome) :
  Tells plan verdict earlier ((givingUp verdict earlier).map .noticed ++ stops h answer)
  := by
  have hrecount : recount plan verdict earlier (.interrupted h answer)
      = (givingUp verdict earlier).map .noticed ++ stops h answer := by
    rw [recount, toldBefore, toldAfter, stops]
    simp
  rw [← hrecount]
  apply tells_recount rfl

/-- Only a run that is cut short gives up services, and only before its first interrupt. -/
theorem givingUp_eq_nil (h : ∀ k, verdict = .cut k → Trace.interrupted earlier ≠ []) :
  givingUp verdict earlier = []
  := by
  cases verdict with
  | cut k => apply if_neg (h k rfl)
  | passed summary => rfl
  | failed fault => rfl

theorem doings_stops (h : Handle) (answer : Except ProcessFault SignalOutcome) :
  Trace.doings (stops h answer) = [.interrupted h answer]
  := by
  rw [stops, Trace.doings_append, Trace.doings_notices]
  rfl

/-- Interrupts tell where no services are given up. -/
theorem tells_zipWith_stops :
    ∀ (handles : List Handle) (answers : List (Except ProcessFault SignalOutcome))
      (earlier : List Event), (∀ k, verdict = .cut k → Trace.interrupted earlier ≠ []) →
      Tells plan verdict earlier (List.zipWith stops handles answers).flatten
  | [], _, _, _ => tells_nil
  | _ :: _, [], _, _ => tells_nil
  | h :: handles, answer :: answers, earlier, hearlier => by
    rw [List.zipWith_cons_cons, List.flatten_cons]
    apply Tells.append
    · have hfirst : Tells plan verdict earlier
          ((givingUp verdict earlier).map .noticed ++ stops h answer) := tells_interrupted h answer
      rw [givingUp_eq_nil hearlier] at hfirst
      exact hfirst
    · apply tells_zipWith_stops handles answers
      intro k _
      rw [doings_stops, Trace.interrupted_append]
      exact List.append_ne_nil_of_right_ne_nil _ (List.cons_ne_nil h [])

/-- A run that is cut short tells of the services that it gives up, and then of each of them. -/
theorem tells_abandoned {k : Cut} {handles : List Handle}
    {answers : List (Except ProcessFault SignalOutcome)} (hnone : Trace.interrupted earlier = [])
    (hlaunched : Trace.launched earlier = handles) (hlive : handles ≠ [])
    (hlength : answers.length = handles.length) :
  Tells plan (.cut k) earlier
    ([.noticed (.abandoned handles.length)] ++ (List.zipWith stops handles answers).flatten)
  := by
  cases handles with
  | nil => cases hlive rfl
  | cons h handles =>
    cases answers with
    | nil => cases hlength
    | cons answer answers =>
      -- the log is told with the first interrupt, after which there has been one
      rw [List.zipWith_cons_cons, List.flatten_cons, ← List.append_assoc]
      apply Tells.append
      · have hfirst : Tells plan (.cut k) earlier
            ((givingUp (.cut k) earlier).map .noticed ++ stops h answer) :=
          tells_interrupted h answer
        rw [givingUp, if_pos hnone, hlaunched] at hfirst
        exact hfirst
      · apply tells_zipWith_stops
        intro k _
        rw [Trace.doings_append, doings_stops, Trace.interrupted_append, Trace.interrupted_append]
        exact List.append_ne_nil_of_right_ne_nil _
          (List.append_ne_nil_of_right_ne_nil _ (List.cons_ne_nil h []))

/-- A run that is dropped while one service is live, which had exited. -/
example (i : Invocation) :
  chronicle {} (.cut .dropped) []
      [.launched "effis" i (.ok ⟨"effis", 7⟩), .interrupted ⟨"effis", 7⟩ (.ok .alreadyExited)]
    = [.noticed (.starting "effis"), .launched "effis" i (.ok ⟨"effis", 7⟩),
      .noticed (.launched "effis" 7), .noticed (.abandoned 1), .noticed (.stopping "effis" 7),
      .interrupted ⟨"effis", 7⟩ (.ok .alreadyExited), .noticed (.hadExited "effis" 7)]
  := rfl

end Run

end ServiceHarness
