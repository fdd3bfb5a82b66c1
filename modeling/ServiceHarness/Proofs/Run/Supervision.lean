import ServiceHarness.Proofs.Run.Closing

/-!
# A supervisor on its own

Services are launched with a supervisor, it is torn down, and it is given up for a new one, in any
order and as often as one likes.  After every such operation the handles that were interrupted,
followed by those that are live, are the handles that launches gave, in order
(`superviseAll_conserves`).  The invariant is `World.Supervised`: the handles are accounted for, and
the calls in the trace are what the launcher was asked, with its answers.  Each thing that happens
to a world keeps it, and so each operation does (`supervise_operates`).
-/

namespace ServiceHarness

variable {σ : Type} {P : Ports σ} {c : Controls} {ports : σ} {w w' : World σ}

namespace Run

/-! ### Operations -/

/-- Something that is done with a supervisor. -/
inductive Operation where
  /-- A service of a plan is launched. -/
  | launch (plan : Plan) (service : Service)
  /-- The live services are interrupted. -/
  | teardown
  /-- The supervisor is given up, and a new one takes its place. -/
  | replace

/-- What an operation tells. -/
inductive Report where
  /-- The process of the service, or why it could not be launched. -/
  | launched (result : Except ProcessFault Nat)
  /-- What the teardown found. -/
  | tornDown (teardown : Teardown)
  /-- Nothing: there is a new supervisor. -/
  | replaced

/-- Does something with a supervisor.  A new one holds no handle. -/
def supervise (P : Ports σ) (c : Controls) : Operation → Session σ Report
  | .launch plan service => return .launched (← launch P c plan service)
  | .teardown => return .tornDown (← teardown P c)
  | .replace => do
    modify (abandon P c)
    modify fun w => { w with live := [] }
    return .replaced

/-- Does one thing after the other. -/
def superviseAll (P : Ports σ) (c : Controls) : List Operation → Session σ Unit
  | [] => return
  | operation :: rest => do
    let _ ← supervise P c operation
    superviseAll P c rest

/-! ### What the launcher is asked -/

/-- From one state the launcher comes into another while it answers the calls, at the instant
zero. -/
inductive Serves (P : Ports σ) (s : σ) : List Event → σ → Prop where
  /-- It is not asked anything. -/
  | nil : Serves P s [] s
  /-- It is asked to launch a service. -/
  | launch {calls : List Event} {s' : σ} (h : Serves P s calls s') (service : String)
      (invocation : Invocation) :
    Serves P s (calls ++ [.launched service invocation (P.launch s' 0 service invocation).result])
      (P.launch s' 0 service invocation).state
  /-- It is asked to interrupt one. -/
  | interrupt {calls : List Event} {s' : σ} (h : Serves P s calls s') (handle : Handle) :
    Serves P s (calls ++ [.interrupted handle (P.interrupt s' 0 handle).result])
      (P.interrupt s' 0 handle).state

end Run

/-! ### The invariant -/

namespace World

/-- What holds of the world of a supervisor whose launcher began in the given state. -/
structure Supervised (P : Ports σ) (ports : σ) (w : World σ) : Prop where
  /-- Every handle that a launch gave has been interrupted or is live. -/
  accounted : w.Accounted
  /-- The calls are what the launcher was asked, with its answers. -/
  served : Run.Serves P ports (Trace.calls w.events) w.ports
  /-- No time has passed. -/
  now : w.now = 0

namespace Supervised

theorem fresh (P : Ports σ) (ports : σ) :
  (World.fresh ports).Supervised P ports
  := ⟨rfl, .nil, rfl⟩

/-- What is no call of the launcher changes nothing. -/
theorem record {e : Event} (h : w.Supervised P ports) (he : e.isCall = false) :
  (w.record e).Supervised P ports
  := by
  constructor
  case accounted =>
    apply h.accounted.append (w.events_record e) rfl
    · cases e <;> first | rfl | cases he
    · cases e <;> first | rfl | cases he
  case served =>
    rw [w.events_record, Trace.calls_append, Trace.calls, Trace.calls,
      List.filter_cons_of_neg (by simp [he]), List.filter_nil, List.append_nil]
    exact h.served
  case now => exact h.now

theorem tell (h : w.Supervised P ports) (n : Notice) :
  (w.tell n).Supervised P ports
  := h.record rfl

theorem trip (h : w.Supervised P ports) :
  w.trip.Supervised P ports
  := by
  cases hraised : w.raised with
  | true =>
    rw [w.trip_of_raised hraised]
    exact h
  | false =>
    rw [w.trip_of_not_raised hraised]
    obtain ⟨haccounted, hserved, hnow⟩ := h.record (e := .raised w.now) rfl
    exact ⟨haccounted, hserved, hnow⟩

theorem raiseIf (h : w.Supervised P ports) (b : Bool) (c : Controls) :
  (w.raiseIf b c).Supervised P ports
  := by
  obtain heq | heq := raiseIf_eq b c w
  · rw [heq]
    exact h
  · rw [heq]
    exact h.trip

/-- The launcher is asked to launch a service. -/
theorem launch (h : w.Supervised P ports) (service : String) (invocation : Invocation) :
  (w.launch service invocation (P.launch w.ports w.now service invocation)).Supervised P ports
  := by
  constructor
  case accounted => apply h.accounted.launch
  case served =>
    rw [events_launch, Trace.calls_append, h.now]
    apply h.served.launch
  case now => exact h.now

/-- The launcher is asked to interrupt the first live service. -/
theorem interrupt (h : w.Supervised P ports) {handle : Handle} {rest : List Handle}
    (hlive : w.live = handle :: rest) :
  (w.interrupt handle (P.interrupt w.ports w.now handle)).Supervised P ports
  := by
  constructor
  case accounted => apply h.accounted.interrupt hlive
  case served =>
    rw [events_interrupt, Trace.calls_append, h.now]
    apply h.served.interrupt
  case now => exact h.now

end Supervised

end World

namespace Run

/-! ### Stopping -/

theorem stop_supervised (h : w.Supervised P ports) {handle : Handle} {rest : List Handle}
    (hlive : w.live = handle :: rest) :
  (stop P c handle w).2.Supervised P ports
  := by
  have hinterrupted := (h.tell (.stopping handle.name handle.pid)).interrupt hlive
  rw [stop]
  dsimp only
  -- the log may be told of the answer
  have hnotice : ∀ w' : World σ, w'.Supervised P ports → ∀ notice : Option Notice,
      (notice.elim w' w'.tell).Supervised P ports := by
    intro w' hw' notice
    cases notice with
    | none => exact hw'
    | some n => exact hw'.tell n
  apply hnotice
  apply hinterrupted.raiseIf

theorem stopAll_supervised :
    ∀ (handles : List Handle) (t : Teardown) (w : World σ), w.Supervised P ports →
      w.live = handles → (stopAll P c handles t w).2.Supervised P ports
  | [], _, _, h, _ => h
  | handle :: rest, t, w, h, hlive =>
    stopAll_supervised rest (t.add handle (stop P c handle w).1) (stop P c handle w).2
      (stop_supervised h hlive) (stop_moves P hlive).2.2

theorem abandon_supervised (h : w.Supervised P ports) :
  (abandon P c w).Supervised P ports
  := by
  rw [abandon]
  split
  · exact h
  · apply stopAll_supervised _ _ _ (h.tell _) rfl

/-! ### What an operation does -/

/-- From one world to the other all live services are let go: each of them is interrupted once,
in order, and the launcher is asked nothing else. -/
def LetsGo (w w' : World σ) : Prop :=
  w'.live = []
    ∧ (∃ answers : List (Except ProcessFault SignalOutcome), answers.length = w.live.length
      ∧ Trace.calls w'.events
        = Trace.calls w.events ++ List.zipWith Event.interrupted w.live answers)
    ∧ (w.live = [] → w'.ports = w.ports)

/-- What an operation does to a world, with what it tells.  A launch asks the launcher once: its
handle is held, and its process told, if it gives one.  The others let all services go. -/
def Operates (P : Ports σ) (w : World σ) : Operation → Report → World σ → Prop
  | .launch plan service, report, w' =>
    let answer := (P.launch w.ports w.now service.name (plan.runInvocation service)).result
    Trace.calls w'.events
        = Trace.calls w.events ++ [.launched service.name (plan.runInvocation service) answer]
      ∧ match answer with
        | .ok handle => report = .launched (.ok handle.pid) ∧ w'.live = w.live ++ [handle]
        | .error fault => report = .launched (.error fault) ∧ w'.live = w.live
  | .teardown, report, w' => (∃ teardown, report = .tornDown teardown) ∧ LetsGo w w'
  | .replace, report, w' => report = .replaced ∧ LetsGo w w'

/-- A launch is one call, and its handle is held if it gives one; the launcher may raise the
signal. -/
theorem launch_calls (w : World σ) (service : String) (invocation : Invocation)
    (reply : Reply σ Handle) (c : Controls) :
  let w' := ((w.tell (.starting service)).launch service invocation reply).raiseIf reply.raises c
  Trace.calls w'.events = Trace.calls w.events ++ [.launched service invocation reply.result]
    ∧ w'.live = w.live ++ reply.result.toOption.toList
  := by
  have hdeeds := (w.tell (.starting service)).deeds_launch service invocation reply
  rw [w.deeds_tell, List.append_assoc] at hdeeds
  dsimp only
  rw [World.live_raiseIf, World.calls_of_deeds ((World.deeds_raiseIf _ _ _).trans hdeeds)]
  exact ⟨rfl, rfl⟩

theorem launch_operates (P : Ports σ) (c : Controls) (plan : Plan) (service : Service)
    (h : w.Supervised P ports) :
  Session.Ends (launch P c plan service) w
    (fun result w' => w'.Supervised P ports
      ∧ Operates P w (.launch plan service) (.launched result) w')
    (fun _ _ => False)
  := by
  have hasked := ((h.tell (.starting service.name)).launch service.name
    (plan.runInvocation service)).raiseIf
      (P.launch w.ports w.now service.name (plan.runInvocation service)).raises c
  obtain ⟨hcalls, hlive⟩ := launch_calls w service.name (plan.runInvocation service)
    (P.launch w.ports w.now service.name (plan.runInvocation service)) c
  rw [launch]
  simp only [Session.ends_bind, Session.ends_tell, Session.ends_get, Session.ends_modify]
  split
  case h_1 fault hresult =>
    replace hresult : (P.launch w.ports w.now service.name (plan.runInvocation service)).result
      = .error fault := hresult
    rw [hresult] at hcalls hlive
    rw [Session.ends_pure, Operates, hresult]
    exact ⟨hasked, hcalls, rfl, hlive.trans (List.append_nil _)⟩
  case h_2 handle hresult =>
    replace hresult : (P.launch w.ports w.now service.name (plan.runInvocation service)).result
      = .ok handle := hresult
    rw [hresult] at hcalls hlive
    simp only [Session.ends_bind, Session.ends_tell, Session.ends_pure]
    rw [Operates, hresult]
    use hasked.tell _
    rw [World.events_tell, Trace.calls_append, Trace.calls_noticed, List.append_nil]
    exact ⟨hcalls, rfl, hlive⟩

/-- Interrupting the live services lets them go. -/
theorem teardownWorld_letsGo (P : Ports σ) (w : World σ) :
  LetsGo w (teardownWorld P c w).2
  := by
  obtain ⟨-, hnone, -, answers, hlength, hdeeds⟩ :=
    stopAll_moves P w.live {} w rfl
  use hnone
  constructor
  · use answers, hlength
    rw [teardownWorld, World.calls_of_deeds hdeeds, calls_zipWith_stops]
  · intro hlive
    rw [teardownWorld, hlive]
    rfl

theorem abandon_letsGo (P : Ports σ) (w : World σ) :
  LetsGo w (abandon P c w)
  := by
  rw [abandon]
  split
  case isTrue hlive =>
    rw [List.isEmpty_iff] at hlive
    use hlive
    constructor
    · use []
      rw [hlive]
      exact ⟨rfl, (List.append_nil _).symm⟩
    · intro _
      rfl
  case isFalse hlive =>
    obtain ⟨hnone, hcalls, -⟩ := teardownWorld_letsGo P (w.tell (.abandoned w.live.length))
    rw [World.events_tell, Trace.calls_append, Trace.calls_noticed, List.append_nil] at hcalls
    use hnone, hcalls
    intro h
    rw [h] at hlive
    exact (hlive rfl).elim

/-- Every operation keeps the invariant, and does what is known of it. -/
theorem supervise_operates (P : Ports σ) (c : Controls) (operation : Operation)
    (h : w.Supervised P ports) :
  Session.Ends (supervise P c operation) w
    (fun report w' => w'.Supervised P ports ∧ Operates P w operation report w')
    (fun _ _ => False)
  := by
  cases operation with
  | launch plan service =>
    rw [supervise, Session.ends_bind]
    apply launch_operates P c plan service h
  | teardown =>
    rw [supervise, Session.ends_bind]
    exact ⟨stopAll_supervised _ _ _ h rfl, ⟨_, rfl⟩, teardownWorld_letsGo P w⟩
  | replace =>
    rw [supervise]
    simp only [Session.ends_bind, Session.ends_modify, Session.ends_pure]
    -- nothing is live any more when the new supervisor comes
    have hnone : (abandon P c w).live = [] := (abandon_letsGo P w).1
    have hnew : { abandon P c w with live := [] } = abandon P c w := by rw [← hnone]
    rw [hnew]
    exact ⟨abandon_supervised h, rfl, abandon_letsGo P w⟩

theorem superviseAll_supervised (P : Ports σ) (c : Controls) :
    ∀ (operations : List Operation) {w : World σ}, w.Supervised P ports →
      Session.Ends (superviseAll P c operations) w (fun _ w' => w'.Supervised P ports)
        (fun _ _ => False)
  | [], _, h => h
  | operation :: rest, w, h => by
    rw [superviseAll, Session.ends_bind]
    apply Session.Ends.mono (supervise_operates P c operation h)
    · rintro report w' ⟨hw', -⟩
      apply superviseAll_supervised P c rest hw'
    · intro _ _ hcut
      exact hcut

/-- Whatever the launcher does, and whatever was done with the supervisor: the handles that were
interrupted, followed by the live ones, are those that the launches gave, in order; the calls are
what the launcher was asked, with its answers; and whatever is done next does what is known of
it. -/
theorem superviseAll_conserves (P : Ports σ) (c : Controls) (ports : σ)
    (operations : List Operation) :
  Session.Ends (superviseAll P c operations) (World.fresh ports)
    (fun _ w => Trace.interrupted w.events ++ w.live = Trace.launched w.events
      ∧ Serves P ports (Trace.calls w.events) w.ports
      ∧ ∀ operation, Session.Ends (supervise P c operation) w (Operates P w operation)
        (fun _ _ => False))
    (fun _ _ => False)
  := by
  apply Session.Ends.mono (superviseAll_supervised P c operations (.fresh P ports))
  · intro _ w h
    use h.accounted.symm, h.served
    intro operation
    apply Session.Ends.mono (supervise_operates P c operation h)
    · rintro report w' ⟨-, hoperates⟩
      exact hoperates
    · intro _ _ hcut
      exact hcut
  · intro _ _ hcut
    exact hcut

end Run

end ServiceHarness
