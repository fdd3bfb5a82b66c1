import Mathlib.Computability.Partrec
import ServiceHarness.Proofs.Session.Course
import ServiceHarness.Proofs.Session.Standing
import ServiceHarness.Run.Basic

/-!
# Sequential runs

A run as it would be with nothing to disturb it: no stop signal, and every call of a port awaited to
its end.  `Sequential.perform` makes the calls of the ports one after the other and stops at the first
that fails; then it interrupts what it launched.  It has no phases and no log.

There may be a limit, at which the run is given up wherever it is.  Without one, a run whose calls
never come to an end has no result, and neither has one that probes for ever.
-/

namespace ServiceHarness

variable {σ α β : Type}

namespace Sequential

open Run

/-- A sequential computation, which may have no result. -/
abbrev Walk (σ : Type) := StateT (Standing σ) Option

/-- A sequential computation that may be cut short: it is given up, or a port panics. -/
abbrev Step (σ : Type) := ExceptT Cut (Walk σ)

/-- A sequential computation that may also fail. -/
abbrev Part (σ : Type) := ExceptT RunFault (Step σ)

/-- A call begins, or ends. -/
def record (e : Event) : Step σ Unit :=
  modify fun p => { p with calls := p.calls ++ [e] }

/-- Lets an activity take its course. -/
def follow (limit : Option Nat) (activity : σ → Nat → Activity σ α) : Step σ α :=
  ExceptT.mk fun p => ((activity p.ports p.now).course limit p.now).map fun (r, s, t) =>
    (r, { p with ports := s, now := t })

/-- Makes a call that takes its course, to its end. -/
def call (limit : Option Nat) (begun : Event) (ended : α → Event)
    (begin : σ → Nat → Activity σ α) : Step σ α := do
  record begun
  let outcome ← follow limit begin
  record (ended outcome)
  return outcome

/-- Executes a command. -/
def execute (limit : Option Nat) (P : Ports σ) (i : Invocation) :
    Step σ (Except ProcessFault Completion) :=
  call limit (.executing i) .executed (P.execute · · i)

/-- Probes a URL. -/
def probe (limit : Option Nat) (P : Ports σ) (url : String) : Step σ (Except ProbeFault Unit) :=
  call limit (.probing url) .probed (P.probe · · url)

/-- Lets time pass. -/
def sleep (limit : Option Nat) (millis : Nat) : Step σ Unit :=
  follow limit fun s _ => .pause millis s (.finish s ())

/-- Launches a service, and keeps the handle if there is one. -/
def launch (P : Ports σ) (service : String) (i : Invocation) :
    Walk σ (Except ProcessFault Handle) :=
  fun p =>
    let answer := P.launch p.ports p.now service i
    some (answer.result, { p with
      ports := answer.state
      handles := p.handles ++ answer.result.toOption.toList
      calls := p.calls ++ [.launched service i answer.result] })

/-- Interrupts a service. -/
def interrupt (P : Ports σ) (h : Handle) : Walk σ (Except ProcessFault SignalOutcome) :=
  fun p =>
    let answer := P.interrupt p.ports p.now h
    some (answer.result, { p with
      ports := answer.state
      calls := p.calls ++ [.interrupted h answer.result] })

/-- Executes a command that has to exit with the code zero. -/
def command (limit : Option Nat) (P : Ports σ) (i : Invocation) (failure : Int → RunFault) :
    Part σ Unit := do
  match ← (execute limit P i : Step σ _) with
  | .error fault => throw (.execution fault)
  | .ok completion =>
    if completion.exitCode = 0 then pure () else throw (failure completion.exitCode)

/-- Launches a service, which has to give a handle. -/
def start (P : Ports σ) (plan : Plan) (service : Service) : Part σ Unit := do
  match ← (launch P service.name (plan.invocation service.run plan.servicePatch) : Walk σ _) with
  | .error fault => throw (.startFailed service.name fault.message)
  | .ok _ => pure ()

/-- Probes a URL, after so many probes and with so many left, until it answers or turns out to be
malformed; what is told is the number of all probes. -/
def awaitWithin (limit : Option Nat) (P : Ports σ) (url : String) (interval : Nat) :
    Nat → Nat → Part σ Nat
  | 0, _ => (failure : Walk σ Nat)
  | left + 1, probes => do
    match ← (probe limit P url : Step σ _) with
    | .ok () => return probes + 1
    | .error (.malformed reason) =>
      throw (.targetRejected (ProbeFault.malformed reason).message)
    | .error (.notReady _) =>
      (sleep limit interval : Step σ Unit)
      awaitWithin limit P url interval left (probes + 1)

theorem run_lift_bind (m : Step σ α) (k : α → Part σ β) :
  (liftM m >>= k : Part σ β).run = m >>= fun a => (k a).run
  := ExceptT.run_bind_lift m k

/-- A wait goes by the outcome of its next probe. -/
theorem run_awaitWithin (limit : Option Nat) (P : Ports σ) (url : String)
    (interval left probes : Nat) :
  (awaitWithin limit P url interval (left + 1) probes).run = probe limit P url >>= fun
    | .ok () => pure (.ok (probes + 1))
    | .error (.malformed reason) =>
      pure (.error (.targetRejected (ProbeFault.malformed reason).message))
    | .error (.notReady _) =>
      sleep limit interval >>= fun _ =>
        (awaitWithin limit P url interval left (probes + 1)).run
  := by
  rw [awaitWithin, run_lift_bind]
  congr 1
  funext outcome
  rcases outcome with (reason | reason) | _
  · apply run_lift_bind
  · rfl
  · rfl

/-- A step that is followed by another one has a result through both of them, unless it is cut
short. -/
theorem run_bind_eq_some {m : Step σ α} {f : α → Step σ β} {p p' : Standing σ} {r : Except Cut β} :
  (m >>= f).run.run p = some (r, p') ↔
    (∃ k, m.run.run p = some (.error k, p') ∧ r = .error k)
      ∨ ∃ a p₁, m.run.run p = some (.ok a, p₁) ∧ (f a).run.run p₁ = some (r, p')
  := by
  rw [ExceptT.run_bind, StateT.run_bind, Option.bind_eq_bind, Option.bind_eq_some_iff]
  constructor
  · rintro ⟨⟨k | a, p₁⟩, hm, hf⟩
    · cases hf
      exact .inl ⟨k, hm, rfl⟩
    · exact .inr ⟨a, p₁, hm, hf⟩
  · rintro (⟨k, hm, rfl⟩ | ⟨a, p₁, hm, hf⟩)
    · exact ⟨_, hm, rfl⟩
    · exact ⟨_, hm, hf⟩

/-- With more probes left, the result of a wait stays the same. -/
theorem awaitWithin_mono (limit : Option Nat) (P : Ports σ) (url : String) (interval : Nat)
    {left more : Nat} (hmore : left ≤ more) (probes : Nat) {p : Standing σ}
    {r : Except Cut (Except RunFault Nat) × Standing σ}
    (h : (awaitWithin limit P url interval left probes).run.run.run p = some r) :
  (awaitWithin limit P url interval more probes).run.run.run p = some r
  := by
  induction left generalizing more probes p with
  | zero => cases h
  | succ left ih =>
    obtain ⟨more, rfl⟩ : ∃ n, more = n + 1 := ⟨more - 1, by omega⟩
    rw [run_awaitWithin] at h ⊢
    apply run_bind_eq_some.mpr
    obtain hcut | ⟨outcome, p₁, hprobe, h⟩ := run_bind_eq_some.mp h
    · exact .inl hcut
    · right
      use outcome, p₁, hprobe
      rcases outcome with (reason | reason) | _
      · apply run_bind_eq_some.mpr
        obtain hcut | ⟨_, p₂, hsleep, h⟩ := run_bind_eq_some.mp h
        · exact .inl hcut
        · exact .inr ⟨_, p₂, hsleep, ih (by omega) _ h⟩
      · exact h
      · exact h

open Classical in
/-- What computations that are given more and more come to, if one of them has a result. -/
noncomputable def unlimited (f : Nat → Walk σ α) : Walk σ α :=
  fun p => (Nat.rfindOpt fun given => f given p).toOption

theorem unlimited_eq_some {f : Nat → Walk σ α} {p : Standing σ} {r : α × Standing σ}
    (hmono : ∀ {r m n}, m ≤ n → f m p = some r → f n p = some r) :
  unlimited f p = some r ↔ ∃ given, f given p = some r
  := by
  classical
  apply Part.toOption_eq_some_iff.trans
  apply Nat.rfindOpt_mono hmono

/-- Probes a URL until it answers or turns out to be malformed, however often that takes; what
is told is the number of probes. -/
noncomputable def awaitAnswer (limit : Option Nat) (P : Ports σ) (url : String) (interval : Nat) :
    Part σ Nat :=
  ExceptT.mk (ExceptT.mk (unlimited fun left =>
    (awaitWithin limit P url interval left 0).run.run))

/-- A wait has the result that it has with enough probes left. -/
theorem run_awaitAnswer_eq_some {limit : Option Nat} {P : Ports σ} {url : String} {interval : Nat}
    {p : Standing σ} {r : Except Cut (Except RunFault Nat) × Standing σ} :
  (awaitAnswer limit P url interval).run.run.run p = some r
    ↔ ∃ left, (awaitWithin limit P url interval left 0).run.run.run p = some r
  := unlimited_eq_some (awaitWithin_mono limit P url interval · 0)

/-- Waits for the instance; what is told is the number of probes, up to the limit of that. -/
noncomputable def await (limit : Option Nat) (P : Ports σ) (plan : Plan) : Part σ Nat := do
  return min (← awaitAnswer limit P plan.url plan.interval) attemptLimit

/-- Tests the workspace, if the plan wants that. -/
def testWorkspace (limit : Option Nat) (P : Ports σ) (plan : Plan) : Part σ Unit :=
  if plan.workspaceTests then
    command limit P (plan.invocation plan.workspaceTest plan.workspaceTestPatch)
      (.testsFailed .workspaceTests)
  else pure ()

/-- Everything before the teardown; what is told is the number of probes. -/
noncomputable def drive (limit : Option Nat) (P : Ports σ) (plan : Plan) : Part σ Nat := do
  plan.services.forM fun service =>
    command limit P (plan.invocation service.build plan.buildPatch) (.buildFailed service.name)
  plan.services.forM (start P plan)
  testWorkspace limit P plan
  let attempts ← await limit P plan
  command limit P (plan.invocation plan.integrationTest plan.integrationTestPatch)
    (.testsFailed .integrationTests)
  return attempts

/-- What a teardown finds whose interrupts have the given answers. -/
def report (answers : List (Handle × Except ProcessFault SignalOutcome)) : Teardown where
  stopped := answers.filterMap fun (h, answer) => answer.toOption.map fun _ => h.name
  alreadyExited := answers.filterMap fun (h, answer) => match answer with
    | .ok .alreadyExited => some h.name
    | _ => none
  failed := answers.filterMap fun (h, answer) => match answer with
    | .ok _ => none
    | .error fault => some (h.name, fault.message)

/-- Interrupts every launched service and lets the handles go. -/
def teardown (P : Ports σ) : Walk σ Teardown := do
  let handles := (← get).handles
  let answers ← handles.mapM (interrupt P)
  modify fun p => { p with handles := [] }
  return report (handles.zip answers)

/-- What follows everything else, however that has ended. -/
def finish (P : Ports σ) (runId : String) (outcome : Except Cut (Except RunFault Nat)) :
    Walk σ Verdict := do
  let services := (← get).handles.map Handle.name
  let teardown ← teardown P
  match outcome with
  | .error cut => return .cut cut
  | .ok (.error fault) => return .failed fault
  | .ok (.ok attempts) => return .passed { runId, services, attempts, teardown }

/-- A whole run, which is given up at the limit if there is one and it is not over by then. -/
noncomputable def perform (P : Ports σ) (plan : Plan) (runId : String) (limit : Option Nat) :
    Walk σ Verdict := do
  finish P runId (← (drive limit P plan).run.run)

end Sequential

end ServiceHarness
