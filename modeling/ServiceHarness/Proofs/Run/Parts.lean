import Mathlib.Data.List.Forall2
import ServiceHarness.Proofs.Session.Doing
import ServiceHarness.Run.Basic

/-!
# The parts of a run

What the parts of a run do that make up its phases: `stage_stays` for a stage,
`launchStep_stays` for a launch and `await_stays` for the wait for the instance.  Each of them
stays within its phase (`Attempt.Stays`): it enters no other one, what it fails with fits the
phase, and the caller drops it only while the signal is not raised.  Where it succeeds, what
it has done is known event by event.
-/

namespace ServiceHarness

/-- Whether a run may fail with the fault in the phase. -/
def RunFault.Fits : RunFault → Phase → Prop
  | .configuration _, _ => False
  | .buildFailed .., p => p = .building
  | .startFailed .., p => p = .launching
  | .testsFailed .build _, _ => False
  | .testsFailed .workspaceTests _, p => p = .workspaceTesting
  | .testsFailed .integrationTests _, p => p = .integrationTesting
  | .targetRejected _, p => p = .waitingReady
  | .interrupted q, p => p = q
  | .execution _, p => p = .building ∨ p = .workspaceTesting ∨ p = .integrationTesting

variable {σ α β : Type} {c : Controls} {w : World σ}

/-! ### Staying within a phase -/

namespace Attempt

/-- The attempt stays within a phase, and does what `done` says where it succeeds. -/
def Stays (c : Controls) (p : Phase) (m : Attempt σ α) (w : World σ)
    (done : α → List Event → Prop) : Prop :=
  Does c m w (fun a ds _ => Trace.phases ds = [] ∧ done a ds)
    (fun fault ds _ => Trace.phases ds = [] ∧ fault.Fits p)
    (fun k ds w' => Trace.phases ds = [] ∧ (k = .dropped → w'.raised = false))

/-- A loop stays within a phase if its rounds do. -/
theorem stays_forM {p : Phase} {f : α → Attempt σ PUnit} {done : α → List Event → Prop}
    (hf : ∀ a w, Stays c p (f a) w (fun _ => done a)) (l : List α) (w : World σ) :
  Stays c p (l.forM f) w
    (fun _ ds => ∃ rounds, List.Forall₂ done l rounds ∧ ds = rounds.flatten)
  := by
  -- what the rounds that succeed do enters no phase
  have hphases : ∀ {before rounds},
      List.Forall₂ (fun a ds => Trace.phases ds = [] ∧ done a ds) before rounds →
        Trace.phases rounds.flatten = [] := by
    intro before rounds h
    induction h with
    | nil => rfl
    | cons hds _ ih => rw [List.flatten_cons, Trace.phases_append, hds.1, ih]; rfl
  apply Does.mono (does_forM hf l w)
  · rintro _ ds w' ⟨rounds, hrounds, rfl⟩
    constructor
    · apply hphases hrounds
    · exact ⟨rounds, hrounds.imp fun _ _ h => h.2, rfl⟩
  · rintro fault ds w' ⟨before, a, after, rounds, last, rfl, hrounds, ⟨hlast, hfits⟩, rfl⟩
    constructor
    · rw [Trace.phases_append, hphases hrounds, hlast]
      rfl
    · apply hfits
  · rintro k ds w' ⟨before, a, after, rounds, last, rfl, hrounds, ⟨hlast, hraised⟩, rfl⟩
    constructor
    · rw [Trace.phases_append, hphases hrounds, hlast]
      rfl
    · apply hraised

end Attempt

namespace Run

/-! ### Stages -/

/-- A command that succeeds: the log is told, and the command exits with the code zero. -/
def Succeeds (n : Notice) (i : Invocation) (ds : List Event) : Prop :=
  ∃ millis, ds = [.noticed n, .executing i, .executed (.ok ⟨0, millis⟩)]

theorem begin_does (P : Ports σ) (n : Notice) (i : Invocation) (hraised : w.raised = false) :
  Session.Does c (begin P n i) w (fun _ ds _ => ds = [.noticed n, .executing i])
    (fun _ _ _ => False)
  := by
  apply Session.Does.bind
  apply Session.does_tell
  apply Session.Does.bind
  apply Session.does_record (.executing (w.tell n) i hraised) rfl
  apply Session.Does.bind
  apply Session.does_get
  apply Session.does_pure
  rfl

/-- A command that is run against the signal has no result only once the signal is raised. -/
theorem execution_does (P : Ports σ) (c : Controls) (n : Notice) (i : Invocation)
    (w : World σ) :
  Session.Does c (Session.race c (begin P n i) >>= Session.conclude .executed) w
    (Session.Raced [.noticed n, .executing i] .executed)
    (fun k ds w' => ds = [.noticed n, .executing i] ∧ (k = .dropped → w'.raised = false))
  := by
  apply Session.race_does (begin_does P n i)
  intro r w'
  exact ⟨.executed w' r, rfl⟩

/-- How a stage fails: the signal overtakes its command, perhaps before it begins; the command
cannot be executed; or it exits with a code other than zero.  Only in the last case is the
fault another one once the signal is raised. -/
inductive StageFails (phase : Phase) (n : Notice) (i : Invocation) (failure : Int → RunFault) :
    RunFault → List Event → World σ → Prop where
  /-- The signal comes first. -/
  | overtaken {ds : List Event} {w : World σ} (hraised : w.raised = true)
      (hds : ds = [] ∨ ds = [.noticed n, .executing i]) :
    StageFails phase n i failure (.interrupted phase) ds w
  /-- The command cannot be executed. -/
  | broken (fault : ProcessFault) (w : World σ) :
    StageFails phase n i failure (.execution fault)
      [.noticed n, .executing i, .executed (.error fault)] w
  /-- The command exits with a code other than zero. -/
  | rejected (completion : Completion) (w : World σ) (h : completion.succeeded = false) :
    StageFails phase n i failure
      (if w.raised then .interrupted phase else failure completion.exitCode)
      [.noticed n, .executing i, .executed (.ok completion)] w

/-- What a stage does, however it ends. -/
theorem stage_does (P : Ports σ) (c : Controls) (phase : Phase) (n : Notice) (i : Invocation)
    (failure : Int → RunFault) (w : World σ) :
  Attempt.Does c (stage P c phase n i failure) w (fun _ ds _ => Succeeds n i ds)
    (StageFails phase n i failure)
    (fun k ds w' => ds = [.noticed n, .executing i] ∧ (k = .dropped → w'.raised = false))
  := by
  apply Attempt.Does.bind
  apply Attempt.does_lift
  apply Session.Does.mono (execution_does P c n i w)
  · rintro (_ | fault | completion) ds w' h
    · apply Attempt.does_throw
      obtain ⟨hds, hraised⟩ := h
      rw [List.append_nil]
      apply StageFails.overtaken hraised hds
    · apply Attempt.does_throw
      rw [h]
      apply StageFails.broken
    · dsimp only
      rw [h]
      cases hsucceeded : completion.succeeded with
      | true =>
        apply Attempt.does_pure
        obtain ⟨code, millis⟩ := completion
        obtain rfl : code = 0 := by simpa [Completion.succeeded] using hsucceeded
        exact ⟨millis, rfl⟩
      | false =>
        have hrejected : StageFails phase n i failure
            (if w'.raised then .interrupted phase else failure completion.exitCode)
            [.noticed n, .executing i, .executed (.ok completion)] w' :=
          .rejected completion w' hsucceeded
        apply Attempt.Does.bind
        apply Attempt.does_lift
        apply Session.does_isRaised
        split
        case isTrue hraised =>
          rw [if_pos hraised] at hrejected
          apply Attempt.does_throw
          apply hrejected
        case isFalse hraised =>
          rw [if_neg hraised] at hrejected
          apply Attempt.does_throw
          apply hrejected
  · intro k ds w' h
    exact h

/-- A stage stays within its phase if the faults that it may make fit there. -/
theorem stage_stays (P : Ports σ) (c : Controls) {phase : Phase} (n : Notice) (i : Invocation)
    {failure : Int → RunFault} (hexecution : ∀ fault, (RunFault.execution fault).Fits phase)
    (hfailure : ∀ code, (failure code).Fits phase) (w : World σ) :
  Attempt.Stays c phase (stage P c phase n i failure) w (fun _ => Succeeds n i)
  := by
  apply Attempt.Does.mono (stage_does P c phase n i failure w)
  · rintro _ ds _ h
    obtain ⟨millis, rfl⟩ := id h
    exact ⟨rfl, h⟩
  · intro fault ds w' h
    cases h with
    | overtaken _ hds =>
      obtain rfl | rfl := hds
      · exact ⟨rfl, rfl⟩
      · exact ⟨rfl, rfl⟩
    | broken fault => exact ⟨rfl, hexecution fault⟩
    | rejected completion =>
      constructor
      · rfl
      · split
        · rfl
        · apply hfailure
  · rintro k ds w' ⟨rfl, hdropped⟩
    exact ⟨rfl, hdropped⟩

theorem build_stays (P : Ports σ) (c : Controls) (plan : Plan) (service : Service)
    (w : World σ) :
  Attempt.Stays c .building (build P c plan service) w
    (fun _ => Succeeds (.compiling service.name) (plan.buildInvocation service))
  := by
  apply stage_stays
  · intro _
    left
    rfl
  · intro _
    rfl

theorem workspaceTests_stays (P : Ports σ) (c : Controls) (plan : Plan) (w : World σ) :
  Attempt.Stays c .workspaceTesting (workspaceTests P c plan) w
    (fun _ => Succeeds (.testing .workspaceTests) plan.workspaceTestInvocation)
  := by
  apply stage_stays
  · intro _
    right
    left
    rfl
  · intro _
    rfl

theorem integrationTests_stays (P : Ports σ) (c : Controls) (plan : Plan) (w : World σ) :
  Attempt.Stays c .integrationTesting (integrationTests P c plan) w
    (fun _ => Succeeds (.testing .integrationTests) plan.integrationTestInvocation)
  := by
  apply stage_stays
  · intro _
    right
    right
    rfl
  · intro _
    rfl

/-! ### Launching -/

/-- A launch that gives the handle: the launcher gives it in some state and at some time, and
the log is told before and after. -/
def Launches (P : Ports σ) (plan : Plan) (service : Service) (h : Handle) (ds : List Event) :
    Prop :=
  (∃ s t, (P.launch s t service.name (plan.runInvocation service)).result = .ok h)
    ∧ ds = [.noticed (.starting service.name),
      .launched service.name (plan.runInvocation service) (.ok h),
      .noticed (.launched h.name h.pid)]

/-- A launch is made; where it gives no handle, the log is told before alone. -/
theorem launch_does (P : Ports σ) (plan : Plan) (service : Service)
    (hraised : w.raised = false) :
  Session.Does c (launch P c plan service) w
    (fun result ds _ => match result with
      | .ok _ => ∃ h, Launches P plan service h ds
      | .error fault => ds = [.noticed (.starting service.name),
        .launched service.name (plan.runInvocation service) (.error fault)])
    (fun _ _ _ => False)
  := by
  apply Session.Does.bind
  apply Session.does_tell
  apply Session.Does.bind
  apply Session.does_get
  dsimp only
  generalize hreply : P.launch _ _ service.name (plan.runInvocation service) = reply
  apply Session.Does.bind
  apply Session.does_modify (.single (.launches (w.tell _) _ _ reply hraised))
    (World.deeds_launch _ _ _ reply)
  apply Session.Does.bind
  apply Session.does_raiseIf
  split
  case h_1 fault hresult =>
    apply Session.does_pure
    rw [hresult]
    rfl
  case h_2 h hresult =>
    apply Session.Does.bind
    apply Session.does_tell
    apply Session.does_pure
    use h
    constructor
    · rw [← hresult, ← hreply]
      exact ⟨_, _, rfl⟩
    · rw [hresult]
      rfl

/-- A service is launched within the launching phase. -/
theorem launchStep_stays (P : Ports σ) (c : Controls) (plan : Plan) (service : Service)
    (w : World σ) :
  Attempt.Stays c .launching (launchStep P c plan service) w
    (fun _ ds => ∃ h, Launches P plan service h ds)
  := by
  apply Attempt.Does.bind
  apply Attempt.does_lift
  apply Session.does_isRaised
  split
  case isTrue =>
    apply Attempt.does_throw
    exact ⟨rfl, rfl⟩
  case isFalse hraised =>
    rw [Bool.not_eq_true] at hraised
    apply Attempt.Does.bind
    apply Attempt.does_lift
    apply Session.Does.uncut (launch_does P plan service hraised)
    rintro (fault | pid) ds w' h
    · apply Attempt.does_throw
      rw [List.append_nil, h]
      exact ⟨rfl, rfl⟩
    · apply Attempt.does_pure
      rw [List.append_nil]
      obtain ⟨handle, hlaunch, rfl⟩ := h
      exact ⟨rfl, handle, hlaunch, rfl⟩

/-! ### Waiting for the instance -/

/-- So many probes that find the instance not ready, for the given reasons. -/
def refusals (url : String) (reasons : List String) : List Event :=
  reasons.flatMap fun reason => [.probing url, .probed (.error (.notReady reason))]

/-- A wait that ends well: after the refusals a probe succeeds, and the log is told. -/
def Answers (url : String) (reasons : List String) (attempts : Nat) (ds : List Event) : Prop :=
  ds = refusals url reasons
    ++ [.probing url, .probed (.ok ()), .noticed (.reachable url attempts)]

/-- What a wait has done that began after so many attempts: where it ends well the attempts are
counted, up to the limit. -/
def Waited (url : String) (before : Nat) : Except WaitFault Nat → List Event → Prop
  | .ok total, ds => ∃ reasons, Answers url reasons total ds
      ∧ total = min (before + reasons.length + 1) attemptLimit
  | .error _, ds => Trace.phases ds = []

theorem phases_refusals (url : String) (reasons : List String) :
  Trace.phases (refusals url reasons) = []
  := by
  induction reasons with
  | nil => rfl
  | cons reason rest ih =>
    rw [refusals, List.flatMap_cons, Trace.phases_append]
    exact ih

theorem beginProbe_does (P : Ports σ) (url : String) (hraised : w.raised = false) :
  Session.Does c (beginProbe P url) w (fun _ ds _ => ds = [.probing url]) (fun _ _ _ => False)
  := by
  apply Session.Does.bind
  apply Session.does_record (.probing w url hraised) rfl
  apply Session.Does.bind
  apply Session.does_get
  apply Session.does_pure
  rfl

/-- A probe that is run against the signal has no result only once the signal is raised. -/
theorem probe_does (P : Ports σ) (c : Controls) (url : String) (w : World σ) :
  Session.Does c (Session.race c (beginProbe P url) >>= Session.conclude .probed) w
    (Session.Raced [.probing url] .probed)
    (fun k ds w' => ds = [.probing url] ∧ (k = .dropped → w'.raised = false))
  := by
  apply Session.race_does (beginProbe_does P url)
  intro r w'
  exact ⟨.probed w' r, rfl⟩

/-- Another refusal makes the wait longer by one attempt. -/
theorem Waited.cons {url : String} {before : Nat} {result : Except WaitFault Nat}
    {ds : List Event} (h : Waited url (min (before + 1) attemptLimit) result ds)
    (reason : String) :
  Waited url before result
    ([.probing url, .probed (.error (.notReady reason))] ++ ds)
  := by
  cases result with
  | error fault => apply h
  | ok total =>
    obtain ⟨reasons, rfl, htotal⟩ := h
    use reason :: reasons
    constructor
    · rfl
    · rw [htotal, List.length_cons]
      omega

/-- A wait with enough patience for the time until the run is dropped never runs out of it:
each refusal takes the interval, and the run is dropped before. -/
theorem awaitFrom_does (P : Ports σ) (c : Controls) (url : String) {interval : Nat}
    (hinterval : 0 < interval) :
    ∀ (patience attempts : Nat) (w : World σ), w.now ≤ c.dropAt → c.dropAt < w.now + patience →
      Session.Does c (awaitFrom P c url interval patience attempts) w
        (fun result ds _ => Waited url attempts result ds)
        (fun k ds w' => Trace.phases ds = [] ∧ (k = .dropped → w'.raised = false))
  | 0, _, w, hdrop, hpatience => by omega
  | patience + 1, attempts, w, hdrop, hpatience => by
    apply Session.Does.bind
    apply Session.does_isRaised
    split
    case isTrue =>
      apply Session.does_pure
      rfl
    case isFalse =>
      apply Session.Does.bind
      apply Session.Does.mono (probe_does P c url w).moves
      · rintro (_ | (reason | reason) | _) ds w' ⟨⟨hmoves, -⟩, h⟩
        · apply Session.does_pure
          obtain ⟨rfl | rfl, -⟩ := h
          · rfl
          · rfl
        · obtain rfl := h
          apply Session.Does.bind
          apply Session.Does.mono (Session.suspend_does c (some interval) w')
          · rintro (_ | _) ds' w'' ⟨rfl, hwake⟩
            · -- the interval has passed before the run is dropped
              obtain ⟨-, d, hd, rfl, hlate⟩ := hwake
              cases hd
              have hle := hmoves.now_le
              have hpatience' : c.dropAt < w'.now + interval + patience := by omega
              apply Session.Does.mono
                (awaitFrom_does P c url hinterval patience _ _ hlate hpatience')
              · intro result ds' _ h
                apply h.cons
              · intro k ds' _ h
                exact h
            · apply Session.does_pure
              rfl
          · rintro k ds' w'' ⟨rfl, -, hraised⟩
            exact ⟨rfl, fun _ => hraised⟩
        · obtain rfl := h
          apply Session.does_pure
          rfl
        · obtain rfl := h
          apply Session.Does.bind
          apply Session.does_tell
          apply Session.does_pure
          use []
          exact ⟨rfl, rfl⟩
      · rintro k ds w' ⟨-, rfl, hdropped⟩
        exact ⟨rfl, hdropped⟩

/-- The instance is awaited within the waiting phase. -/
theorem await_stays (P : Ports σ) (c : Controls) (plan : Plan) (hinterval : 0 < plan.interval)
    (hdrop : w.now ≤ c.dropAt) :
  Attempt.Stays c .waitingReady (await P c plan) w
    (fun attempts ds => ∃ reasons, Answers plan.url reasons attempts ds
      ∧ attempts = min (reasons.length + 1) attemptLimit)
  := by
  apply Attempt.Does.bind
  apply Attempt.does_lift
  apply Session.Does.mono (awaitFrom_does P c plan.url hinterval (patience c) 0 w hdrop
    (by unfold patience; omega))
  · rintro (fault | attempts) ds w' h
    · apply Attempt.does_throw
      constructor
      · rw [List.append_nil]
        apply h
      · cases fault <;> rfl
    · apply Attempt.does_pure
      obtain ⟨reasons, rfl, hattempts⟩ := h
      rw [Nat.zero_add] at hattempts
      rw [List.append_nil]
      constructor
      · rw [Trace.phases_append, phases_refusals]
        rfl
      · exact ⟨reasons, rfl, hattempts⟩
  · intro k ds w' h
    exact h

end Run

end ServiceHarness
