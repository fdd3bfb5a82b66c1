import ServiceHarness.Proofs.Run.Calm
import ServiceHarness.Proofs.Run.Transcript
import ServiceHarness.Proofs.Sequential.Mirror

/-!
# Undisturbed runs are sequential

A run during which the signal is not raised makes the calls of the sequential run of its plan and has
its result, in both directions and with the drop of the run as the limit of the sequential one
(`perform_sequential`).  Each part of a run mirrors its counterpart; the calls that take their course
come down to `play_follows`.
-/

namespace ServiceHarness

open ServiceHarness.Sequential

variable {σ α : Type} {c : Controls} {w : World σ}

/-! ### Calls -/

namespace Session

/-- An activity that is played while the signal is not raised takes its course until the run is
dropped. -/
theorem play_follows (c : Controls) (activity : Activity σ α) (w : World σ) (hw : w.now ≤ c.dropAt) :
  Ends (play c activity) w
    (fun outcome w' => w'.raised = false → ∃ a s t, outcome = some a ∧ t ≤ c.dropAt
      ∧ activity.course (some c.dropAt) w.now = some (.ok a, s, t)
      ∧ w' = { w with ports := s, now := t })
    (fun k w' => w'.raised = false → ∃ s t,
      activity.course (some c.dropAt) w.now = some (.error k, s, t)
        ∧ w' = { w with ports := s, now := t })
  := by
  induction activity generalizing w with
  | finish s outcome =>
    intro _
    exact ⟨outcome, s, w.now, rfl, hw, rfl, rfl⟩
  | hang s =>
    rw [play, ends_bind, ends_modify, ends_bind]
    apply Ends.mono (suspend_ends c none _)
    · rintro (_ | _) w' hwake hcalm
      · obtain ⟨-, d, hd, -⟩ := hwake
        cases hd
      · obtain ⟨-, t, -, -, rfl⟩ := hwake
        rw [World.raised_trip] at hcalm
        cases hcalm
    · rintro _ w' ⟨rfl, -, rfl⟩ _
      exact ⟨s, max w.now c.dropAt, rfl, rfl⟩
  | panic s =>
    intro _
    exact ⟨s, w.now, rfl, rfl⟩
  | raise rest ih =>
    rw [play, ends_bind, ends_modify]
    have hnow := w.now_raiseIf true c
    apply Ends.mono (ih (w.raiseIf true c) (hnow.trans_le hw))
    · intro outcome w' h hcalm
      obtain ⟨a, s, t, houtcome, ht, hcourse, rfl⟩ := h hcalm
      rw [hnow] at hcourse
      rw [World.raiseIf_of_calm hcalm]
      exact ⟨a, s, t, houtcome, ht, hcourse, rfl⟩
    · intro k w' h hcalm
      obtain ⟨s, t, hcourse, rfl⟩ := h hcalm
      rw [hnow] at hcourse
      rw [World.raiseIf_of_calm hcalm]
      exact ⟨s, t, hcourse, rfl⟩
  | pause millis s rest ih =>
    rw [play, ends_bind, ends_modify, ends_bind]
    apply Ends.mono (suspend_ends c (some millis) _)
    · rintro (_ | _) w' hwake
      · obtain ⟨-, d, hd, rfl, hle⟩ := hwake
        cases hd
        have hcourse : (Activity.pause millis s rest).course (some c.dropAt) w.now
            = rest.course (some c.dropAt) (w.now + millis) := by
          rw [Activity.course, if_neg (by simpa using hle)]
        rw [hcourse]
        apply ih _ hle
      · obtain ⟨-, t, -, -, rfl⟩ := hwake
        intro hcalm
        rw [World.raised_trip] at hcalm
        cases hcalm
    · rintro _ w' ⟨rfl, hlate, rfl⟩ _
      have hlate : c.dropAt < w.now + millis := hlate millis rfl
      use s, max w.now c.dropAt
      rw [Activity.course, if_pos (by simpa using hlate)]
      exact ⟨rfl, rfl⟩

/-- A race against a signal that is not raised is a call. -/
theorem race_mirrors (c : Controls) {begin : Session σ (Activity σ α)} {begun : Event}
    {activity : σ → Nat → Activity σ α} {e : α → Event}
    (hbegin : Begins begin begun activity)
    (he : ∀ a, (e a).isCall = true) :
  Mirrors c (fun outcome a => outcome = some a) (race c begin >>= conclude e)
    (call (some c.dropAt) begun e activity)
  := by
  constructor
  case keeps =>
    intro w hraised
    rw [race, ends_bind, ends_bind, ends_isRaised, if_pos hraised]
    exact hraised
  case follows =>
    intro w hw
    rw [Follows, race, ends_bind, ends_bind, ends_isRaised]
    split
    case isTrue hraised =>
      intro hcalm
      rw [hraised] at hcalm
      cases hcalm
    case isFalse hraised =>
      rw [ends_bind]
      apply Ends.mono (hbegin w)
      · rintro x w₁ ⟨rfl, -, hstanding⟩
        have hnow : w₁.now = w.now := congrArg Standing.now hstanding
        have hw₁ := play_follows c (activity w.ports w.now) w₁ (hnow.trans_le hw)
        rw [hnow] at hw₁
        apply Ends.mono hw₁
        · rintro (_ | a) w₂ h
          · intro hcalm
            obtain ⟨_, _, _, hnone, -⟩ := h hcalm
            cases hnone
          · intro hcalm
            obtain ⟨_, s, t, ⟨⟩, ht, hcourse, rfl⟩ := h hcalm
            use ht, a, rfl
            have hcall := run_call_ok begun e (p := w.standing) hcourse
            rw [World.standing_record _ (he a)]
            change _ = some (_, { w₁.standing with
              ports := s
              now := t
              calls := w₁.standing.calls ++ [e a] })
            rw [hstanding]
            exact hcall
        · intro k w₂ h hcalm
          obtain ⟨s, t, hcourse, rfl⟩ := h hcalm
          have hcall := run_call_error begun e (p := w.standing) hcourse
          change _ = some (_, { w₁.standing with ports := s, now := t })
          rw [hstanding]
          exact hcall
      · intro _ _ hcut
        exact hcut.elim

end Session

namespace Run

open Attempt

/-! ### The parts of a run -/

theorem stage_mirrors (P : Ports σ) (c : Controls) (phase : Phase) (n : Notice) (i : Invocation)
    (failure : Int → RunFault) :
  Mirrors c (stage P c phase n i failure) (Sequential.command (some c.dropAt) P i failure)
  := by
  have hexecute : Session.Mirrors c (fun outcome a => outcome = some a)
      (Session.race c (begin P n i) >>= Session.conclude .executed)
      (Sequential.execute (some c.dropAt) P i) := by
    apply Session.race_mirrors c (begin_begins P n i)
    intro _
    rfl
  apply Mirrors.liftSome hexecute
  · apply Session.keeps_pure
  · rintro (fault | completion)
    · apply mirrors_throw
    · dsimp only
      split
      case isTrue hsucceeded =>
        rw [if_pos (by simpa [Completion.succeeded] using hsucceeded)]
        apply mirrors_pure
      case isFalse hsucceeded =>
        rw [if_neg (by simpa [Completion.succeeded] using hsucceeded)]
        apply Mirrors.unlessRaised
        · apply Session.keeps_pure
        · apply mirrors_throw

/-- A launch that nothing disturbs is a launch; what is told is the process of the handle. -/
theorem launch_mirrors (P : Ports σ) (c : Controls) (plan : Plan) (service : Service) :
  Session.Mirrors c (fun result result' => result = result'.map Handle.pid)
    (launch P c plan service)
    (liftM (Sequential.launch P service.name (plan.invocation service.run plan.servicePatch)))
  := by
  constructor
  case keeps =>
    intro w hraised
    rw [launch]
    simp only [Session.ends_bind, Session.ends_tell, Session.ends_get, Session.ends_modify]
    generalize P.launch _ _ service.name (plan.runInvocation service) = reply
    have hraised' := World.raised_raiseIf (w := (w.tell (.starting service.name)).launch
      service.name (plan.runInvocation service) reply) reply.raises c hraised
    split
    · apply hraised'
    · apply hraised'
  case follows =>
    intro w hw
    rw [Session.Follows, launch]
    simp only [Session.ends_bind, Session.ends_tell, Session.ends_get, Session.ends_modify]
    generalize hreply : P.launch _ _ service.name (plan.runInvocation service) = reply
    have hstanding : (Sequential.launch P service.name (plan.runInvocation service)).run w.standing
        = some (reply.result, ((w.tell (.starting service.name)).launch service.name
          (plan.runInvocation service) reply).standing) := by
      rw [World.standing_launch, World.standing_tell, ← hreply]
      rfl
    have hnow : (((w.tell (.starting service.name)).launch service.name
        (plan.runInvocation service) reply).raiseIf reply.raises c).now ≤ c.dropAt := by
      rw [World.now_raiseIf]
      exact hw
    split
    case h_1 fault hresult =>
      intro hcalm
      use hnow, reply.result
      rw [World.raiseIf_of_calm hcalm]
      exact ⟨by rw [hresult]; rfl, run_lift_eq_some.mpr ⟨_, hstanding, rfl⟩⟩
    case h_2 h hresult =>
      rw [Session.ends_bind, Session.ends_tell]
      intro hcalm
      use hnow, reply.result
      rw [World.standing_tell, World.raiseIf_of_calm hcalm]
      exact ⟨by rw [hresult]; rfl, run_lift_eq_some.mpr ⟨_, hstanding, rfl⟩⟩

theorem launchStep_mirrors (P : Ports σ) (c : Controls) (plan : Plan) (service : Service) :
  Mirrors c (launchStep P c plan service) (Sequential.start P plan service)
  := by
  apply Mirrors.unlessRaised
  · apply Session.keeps_pure
  · apply Mirrors.lift (launch_mirrors P c plan service)
    · rintro (fault | pid)
      · apply Session.keeps_pure
      · apply Session.keeps_pure
    · rintro _ (fault | h) rfl
      · apply mirrors_throw
      · apply mirrors_pure

/-- What a wait that nothing disturbs comes to. -/
inductive Waits : Except WaitFault Nat → Except RunFault Nat → Prop where
  /-- The instance answers. -/
  | ok (probes : Nat) : Waits (.ok (min probes attemptLimit)) (.ok probes)
  /-- The target is malformed. -/
  | malformed (reason : String) : Waits (.error (.malformed reason)) (.error (.targetRejected reason))

/-- A suspension that nothing disturbs lets the time pass. -/
theorem suspend_mirrors (c : Controls) (millis : Nat) :
  Session.Mirrors c (fun wake _ => wake = .elapsed)
    (Session.suspend c (some millis) : Session σ _) (Sequential.sleep (some c.dropAt) millis)
  := by
  use Session.keeps_of_does (Session.suspend_does c (some millis))
  intro w hw
  apply Session.Ends.mono (Session.suspend_ends c (some millis) w)
  · rintro (_ | _) w' hwake hcalm
    · obtain ⟨-, d, hd, rfl, hle⟩ := hwake
      cases hd
      use hle, (), rfl
      apply run_follow_eq_some.mpr
      use w.ports, w.now + millis
      constructor
      · change (Activity.pause millis w.ports (.finish w.ports ())).course _ w.now = _
        rw [Activity.course, if_neg (by simpa using hle)]
        rfl
      · rfl
    · obtain ⟨-, t, -, -, rfl⟩ := hwake
      rw [World.raised_trip] at hcalm
      cases hcalm
  · rintro _ w' ⟨rfl, hlate, rfl⟩ _
    have hlate : c.dropAt < w.now + millis := hlate millis rfl
    apply run_follow_eq_some.mpr
    use w.ports, max w.now c.dropAt
    constructor
    · change (Activity.pause millis w.ports (.finish w.ports ())).course _ w.now = _
      rw [Activity.course, if_pos (by simpa using hlate)]
      rfl
    · rfl

theorem probe_mirrors (P : Ports σ) (c : Controls) (url : String) :
  Session.Mirrors c (fun outcome a => outcome = some a)
    (Session.race c (beginProbe P url) >>= Session.conclude .probed)
    (Sequential.probe (some c.dropAt) P url)
  := by
  apply Session.race_mirrors c (beginProbe_begins P url)
  intro _
  rfl

theorem awaitFrom_keeps (P : Ports σ) (c : Controls) (url : String) (interval : Nat) :
    ∀ patience attempts : Nat, Session.Keeps (awaitFrom P c url interval patience attempts)
  | 0, _ => fun _ hraised => hraised
  | _ + 1, _ => by
    intro w hraised
    rw [awaitFrom, Session.ends_bind, Session.ends_isRaised, if_pos hraised]
    exact hraised

/-- A wait that nothing disturbs probes until the instance answers, for which the patience is
enough if it is for the time until the run is dropped. -/
theorem awaitFrom_follows (P : Ports σ) (c : Controls) (url : String) {interval : Nat}
    (hinterval : 0 < interval) :
    ∀ (patience probes : Nat) (w : World σ), w.now ≤ c.dropAt → c.dropAt < w.now + patience →
      Session.Follows c Waits (awaitFrom P c url interval patience (min probes attemptLimit))
        (awaitWithin (some c.dropAt) P url interval patience probes).run w
  | 0, probes, w, hw, hpatience => by omega
  | patience + 1, probes, w, hw, hpatience => by
    have hattempts : min (min probes attemptLimit + 1) attemptLimit
        = min (probes + 1) attemptLimit := by
      omega
    have hrest := awaitFrom_keeps P c url interval patience (min (probes + 1) attemptLimit)
    rw [run_awaitWithin, awaitFrom]
    dsimp only
    rw [hattempts]
    rw [Session.Follows, Session.ends_bind, Session.ends_isRaised]
    split
    case isTrue hraised =>
      intro hcalm
      rw [hraised] at hcalm
      cases hcalm
    case isFalse =>
      apply ((probe_mirrors P c url).follows w hw).bind
      · rintro (_ | (reason | reason) | _)
        · apply Session.keeps_pure
        · apply (suspend_mirrors c interval).keeps.bind
          rintro (_ | _)
          · exact hrest
          · apply Session.keeps_pure
        · apply Session.keeps_pure
        · exact fun _ hraised => hraised
      · rintro _ outcome w₁ rfl - hw₁ hprobe
        rcases outcome with (reason | reason) | _
        · apply ((suspend_mirrors c interval).follows w₁ hw₁).bind
          · rintro (_ | _)
            · exact hrest
            · apply Session.keeps_pure
          · rintro _ _ w₂ rfl - hw₂ hsuspend
            -- some time has passed, for which less patience is needed
            have hearlier := ((probe_does P c url w).of_ok hprobe).1.now_le
            have hlater := Session.now_of_elapsed hsuspend
            apply awaitFrom_follows P c url hinterval patience (probes + 1) w₂ hw₂
            omega
        · apply (Session.mirrors_pure (Waits.malformed _)).follows w₁ hw₁
        · have htell : Session.Mirrors c Waits (do
              Session.tell (σ := σ) (.reachable url (min (probes + 1) attemptLimit))
              return .ok (min (probes + 1) attemptLimit)) (pure (.ok (probes + 1))) :=
            .silent (Session.silent_tell _) fun _ => Session.mirrors_pure (.ok (probes + 1))
          apply htell.follows w₁ hw₁

/-- The patience is no limit: a wait that nothing disturbs has its result within it. -/
theorem awaitReady_mirrors (P : Ports σ) (c : Controls) (url : String) {interval : Nat}
    (hinterval : 0 < interval) :
  Session.Mirrors c Waits (awaitReady P c url interval)
    (awaitAnswer (some c.dropAt) P url interval).run
  := by
  use awaitFrom_keeps P c url interval (patience c) 0
  intro w hw
  have hwait := awaitFrom_follows P c url hinterval (patience c) 0 w hw (by rw [patience]; omega)
  rw [Nat.zero_min] at hwait
  apply Session.Ends.mono hwait
  · intro outcome w' hresult hcalm
    obtain ⟨hnow, outcome', houtcome, hrun⟩ := hresult hcalm
    use hnow, outcome', houtcome
    exact run_awaitAnswer_eq_some.mpr ⟨_, hrun⟩
  · intro k w' hresult hcalm
    exact run_awaitAnswer_eq_some.mpr ⟨_, hresult hcalm⟩

theorem await_mirrors (P : Ports σ) (c : Controls) (plan : Plan) (hinterval : 0 < plan.interval) :
  Mirrors c (await P c plan) (Sequential.await (some c.dropAt) P plan)
  := by
  rw [Mirrors, await, Sequential.await, Attempt.run_lift_bind, ExceptT.run_bind]
  apply Session.Mirrors.bind (awaitReady_mirrors P c plan.url hinterval)
  · rintro (fault | attempts)
    · apply Session.keeps_pure
    · apply Session.keeps_pure
  · rintro _ _ (probes | reason)
    · apply Session.mirrors_pure
      rfl
    · apply Session.mirrors_pure
      rfl

/-- The part of a run before its teardown. -/
theorem drive_mirrors (P : Ports σ) (c : Controls) (plan : Plan) (hinterval : 0 < plan.interval) :
  Mirrors c (drive P c plan) (Sequential.drive (some c.dropAt) P plan)
  := by
  have hbuild : Mirrors c (buildServices P c plan) (plan.services.forM fun service =>
      Sequential.command (some c.dropAt) P (plan.invocation service.build plan.buildPatch)
        (.buildFailed service.name)) := by
    apply Mirrors.silent (Session.silent_enter .building)
    intro _
    apply mirrors_forM
    intro service
    apply stage_mirrors
  have hlaunch : Mirrors c (launchServices P c plan)
      (plan.services.forM (Sequential.start P plan)) := by
    apply Mirrors.silent (Session.silent_enter .launching)
    intro _
    apply mirrors_forM (launchStep_mirrors P c plan)
  have htest : Mirrors c (testWorkspace P c plan)
      (Sequential.testWorkspace (some c.dropAt) P plan) := by
    rw [testWorkspace, Sequential.testWorkspace]
    split
    · apply Mirrors.silent (Session.silent_enter .workspaceTesting)
      intro _
      apply stage_mirrors
    · apply Mirrors.silent (g := pure) (Session.silent_tell .skippingWorkspace)
      intro _
      apply mirrors_pure
  have hawait : Mirrors c (awaitInstance P c plan)
      (Sequential.await (some c.dropAt) P plan) := by
    apply Mirrors.silent (Session.silent_enter .waitingReady)
    intro _
    apply Mirrors.silent (Session.silent_tell _)
    intro _
    apply await_mirrors P c plan hinterval
  have hintegrate : Mirrors c (testInstance P c plan)
      (Sequential.command (some c.dropAt) P
        (plan.invocation plan.integrationTest plan.integrationTestPatch)
        (.testsFailed .integrationTests)) := by
    apply Mirrors.silent (Session.silent_enter .integrationTesting)
    intro _
    apply stage_mirrors
  apply hbuild.bind
  intro _
  apply hlaunch.bind
  intro _
  apply htest.bind
  intro _
  apply hawait.bind
  intro attempts
  apply hintegrate.bind
  intro _
  apply mirrors_pure

/-! ### The teardown -/

/-- What is found first, and what is found after it. -/
def Teardown.followedBy (t t' : Teardown) : Teardown where
  stopped := t.stopped ++ t'.stopped
  alreadyExited := t.alreadyExited ++ t'.alreadyExited
  failed := t.failed ++ t'.failed

/-- What is found of a handle stands before what is found of the others. -/
theorem followedBy_report_cons (t : Teardown) (h : Handle)
    (answer : Except ProcessFault SignalOutcome)
    (answers : List (Handle × Except ProcessFault SignalOutcome)) :
  t.followedBy (Sequential.report ((h, answer) :: answers))
    = (t.add h answer).followedBy (Sequential.report answers)
  := by
  rcases answer with fault | (_ | _)
  all_goals simp [Teardown.followedBy, Teardown.add, Sequential.report, Except.toOption]

/-- Interrupting a service that leaves the signal not raised. -/
theorem stop_calm (P : Ports σ) (h : Handle) (w : World σ) (held : List Handle)
    (hcalm : (stop P c h w).2.raised = false) :
  w.raised = false ∧ (Sequential.interrupt P h).run { w.standing with handles := held }
    = some ((stop P c h w).1, { (stop P c h w).2.standing with handles := held })
  := by
  rw [stop] at hcalm ⊢
  dsimp only at hcalm ⊢
  generalize hreply : P.interrupt w.ports w.now h = reply at hcalm ⊢
  have hnotice : ∀ w' : World σ,
      ((answerNotice h reply.result).elim w' w'.tell).raised = w'.raised
        ∧ ((answerNotice h reply.result).elim w' w'.tell).standing = w'.standing := by
    intro w'
    cases answerNotice h reply.result with
    | none => exact ⟨rfl, rfl⟩
    | some n => exact ⟨rfl, w'.standing_tell n⟩
  rw [(hnotice _).1] at hcalm
  rw [(hnotice _).2]
  have hsame := World.raiseIf_of_calm hcalm
  rw [hsame] at hcalm ⊢
  use hcalm
  rw [World.standing_interrupt, World.standing_tell, ← hreply]
  rfl

/-- Interrupting services that leave the signal not raised. -/
theorem stopAll_calm (P : Ports σ) (held : List Handle) :
    ∀ (handles : List Handle) (t : Teardown) (w : World σ),
      (stopAll P c handles t w).2.raised = false → w.raised = false ∧ ∃ answers,
        (handles.mapM (Sequential.interrupt P)).run { w.standing with handles := held }
          = some (answers, { (stopAll P c handles t w).2.standing with handles := held })
        ∧ (stopAll P c handles t w).1 = t.followedBy (Sequential.report (handles.zip answers))
  | [], t, w, hcalm => by
    use hcalm, []
    constructor
    · rfl
    · simp [stopAll, Teardown.followedBy, Sequential.report]
  | h :: rest, t, w, hcalm => by
    obtain ⟨hcalm', answers, hrun, hreport⟩ := stopAll_calm P held rest (t.add h (stop P c h w).1)
      (stop P c h w).2 hcalm
    obtain ⟨hcalm, hstop⟩ := stop_calm P h w held hcalm'
    use hcalm, (stop P c h w).1 :: answers
    constructor
    · rw [List.mapM_cons, StateT.run_bind, hstop, Option.bind_eq_bind, Option.bind_some,
        StateT.run_bind, hrun]
      rfl
    · rw [List.zip_cons_cons, followedBy_report_cons]
      apply hreport

/-- A teardown that leaves the signal not raised. -/
theorem teardownWorld_calm (P : Ports σ) {w : World σ}
    (hcalm : (teardownWorld P c w).2.raised = false) :
  w.raised = false ∧ (Sequential.teardown P).run w.standing
    = some ((teardownWorld P c w).1, (teardownWorld P c w).2.standing)
  := by
  obtain ⟨hcalm', answers, hrun, hreport⟩ := stopAll_calm P w.live w.live {} w hcalm
  have hlive := live_teardownWorld P c w
  use hcalm'
  rw [Sequential.teardown]
  rw [StateT.run_bind, StateT.run_get, Option.pure_def, Option.bind_eq_bind, Option.bind_some,
    StateT.run_bind]
  change (StateT.run (w.live.mapM (Sequential.interrupt P))
    { w.standing with handles := w.live } >>= _) = _
  rw [hrun, Option.bind_eq_bind, Option.bind_some]
  change some (Sequential.report (w.live.zip answers),
    { (teardownWorld P c w).2.standing with handles := [] })
      = some ((stopAll P c w.live {} w).1, (teardownWorld P c w).2.standing)
  rw [hreport, ← hlive]
  rfl

theorem teardown_mirrors (P : Ports σ) :
  Session.Mirrors c Eq (teardown P c) (liftM (Sequential.teardown P))
  := by
  use Session.keeps_of_does (teardown_does P)
  intro w hw hcalm
  have hnow : (teardownWorld P c w).2.now ≤ c.dropAt := by
    have hle := (stopAll_moves (c := c) P w.live {} w rfl).1.now_le_max
    exact hle.trans (Nat.max_le.mpr ⟨hw, Nat.le_refl _⟩)
  exact ⟨hnow, _, rfl, run_lift_eq_some.mpr ⟨_, (teardownWorld_calm P hcalm).2, rfl⟩⟩

/-- A run that is given up interrupts its services as one that comes to its end does. -/
theorem abandon_calm (P : Ports σ) {w : World σ} (hcalm : (abandon P c w).raised = false) :
  w.raised = false ∧ ∃ t, (Sequential.teardown P).run w.standing
    = some (t, (abandon P c w).standing)
  := by
  rw [abandon] at hcalm ⊢
  split at hcalm
  case isTrue hlive =>
    rw [if_pos hlive]
    use hcalm, {}
    have hhandles : w.standing.handles = [] := List.isEmpty_iff.mp hlive
    rw [Sequential.teardown, StateT.run_bind, StateT.run_get, Option.pure_def,
      Option.bind_eq_bind, Option.bind_some, hhandles]
    change some (Sequential.report [], { w.standing with handles := [] }) = some ({}, w.standing)
    rw [← hhandles]
    rfl
  case isFalse hlive =>
    rw [if_neg hlive]
    obtain ⟨hcalm', hrun⟩ := teardownWorld_calm P hcalm
    rw [World.standing_tell] at hrun
    exact ⟨hcalm', _, hrun⟩

/-! ### Whole runs -/

/-- The verdict on a run that was not cut short. -/
def verdictOf : Except RunFault Summary → Verdict
  | .ok summary => .passed summary
  | .error fault => .failed fault

/-- What follows a run goes by what its teardown finds. -/
theorem run_finish {P : Ports σ} {runId : String} {p p' : Standing σ} {t : Teardown}
    (h : (Sequential.teardown P).run p = some (t, p'))
    (outcome : Except Cut (Except RunFault Nat)) :
  (Sequential.finish P runId outcome).run p = some (match outcome with
    | .error cut => .cut cut
    | .ok (.error fault) => .failed fault
    | .ok (.ok attempts) => .passed ⟨runId, p.handles.map Handle.name, attempts, t⟩, p')
  := by
  rw [finish, StateT.run_bind, StateT.run_get, Option.pure_def, Option.bind_eq_bind,
    Option.bind_some, StateT.run_bind, h, Option.bind_eq_bind, Option.bind_some]
  rcases outcome with k | fault | attempts
  · rfl
  · rfl
  · rfl

/-- The teardown with its phases, and what is made of what it finds. -/
theorem closing_mirrors (P : Ports σ) {g : Teardown → Session σ (Except RunFault Summary)}
    {f : Teardown → Except RunFault Summary}
    (hg : ∀ t, Session.Mirrors c (fun result t => result = f t) (g t) (pure t)) :
  Session.Mirrors c (fun result t => result = f t)
    (do
      Session.enter .teardown
      let t ← teardown P c
      Session.enter .done
      g t)
    (liftM (Sequential.teardown P))
  := by
  rw [← bind_pure (liftM (Sequential.teardown P))]
  apply Session.Mirrors.silent (Session.silent_enter .teardown)
  intro _
  apply Session.Mirrors.bindTotal (teardown_mirrors P) (fun t => ⟨t, rfl⟩)
  rintro t _ rfl
  apply Session.Mirrors.silent (Session.silent_enter .done)
  intro _
  apply hg t

/-- A run that is begun in a world, followed to its verdict or to where it is cut short. -/
theorem guarded_follows (P : Ports σ) (c : Controls) (plan : Plan) (runId : String)
    (hinterval : 0 < plan.interval) (w : World σ) (hw : w.now ≤ c.dropAt) :
  Session.Ends (guarded P c plan runId) w
    (fun result w' => w'.raised = false →
      (Sequential.perform P plan runId (some c.dropAt)).run w.standing
        = some (verdictOf result, w'.standing))
    (fun k w' => w'.raised = false →
      (Sequential.drive (some c.dropAt) P plan).run.run.run w.standing
        = some (.error k, w'.standing))
  := by
  have hstanding := w.standing_tell (.runStarted plan.services.length)
  have hdrive := (drive_mirrors P c plan hinterval).follows
    (w.tell (.runStarted plan.services.length)) hw
  rw [Session.Follows, hstanding] at hdrive
  rw [guarded, Session.ends_bind, Session.ends_tell, Session.ends_bind]
  apply Session.Ends.mono hdrive
  · intro outcome w₁ hdriven
    rw [Session.ends_bind, Session.ends_get]
    -- what follows makes of the teardown what `finish` makes of it
    have hrest : ∀ {rest : Session σ (Except RunFault Summary)}
        {f : Teardown → Except RunFault Summary},
        Session.Mirrors c (fun result t => result = f t) rest (liftM (Sequential.teardown P)) →
        (∀ t p', (Sequential.teardown P).run w₁.standing = some (t, p') →
          (finish P runId (.ok outcome)).run w₁.standing = some (verdictOf (f t), p')) →
        Session.Ends rest w₁
          (fun result w' => w'.raised = false →
            (Sequential.perform P plan runId (some c.dropAt)).run w.standing
              = some (verdictOf result, w'.standing))
          (fun k w' => w'.raised = false →
            (Sequential.drive (some c.dropAt) P plan).run.run.run w.standing
              = some (.error k, w'.standing)) := by
      intro rest f hmirrors hf
      cases hraised : w₁.raised with
      | true => apply hmirrors.keeps.vacuous hraised
      | false =>
        obtain ⟨hnow, _, rfl, hrun⟩ := hdriven hraised
        apply Session.Ends.mono (hmirrors.follows w₁ hnow)
        · intro result w' h hcalm
          obtain ⟨-, t, rfl, hteardown⟩ := h hcalm
          obtain ⟨_, hteardown, ⟨⟩⟩ := run_lift_eq_some.mp hteardown
          exact run_perform_eq_some.mpr ⟨_, _, hrun, hf t _ hteardown⟩
        · intro k w' h hcalm
          obtain ⟨_, -, ⟨⟩⟩ := run_lift_eq_some.mp (h hcalm)
    rcases outcome with fault | attempts
    · apply hrest (f := fun _ => .error fault)
      · dsimp only
        apply Session.Mirrors.silent (Session.silent_enter .failed)
        intro _
        apply Session.Mirrors.silent (Session.silent_tell _)
        intro _
        apply closing_mirrors P
        intro t
        apply Session.mirrors_pure
        rfl
      · intro t p' hteardown
        apply run_finish hteardown
    · apply hrest (f := fun t => .ok ⟨runId, w₁.live.map Handle.name, attempts, t⟩)
      · dsimp only
        apply closing_mirrors P
        intro t
        apply Session.Mirrors.silent (Session.silent_tell _)
        intro _
        apply Session.mirrors_pure
        rfl
      · intro t p' hteardown
        apply run_finish hteardown
  · intro k w₁ hcut
    exact hcut

/-- A run during which the signal is not raised begins without it. -/
theorem initial_of_calm {P : Ports σ} {c : Controls} {plan : Plan} {runId : String} {ports : σ}
    (hcalm : (perform P c plan runId ports).world.raised = false) :
  World.initial c ports = World.fresh ports
  := by
  rw [World.initial]
  split
  case isTrue hsender =>
    have hraised : (perform P c plan runId ports).world.raised = true := by
      apply (perform_moves P c plan runId ports).raised
      rw [World.initial, if_pos hsender]
      apply World.raised_trip
    rw [hraised] at hcalm
    cases hcalm
  case isFalse => rfl

/-- A run of a plan without defects during which the signal is not raised is the sequential run that
is given up when the caller drops it. -/
theorem perform_follows (P : Ports σ) (c : Controls) {plan : Plan} (runId : String) (ports : σ)
    (hplan : plan.defect? = none)
    (hcalm : (perform P c plan runId ports).world.raised = false) :
  (Sequential.perform P plan runId (some c.dropAt)).run { ports := ports }
    = some ((perform P c plan runId ports).verdict, (perform P c plan runId ports).world.standing)
  := by
  have hinitial := initial_of_calm hcalm
  revert hcalm
  apply perform_of_guarded (R := fun verdict w => w.raised = false →
    (Sequential.perform P plan runId (some c.dropAt)).run { ports := ports }
      = some (verdict, w.standing)) hplan
  have hguarded := guarded_follows P c plan runId (interval_pos hplan) (World.fresh ports)
    (Nat.zero_le _)
  rw [hinitial]
  apply Session.Ends.mono hguarded
  · intro result w hresult
    constructor
    · rintro summary rfl
      exact hresult
    · rintro fault rfl
      exact hresult
  · intro k w hcut hcalm
    obtain ⟨hcalm, t, hteardown⟩ := abandon_calm P hcalm
    exact run_perform_eq_some.mpr ⟨_, _, hcut hcalm, run_finish hteardown _⟩

/-- A run of a valid plan during which the signal is not raised is the sequential run that is given up
at the instant at which the caller drops it: it makes the same calls, takes as long, leaves the ports
in the same state and has the same verdict.  Unless it was dropped, it is the sequential run that is
not given up; and what that comes to by the time of the drop, the run comes to.  Where neither the
ports nor the sender raises the signal, it is not raised. -/
theorem perform_sequential (h : Harness σ) (P : Ports σ) (c : Controls) (plan : Plan)
    (runId : String) (hplan : plan.validate = .ok ()) :
  let r := (h.perform P c plan runId).1
  let standing : Standing σ := {
    ports := r.world.ports
    now := r.world.now
    handles := []
    calls := Trace.calls r.world.events }
  (r.world.raised = false →
      Sequential.perform P plan runId (some c.dropAt) { ports := h.ports }
        = some (r.verdict, standing)
      ∧ (r.verdict ≠ .cut .dropped →
        Sequential.perform P plan runId none { ports := h.ports } = some (r.verdict, standing))
      ∧ ∀ verdict p, Sequential.perform P plan runId none { ports := h.ports } = some (verdict, p) →
        p.now ≤ c.dropAt → r.verdict = verdict ∧ standing = p)
    ∧ (P.Mute → c.Mute → r.world.raised = false)
  := by
  intro r standing
  have hdefect := validate_eq_ok_iff.mp hplan
  constructor
  · intro hcalm
    have hlive : r.world.live = [] := live_perform P c plan runId h.ports
    have hstanding : r.world.standing = standing := by
      rw [World.standing, hlive]
    have hlimit : Sequential.perform P plan runId (some c.dropAt) { ports := h.ports }
        = some (r.verdict, standing) := by
      rw [← hstanding]
      apply perform_follows P c runId h.ports hdefect hcalm
    use hlimit
    constructor
    · intro hverdict
      apply perform_of_not_dropped hlimit hverdict
    · intro verdict p hnone hnow
      have hreached := perform_of_reached hnone hnow
      cases hlimit.symm.trans hreached
      exact ⟨rfl, rfl⟩
  · intro hP hc
    apply perform_mute hP hc

/-- Ports on which the first probe is refused and the integration tests take a given course;
everything else succeeds at once. -/
def refusingOnce (integration : Nat → Activity Nat (Except ProcessFault Completion)) : Ports Nat where
  execute s _ i :=
    if i.command = ({} : Plan).integrationTest then integration s else .finish s (.ok ⟨0, 1⟩)
  launch s _ service _ := { state := s, result := .ok ⟨service, 1000⟩ }
  interrupt s _ _ := { state := s, result := .ok .delivered }
  probe s _ _ :=
    if s = 0 then .finish 1 (.error (.notReady "Connection refused")) else .finish s (.ok ())

theorem mute_refusingOnce {integration : Nat → Activity Nat (Except ProcessFault Completion)}
    (h : ∀ s, (integration s).Mute) :
  (refusingOnce integration).Mute
  := by
  constructor
  case execute =>
    intro s t i
    change (if _ then _ else _ : Activity Nat _).Mute
    split
    · apply h
    · trivial
  case launch => exact fun _ _ _ _ => rfl
  case interrupt => exact fun _ _ _ => rfl
  case probe =>
    intro s t url
    change (if _ then _ else _ : Activity Nat _).Mute
    split
    · trivial
    · trivial

/-- A run whose integration tests fail, and one whose integration tests hang until the run is
dropped. -/
theorem perform_sequential_integration :
  (Sequential.perform (refusingOnce fun s => .pause 5 s (.finish s (.ok ⟨3, 5⟩))) {} "run-1" none
      { ports := 0 }).map (fun (verdict, p) => (verdict, p.now, p.calls.drop 15))
    = some (.failed (.testsFailed .integrationTests 3), 1005, [
      .executing ({} : Plan).integrationTestInvocation, .executed (.ok ⟨3, 5⟩),
      .interrupted ⟨"oprish", 1000⟩ (.ok .delivered),
      .interrupted ⟨"pandemonium", 1000⟩ (.ok .delivered),
      .interrupted ⟨"effis", 1000⟩ (.ok .delivered)])
    ∧ (Sequential.perform (refusingOnce .hang) {} "run-1" (some 2000)
      { ports := 0 }).map (fun (verdict, p) => (verdict, p.now, p.calls.drop 15))
    = some (.cut .dropped, 2000, [
      .executing ({} : Plan).integrationTestInvocation,
      .interrupted ⟨"oprish", 1000⟩ (.ok .delivered),
      .interrupted ⟨"pandemonium", 1000⟩ (.ok .delivered),
      .interrupted ⟨"effis", 1000⟩ (.ok .delivered)])
  := by
  have hplan : ({} : Plan).validate = .ok () := validate_eq_ok_iff.mpr (by decide +kernel)
  have hc : Controls.Mute { dropAt := 2000 } := fun _ hsender => nomatch hsender
  constructor
  · obtain ⟨hfollows, hcalm⟩ := perform_sequential { ports := 0 }
      (refusingOnce fun s => .pause 5 s (.finish s (.ok ⟨3, 5⟩))) { dropAt := 2000 } {} "run-1" hplan
    obtain ⟨-, hnone, -⟩ := hfollows (hcalm (mute_refusingOnce fun _ => trivial) hc)
    rw [hnone (by decide +kernel)]
    decide +kernel
  · obtain ⟨hfollows, hcalm⟩ := perform_sequential { ports := 0 } (refusingOnce .hang)
      { dropAt := 2000 } {} "run-1" hplan
    obtain ⟨hlimit, -⟩ := hfollows (hcalm (mute_refusingOnce fun _ => trivial) hc)
    rw [hlimit]
    decide +kernel

end Run

end ServiceHarness
