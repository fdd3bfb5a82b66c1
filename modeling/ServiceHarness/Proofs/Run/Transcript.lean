import ServiceHarness.Proofs.Run.Driving
import ServiceHarness.Proofs.Session.Course
import ServiceHarness.Proofs.Session.Standing

/-!
# What the ports of a run are asked

The calls of a run are what its ports were asked, with their answers: each was made in the state and
at the instant in which the one before it had left the ports.  A standing is `Answered` if every call
came to its end.  The `Transcript` of a run may go on with one command or probe that was given up, or
with a pause that was, and then with interrupts.  Neither mentions how a run proceeds.
`perform_transcribed` says that every run leaves a transcript, however it ends.
-/

namespace ServiceHarness

variable {σ α : Type} {c : Controls} {w : World σ}

/-! ### Calls that take their course -/

/-- From one standing to the other a call takes its course to the outcome, with the events. -/
def Completes (activity : σ → Nat → Activity σ α) (a : α) (events : List Event)
    (p p' : Standing σ) : Prop :=
  ∃ s t, (activity p.ports p.now).course none p.now = some (.ok a, s, t)
    ∧ p' = { p with ports := s, now := t, calls := p.calls ++ events }

/-- From one standing to the other a call is begun, with the event, and is given up. -/
def Abandons (activity : σ → Nat → Activity σ α) (begun : Event) (p p' : Standing σ) : Prop :=
  ∃ s t, (activity p.ports p.now).Stands p.now s t
    ∧ p' = { p with ports := s, now := t, calls := p.calls ++ [begun] }

namespace Session

/-- An activity that is played takes its course, or is given up. -/
theorem play_ends (c : Controls) (activity : Activity σ α) (w : World σ) :
  Ends (play c activity) w
    (fun outcome w' => match outcome with
      | some a => ∃ s t, activity.course none w.now = some (.ok a, s, t)
        ∧ w'.standing = { w.standing with ports := s, now := t }
      | none => ∃ s t, activity.Stands w.now s t
        ∧ w'.standing = { w.standing with ports := s, now := t })
    (fun _ w' => ∃ s t, activity.Stands w.now s t
      ∧ w'.standing = { w.standing with ports := s, now := t })
  := by
  induction activity generalizing w with
  | finish s outcome => exact ⟨s, w.now, rfl, rfl⟩
  | hang s =>
    rw [play, ends_bind, ends_modify, ends_bind]
    apply Ends.mono (suspend_ends c none _)
    · rintro (_ | _) w' hwake
      · obtain ⟨-, d, hd, -⟩ := hwake
        cases hd
      · obtain ⟨-, t, hle, -, rfl⟩ := hwake
        exact ⟨s, t, .hang s hle, World.standing_trip _⟩
    · rintro _ w' ⟨-, -, rfl⟩
      exact ⟨s, max w.now c.dropAt, .hang s (Nat.le_max_left _ _), rfl⟩
  | panic s => exact ⟨s, w.now, .panic s w.now, rfl⟩
  | raise rest ih =>
    rw [play, ends_bind, ends_modify]
    have hrest := ih (w.raiseIf true c)
    rw [World.now_raiseIf, World.standing_raiseIf] at hrest
    apply Ends.mono hrest
    · rintro (_ | a) w' ⟨s, t, h, hstanding⟩
      · exact ⟨s, t, .raised h, hstanding⟩
      · exact ⟨s, t, h, hstanding⟩
    · rintro _ w' ⟨s, t, h, hstanding⟩
      exact ⟨s, t, .raised h, hstanding⟩
  | pause millis s rest ih =>
    rw [play, ends_bind, ends_modify, ends_bind]
    apply Ends.mono (suspend_ends c (some millis) _)
    · rintro (_ | _) w' hwake
      · obtain ⟨-, _, ⟨⟩, rfl, -⟩ := hwake
        apply Ends.mono (ih _)
        · rintro (_ | a) w'' ⟨s', t, h, hstanding⟩
          · exact ⟨s', t, .paused h, hstanding⟩
          · exact ⟨s', t, h, hstanding⟩
        · rintro _ w'' ⟨s', t, h, hstanding⟩
          exact ⟨s', t, .paused h, hstanding⟩
      · obtain ⟨-, t, hle, hlimit, rfl⟩ := hwake
        exact ⟨s, t, .pause s rest hle (hlimit millis rfl), World.standing_trip _⟩
    · rintro _ w' ⟨-, hlate, rfl⟩
      have hlate : c.dropAt < w.now + millis := hlate millis rfl
      use s, max w.now c.dropAt
      constructor
      · apply Activity.Stands.pause s rest (Nat.le_max_left _ _)
        omega
      · rfl

/-- A race makes no call, or one that takes its course to the outcome or is given up. -/
theorem race_ends (c : Controls) {begin : Session σ (Activity σ α)} {begun : Event}
    {activity : σ → Nat → Activity σ α} {e : α → Event} (hbegin : Begins begin begun activity)
    (he : ∀ a, (e a).isCall = true) (w : World σ) :
  Ends (race c begin >>= conclude e) w
    (fun outcome w' => match outcome with
      | some a => Completes activity a [begun, e a] w.standing w'.standing
      | none => w'.standing = w.standing ∨ Abandons activity begun w.standing w'.standing)
    (fun _ w' => Abandons activity begun w.standing w'.standing)
  := by
  rw [race, ends_bind, ends_bind, ends_isRaised]
  split
  case isTrue => exact .inl rfl
  case isFalse =>
    rw [ends_bind]
    apply Ends.mono (hbegin w)
    · rintro _ w₁ ⟨rfl, -, hstanding⟩
      have hnow : w₁.now = w.now := congrArg Standing.now hstanding
      have hplay := play_ends c (activity w.ports w.now) w₁
      rw [hnow, hstanding] at hplay
      apply Ends.mono hplay
      · rintro (_ | a) w₂ ⟨s, t, h, hstanding'⟩
        · exact .inr ⟨s, t, h, hstanding'⟩
        · use s, t, h
          rw [World.standing_record _ (he a), hstanding']
          simp
      · intro _ w₂ h
        exact h
    · intro _ _ hcut
      exact hcut.elim

end Session

namespace Run

/-! ### Transcripts -/

/-- From the start to a standing every call has come to its end: a command, a launch, a probe with a
pause of the interval if it finds the instance not ready. -/
inductive Answered (P : Ports σ) (interval : Nat) (start : Standing σ) : Standing σ → Prop where
  /-- Nothing has been asked. -/
  | start : Answered P interval start start
  /-- A command is executed. -/
  | executed {p p' : Standing σ} (h : Answered P interval start p) (i : Invocation)
      {result : Except ProcessFault Completion}
      (hcall : Completes (P.execute · · i) result [.executing i, .executed result] p p') :
    Answered P interval start p'
  /-- A service is launched, and its handle is held if there is one. -/
  | launched {p : Standing σ} (h : Answered P interval start p) (service : String) (i : Invocation)
      {reply : Reply σ Handle} (hreply : P.launch p.ports p.now service i = reply) :
    Answered P interval start { p with
      ports := reply.state
      handles := p.handles ++ reply.result.toOption.toList
      calls := p.calls ++ [.launched service i reply.result] }
  /-- A probe finds the instance not ready, and the interval passes. -/
  | refused {p p' : Standing σ} (h : Answered P interval start p) (url : String) {reason : String}
      (hcall : Completes (P.probe · · url) (.error (.notReady reason))
        [.probing url, .probed (.error (.notReady reason))] p p') :
    Answered P interval start { p' with now := p'.now + interval }
  /-- A probe finds the instance ready, or the target malformed. -/
  | probed {p p' : Standing σ} (h : Answered P interval start p) (url : String)
      {result : Except ProbeFault Unit} (hresult : ∀ reason, result ≠ .error (.notReady reason))
      (hcall : Completes (P.probe · · url) result [.probing url, .probed result] p p') :
    Answered P interval start p'

/-- From the start to a standing every call has come to its end, apart from one that may be given up
last; and some of the handles that are held have then been interrupted, the first ones first. -/
inductive Transcript (P : Ports σ) (interval : Nat) (start : Standing σ) : Standing σ → Prop where
  /-- Nothing has been given up. -/
  | answered {p : Standing σ} (h : Answered P interval start p) : Transcript P interval start p
  /-- A command has been given up. -/
  | executing {p p' : Standing σ} (h : Answered P interval start p) (i : Invocation)
      (hcall : Abandons (P.execute · · i) (.executing i) p p') :
    Transcript P interval start p'
  /-- A probe has been given up. -/
  | probing {p p' : Standing σ} (h : Answered P interval start p) (url : String)
      (hcall : Abandons (P.probe · · url) (.probing url) p p') :
    Transcript P interval start p'
  /-- The pause after a probe has been given up. -/
  | pausing {p p' : Standing σ} (h : Answered P interval start p) (url : String) {reason : String}
      (hcall : Completes (P.probe · · url) (.error (.notReady reason))
        [.probing url, .probed (.error (.notReady reason))] p p') {t : Nat} (ht : p'.now ≤ t)
      (hinterval : t ≤ p'.now + interval) :
    Transcript P interval start { p' with now := t }
  /-- The first of the handles is interrupted, and let go. -/
  | interrupted {p : Standing σ} (h : Transcript P interval start p) {handle : Handle}
      {rest : List Handle} (hheld : p.handles = handle :: rest) {reply : Reply σ SignalOutcome}
      (hreply : P.interrupt p.ports p.now handle = reply) :
    Transcript P interval start { p with
      ports := reply.state
      handles := rest
      calls := p.calls ++ [.interrupted handle reply.result] }

variable {P : Ports σ} {interval : Nat} {start : Standing σ}

/-! ### The steps of a run -/

theorem begin_begins (P : Ports σ) (n : Notice) (i : Invocation) :
  Session.Begins (begin P n i) (.executing i) (P.execute · · i)
  := by
  intro w
  use rfl, rfl
  change ((w.tell n).record (.executing i)).standing = _
  rw [World.standing_record _ rfl, World.standing_tell]

theorem beginProbe_begins (P : Ports σ) (url : String) :
  Session.Begins (beginProbe P url) (.probing url) (P.probe · · url)
  := fun w => ⟨rfl, rfl, w.standing_record rfl⟩

/-- A silent session maintains what is said of the standing. -/
theorem maintains_of_silent {R : Standing σ → Prop} {K : World σ → Prop} {m : Session σ α}
    (h : m.Silent) :
  Session.Maintains (fun w => R w.standing) K m
  := by
  intro w hw
  apply Session.Ends.mono (h w)
  · rintro _ w' ⟨hstanding, -⟩
    rw [hstanding]
    exact hw
  · intro _ _ hcut
    exact hcut.elim

/-- A stage executes its command, unless the signal comes first. -/
theorem stage_transcribed (P : Ports σ) (c : Controls) (phase : Phase) (n : Notice) (i : Invocation)
    (failure : Int → RunFault) :
  Attempt.Maintains (fun w => Answered P interval start w.standing)
    (fun _ w => Transcript P interval start w.standing)
    (fun w => Transcript P interval start w.standing) (stage P c phase n i failure)
  := by
  intro w hw
  rw [stage, Attempt.ends_bind, Attempt.ends_lift]
  apply Session.Ends.mono (Session.race_ends c (begin_begins P n i) (fun _ => rfl) w)
  · rintro (_ | fault | completion) w' h
    · obtain hsame | hcall := h
      · change Transcript P interval start w'.standing
        rw [hsame]
        exact .answered hw
      · exact .executing hw i hcall
    · exact .answered (.executed hw i h)
    · have hanswered : Answered P interval start w'.standing := .executed hw i h
      dsimp only
      split
      · exact hanswered
      · rw [Attempt.ends_bind, Attempt.ends_lift, Session.ends_isRaised]
        split
        · exact .answered hanswered
        · exact .answered hanswered
  · intro _ w' hcall
    exact .executing hw i hcall

/-- A launch asks the launcher once. -/
theorem launch_answered (P : Ports σ) (c : Controls) (plan : Plan) (service : Service)
    (hw : Answered P interval start w.standing) :
  Session.Ends (launch P c plan service) w (fun _ w' => Answered P interval start w'.standing)
    (fun _ _ => False)
  := by
  rw [launch]
  simp only [Session.ends_bind, Session.ends_tell, Session.ends_get, Session.ends_modify]
  generalize hreply : P.launch _ _ service.name (plan.runInvocation service) = reply
  have hlaunched : Answered P interval start (((w.tell (.starting service.name)).launch service.name
      (plan.runInvocation service) reply).raiseIf reply.raises c).standing := by
    rw [World.standing_raiseIf, World.standing_launch, World.standing_tell]
    exact .launched hw service.name (plan.runInvocation service) hreply
  split
  · exact hlaunched
  · rw [Session.ends_bind, Session.ends_tell, Session.ends_pure, World.standing_tell]
    exact hlaunched

theorem launchStep_transcribed (P : Ports σ) (c : Controls) (plan : Plan) (service : Service) :
  Attempt.Maintains (fun w => Answered P interval start w.standing)
    (fun _ w => Transcript P interval start w.standing)
    (fun w => Transcript P interval start w.standing) (launchStep P c plan service)
  := by
  intro w hw
  rw [launchStep, Attempt.ends_bind, Attempt.ends_lift, Session.ends_isRaised]
  split
  case isTrue => exact .answered hw
  case isFalse =>
    rw [Attempt.ends_bind, Attempt.ends_lift]
    apply Session.Ends.mono (launch_answered P c plan service hw)
    · rintro (fault | pid) w' hw'
      · exact .answered hw'
      · exact hw'
    · intro _ _ hcut
      exact hcut.elim

/-- The wait probes until it is given up, with a pause after each probe that finds the instance not
ready. -/
theorem awaitFrom_transcribed (P : Ports σ) (c : Controls) (url : String) (interval : Nat) :
    ∀ (patience attempts : Nat) (w : World σ), Answered P interval start w.standing →
      Session.Ends (awaitFrom P c url interval patience attempts) w
        (fun result w' => match result with
          | .ok _ => Answered P interval start w'.standing
          | .error _ => Transcript P interval start w'.standing)
        (fun _ w' => Transcript P interval start w'.standing)
  | 0, _, _, hw => .answered hw
  | patience + 1, attempts, w, hw => by
    rw [awaitFrom, Session.ends_bind, Session.ends_isRaised]
    split
    case isTrue => exact .answered hw
    case isFalse =>
      rw [Session.ends_bind]
      apply Session.Ends.mono
        (Session.race_ends c (beginProbe_begins P url) (fun _ => rfl) w)
      · rintro (_ | (reason | reason) | _) w' h
        · obtain hsame | hcall := h
          · change Transcript P interval start w'.standing
            rw [hsame]
            exact .answered hw
          · exact .probing hw url hcall
        · dsimp only
          rw [Session.ends_bind]
          apply Session.Ends.mono (Session.suspend_ends c (some interval) w')
          · rintro (_ | _) w'' hwake
            · obtain ⟨-, _, ⟨⟩, rfl, -⟩ := hwake
              apply awaitFrom_transcribed P c url interval patience
              exact .refused hw url h
            · obtain ⟨-, t, ht, hlimit, rfl⟩ := hwake
              rw [Session.ends_pure, World.standing_trip]
              exact .pausing hw url h ht (hlimit interval rfl)
          · rintro _ w'' ⟨-, hlate, rfl⟩
            have hlate : c.dropAt < w'.now + interval := hlate interval rfl
            apply Transcript.pausing hw url h (t := max w'.now c.dropAt)
            · apply Nat.le_max_left
            · change max w'.now c.dropAt ≤ w'.now + interval
              omega
        · exact .answered (.probed hw url (by simp) h)
        · rw [Session.ends_bind, Session.ends_tell, Session.ends_pure, World.standing_tell]
          exact .probed hw url (by simp) h
      · intro _ w' hcall
        exact .probing hw url hcall

/-- The part of a run before its teardown leaves a transcript, and what it succeeds with has been
answered. -/
theorem drive_transcribed (P : Ports σ) (c : Controls) (plan : Plan) :
  Attempt.Maintains (fun w => Answered P plan.interval start w.standing)
    (fun _ w => Transcript P plan.interval start w.standing)
    (fun w => Transcript P plan.interval start w.standing) (drive P c plan)
  := by
  apply drive_maintains_of_steps
  case henter =>
    intro p
    apply maintains_of_silent (Session.silent_enter p)
  case htell =>
    intro n _
    apply maintains_of_silent (Session.silent_tell n)
  case hstage =>
    intro phase n i failure _ _
    apply stage_transcribed
  case hlaunch => apply launchStep_transcribed
  case hawait =>
    intro w hw
    rw [await, Attempt.ends_bind, Attempt.ends_lift]
    apply Session.Ends.mono
      (awaitFrom_transcribed P c plan.url plan.interval (patience c) 0 w hw)
    · rintro (fault | attempts) w' hw'
      · exact hw'
      · exact hw'
    · intro _ _ hw'
      exact hw'

/-! ### Whole runs -/

/-- The first live service is interrupted. -/
theorem stop_transcribed (hw : Transcript P interval start w.standing) {handle : Handle}
    {rest : List Handle} (hlive : w.live = handle :: rest) :
  Transcript P interval start (stop P c handle w).2.standing
  := by
  rw [stop]
  dsimp only
  generalize hreply : P.interrupt w.ports w.now handle = reply
  have hnotice : ∀ (w' : World σ) (notice : Option Notice),
      (notice.elim w' w'.tell).standing = w'.standing := by
    intro w' notice
    cases notice with
    | none => rfl
    | some n => apply w'.standing_tell
  have htail : (w.tell (.stopping handle.name handle.pid)).live.tail = rest := by
    change w.live.tail = rest
    rw [hlive]
    rfl
  rw [hnotice, World.standing_raiseIf, World.standing_interrupt, World.standing_tell, htail]
  exact .interrupted hw hlive hreply

theorem stopAll_transcribed :
    ∀ (handles : List Handle) (t : Teardown) (w : World σ),
      Transcript P interval start w.standing → w.live = handles →
      Transcript P interval start (stopAll P c handles t w).2.standing
  | [], _, _, hw, _ => hw
  | handle :: rest, t, w, hw, hlive =>
    stopAll_transcribed rest (t.add handle (stop P c handle w).1) (stop P c handle w).2
      (stop_transcribed hw hlive) (stop_moves P hlive).2.2

/-- All runs on the same ports begin with the same standing. -/
theorem standing_initial (c : Controls) (ports : σ) :
  (World.initial c ports).standing = { ports := ports }
  := by
  rw [World.initial]
  split
  · apply World.standing_trip
  · rfl

theorem standing_started (c : Controls) (plan : Plan) (ports : σ) :
  (started c plan ports).standing = { ports := ports }
  := by
  rw [started, World.standing_tell, standing_initial]

/-- What the part of a run before its teardown has asked. -/
theorem driven_transcribed (P : Ports σ) (c : Controls) (plan : Plan) (ports : σ) :
  Attempt.Ends (drive P c plan) (started c plan ports)
    (fun _ w => Answered P plan.interval { ports := ports } w.standing)
    (fun _ w => Transcript P plan.interval { ports := ports } w.standing)
    (fun _ w => Transcript P plan.interval { ports := ports } w.standing)
  := by
  apply drive_transcribed
  rw [standing_started]
  exact .start

/-- Every run leaves a transcript of what its ports were asked, however it ends. -/
theorem perform_transcribed (P : Ports σ) (c : Controls) (plan : Plan) (runId : String) (ports : σ) :
  Transcript P plan.interval { ports := ports } (perform P c plan runId ports).world.standing
  := by
  apply perform_maintains (I := fun w => Transcript P plan.interval { ports := ports } w.standing)
  case htell =>
    intro n _
    apply maintains_of_silent (Session.silent_tell n)
  case hteardown =>
    intro w hw
    exact stopAll_transcribed w.live {} w hw rfl
  case henter =>
    intro p
    apply maintains_of_silent (Session.silent_enter p)
  case hinitial =>
    rw [standing_initial]
    exact .answered .start
  case hdrive =>
    apply Attempt.Ends.mono (driven_transcribed P c plan ports)
    · intro _ _ hw
      exact .answered hw
    · intro _ _ hw
      exact hw
    · intro _ _ hw
      exact hw

end Run

end ServiceHarness
