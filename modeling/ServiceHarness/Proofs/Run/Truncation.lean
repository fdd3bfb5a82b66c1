import ServiceHarness.Proofs.Run.Closing
import ServiceHarness.Proofs.Run.Conservation
import ServiceHarness.Proofs.Run.Transcript
import ServiceHarness.Proofs.Sequential.Refinement
import ServiceHarness.Proofs.Session.Abreast
import ServiceHarness.Scripted

/-!
# Runs that are cut short

A run whose signal is raised, or that is dropped, is compared with a run of the same plan on the
same ports that nothing disturbs.  What the first begins is a first part of what the second begins,
call by call, and the services that it interrupts are those that it launched in that part
(`perform_truncated`).  The part of a run before its teardown is steady, and that is put together
from its parts as it is made of them.
-/

namespace ServiceHarness.Run

open Session (Beside Roams)

variable {σ : Type} {c₀ c : Controls} {w₀ w : World σ}

/-! ### The parts of a run -/

/-- A command begins in the same way in two worlds that are abreast. -/
theorem begin_beside (P : Ports σ) (n : Notice) (i : Invocation) (habreast : w₀.Abreast w) :
  Beside c₀ ((begin P n i).run w₀) ((begin P n i).run w)
  := by
  change Beside c₀
    (.ok (P.execute w₀.ports w₀.now i) ((w₀.tell n).record (.executing i)))
    (.ok (P.execute w.ports w.now i) ((w.tell n).record (.executing i)))
  rw [habreast.ports, habreast.now]
  apply Beside.abreast
  apply (habreast.tell n).record rfl

theorem stage_steady (P : Ports σ) (phase : Phase) (n : Notice) (i : Invocation)
    (failure : Int → RunFault) :
  Attempt.Steady fun c => stage P c phase n i failure
  := by
  have hexecute : Session.Steady fun c =>
      Session.race c (begin P n i) >>= Session.conclude .executed := by
    apply Session.Steady.bind
    · apply Session.steady_race
      · intro c w hcalm
        apply (begin_does P n i hcalm).roams
      · intro c₀ w₀ w
        apply begin_beside P n i
    · apply Session.steady_conclude
      · intro result c w
        apply Move.executed
      · intro _
        rfl
  apply Attempt.Steady.liftBind hexecute
  rintro (_ | fault | completion)
  · apply Attempt.steady_throw
  · apply Attempt.steady_throw
  · dsimp only
    split
    case isTrue => apply Attempt.steady_pure
    case isFalse =>
      apply Attempt.steady_unlessRaised
      · exact fun _ _ => .refl
      · exact fun _ _ _ => .refl
      · apply (Attempt.steady_throw _).beside

/-- What follows the answer of the launcher. -/
def afterLaunch (c : Controls) (reply : Reply σ Handle) : Session σ (Except ProcessFault Nat) := do
  modify (World.raiseIf reply.raises c)
  match reply.result with
  | .error fault => return .error fault
  | .ok handle =>
    Session.tell (.launched handle.name handle.pid)
    return .ok handle.pid

theorem afterLaunch_steady (reply : Reply σ Handle) :
  Session.Steady fun c => afterLaunch c reply
  := by
  apply (Session.steady_raiseIf reply.raises).bind
  intro _
  split
  · apply Session.steady_pure
  · apply (Session.steady_tell _).bind
    intro _
    apply Session.steady_pure

/-- A launch takes what the launcher answers into the world and goes on from there. -/
theorem run_launch (P : Ports σ) (c : Controls) (plan : Plan) (service : Service)
    {reply : Reply σ Handle}
    (h : P.launch w.ports w.now service.name (plan.runInvocation service) = reply) :
  (launch P c plan service).run w = (afterLaunch c reply).run
    ((w.tell (.starting service.name)).launch service.name (plan.runInvocation service) reply)
  := by
  subst h
  rfl

/-- A service is launched in the same way in two worlds that are abreast. -/
theorem launch_beside (P : Ports σ) (plan : Plan) (service : Service) (hw₀ : w₀.Orderly c₀)
    (hw : w.Orderly c) (habreast : w₀.Abreast w) :
  Beside c₀ ((launch P c₀ plan service).run w₀) ((launch P c plan service).run w)
  := by
  rw [run_launch P c₀ plan service rfl, run_launch P c plan service rfl, habreast.ports,
    habreast.now]
  generalize P.launch w.ports w.now service.name (plan.runInvocation service) = reply
  have hmoves : ∀ {c : Controls} {w : World σ}, w.raised = false → Moves c w
      ((w.tell (.starting service.name)).launch service.name (plan.runInvocation service)
        reply) := by
    intro c w hcalm
    apply Relation.ReflTransGen.tail (.single (.tells w (.starting service.name)))
    exact .launches _ _ _ reply hcalm
  apply (afterLaunch_steady reply).beside
  · apply (hmoves habreast.calm₀).orderly hw₀
  · apply (hmoves habreast.calm).orderly hw
  · apply (habreast.tell _).launch

theorem launchStep_steady (P : Ports σ) (plan : Plan) (service : Service) :
  Attempt.Steady fun c => launchStep P c plan service
  := by
  apply Attempt.steady_unlessRaised
  case hm => exact fun _ _ => .refl
  case hroams =>
    intro c w hcalm
    rw [Attempt.run_lift_bind]
    apply (launch_does P plan service hcalm).roams.bind
    rintro (fault | pid) w'
    · apply Relation.ReflTransGen.refl
    · apply Relation.ReflTransGen.refl
  case hbeside =>
    intro c₀ c w₀ w hw₀ hw habreast
    rw [Attempt.run_lift_bind, Attempt.run_lift_bind]
    apply Beside.bind (c := c) (launch_beside P plan service hw₀ hw habreast)
    · rintro (fault | pid) w'
      · apply Relation.ReflTransGen.refl
      · apply Relation.ReflTransGen.refl
    · rintro (fault | pid) w'
      · apply Relation.ReflTransGen.refl
      · apply Relation.ReflTransGen.refl
    · rintro (fault | pid) w₀' w' - - habreast'
      · exact .abreast _ habreast'
      · exact .abreast _ habreast'

/-- A phase is entered in both runs. -/
theorem enter_steady (p : Phase) :
  Session.Steady (σ := σ) (fun _ => Session.enter p)
  := by
  constructor
  case roams =>
    intro c w
    apply (Session.enter_does p w).roams
  case beside =>
    intro c₀ c w₀ w _ _ habreast
    have hrun : ∀ w : World σ, ∃ w', (Session.enter p).run w = .ok () w'
        ∧ w'.standing = w.standing ∧ w'.raised = w.raised := by
      intro w
      have hsilent := Session.silent_enter p w
      have huncut := Session.enter_does (c := c) p w
      rw [Session.Ends] at hsilent
      rw [Session.Does, Session.Ends] at huncut
      cases hrun : (Session.enter p).run w with
      | ok _ w' =>
        rw [hrun] at hsilent
        exact ⟨w', rfl, hsilent⟩
      | error k w' =>
        rw [hrun] at huncut
        obtain ⟨-, _, -, h⟩ := huncut
        apply h.elim
    obtain ⟨w₀', hrun₀, hstanding₀, hraised₀⟩ := hrun w₀
    obtain ⟨w', hrun, hstanding, hraised⟩ := hrun w
    rw [hrun₀, hrun]
    apply Beside.abreast
    constructor
    case standing => rw [hstanding₀, hstanding, habreast.standing]
    case calm₀ => rw [hraised₀, habreast.calm₀]
    case calm => rw [hraised, habreast.calm]

/-! ### Waiting for the instance -/

/-- A probe begins in the same way in two worlds that are abreast. -/
theorem beginProbe_beside (P : Ports σ) (url : String) (habreast : w₀.Abreast w) :
  Beside c₀ ((beginProbe P url).run w₀) ((beginProbe P url).run w)
  := by
  change Beside c₀ (.ok (P.probe w₀.ports w₀.now url) (w₀.record (.probing url)))
    (.ok (P.probe w.ports w.now url) (w.record (.probing url)))
  rw [habreast.ports, habreast.now]
  apply Beside.abreast
  apply habreast.record rfl

theorem probe_steady (P : Ports σ) (url : String) :
  Session.Steady fun c => Session.race c (beginProbe P url) >>= Session.conclude .probed
  := by
  apply Session.Steady.bind
  · apply Session.steady_race
    · intro c w hcalm
      apply (beginProbe_does P url hcalm).roams
    · intro c₀ w₀ w
      apply beginProbe_beside P url
  · apply Session.steady_conclude
    · intro result c w
      apply Move.probed
    · intro _
      rfl

/-- What follows a probe, with so much patience for further ones after so many attempts. -/
def afterProbe (P : Ports σ) (c : Controls) (url : String) (interval patience attempts : Nat) :
    Option (Except ProbeFault Unit) → Session σ (Except WaitFault Nat)
  | none => return .error (.interrupted attempts)
  | some (.ok ()) => do
    Session.tell (.reachable url attempts)
    return .ok attempts
  | some (.error (.malformed reason)) =>
    return .error (.malformed (ProbeFault.malformed reason).message)
  | some (.error (.notReady _)) => do
    match ← Session.suspend c (some interval) with
    | .raised => return .error (.interrupted attempts)
    | .elapsed => awaitFrom P c url interval patience attempts

/-- While the signal is not raised, a wait probes and goes on from there. -/
theorem awaitFrom_calm (P : Ports σ) (c : Controls) (url : String)
    (interval patience attempts : Nat) (hcalm : w.raised = false) :
  (awaitFrom P c url interval (patience + 1) attempts).run w
    = (Session.race c (beginProbe P url) >>= Session.conclude .probed
      >>= afterProbe P c url interval patience (min (attempts + 1) attemptLimit)).run w
  := by
  rw [awaitFrom, Session.run_ifRaised, if_neg (by simp [hcalm])]
  congr

theorem afterProbe_roams (P : Ports σ) (c : Controls) (url : String)
    (interval patience attempts : Nat) (outcome : Option (Except ProbeFault Unit))
    (w : World σ) :
  Roams c (afterProbe P c url interval patience attempts outcome) w
  := by
  rcases outcome with _ | (reason | reason) | _
  · apply Relation.ReflTransGen.refl
  · apply (Session.suspend_does c (some interval) w).roams.bind
    rintro (_ | _) w'
    · apply (awaitFrom_plain P c url interval patience attempts w').roams
    · apply Relation.ReflTransGen.refl
  · apply Relation.ReflTransGen.refl
  · apply Relation.ReflTransGen.single (.tells w _)

/-- Two waits that begin abreast, both with enough patience for the time until their runs are
dropped, end abreast or parted. -/
theorem awaitFrom_beside (P : Ports σ) (url : String) {interval : Nat} (hinterval : 0 < interval) :
    ∀ (patience₀ patience attempts : Nat) (w₀ w : World σ), w₀.Orderly c₀ → w.Orderly c →
      w₀.Abreast w → c₀.dropAt < w₀.now + patience₀ → c.dropAt < w.now + patience →
      Beside c₀ ((awaitFrom P c₀ url interval patience₀ attempts).run w₀)
        ((awaitFrom P c url interval patience attempts).run w)
  | 0, _, _, w₀, w, hw₀, _, _, hpatience₀, _ => by
    have hdrop := hw₀.punctual.1
    omega
  | _, 0, _, w₀, w, _, hw, _, _, hpatience => by
    have hdrop := hw.punctual.1
    omega
  | patience₀ + 1, patience + 1, attempts, w₀, w, hw₀, hw, habreast, hpatience₀, hpatience => by
    rw [awaitFrom_calm P c₀ url interval patience₀ attempts habreast.calm₀,
      awaitFrom_calm P c url interval patience attempts habreast.calm]
    generalize min (attempts + 1) attemptLimit = attempts
    have hprobe := probe_steady P url
    apply (hprobe.beside c₀ c w₀ w hw₀ hw habreast).bind
    · apply afterProbe_roams
    · apply afterProbe_roams
    · intro outcome w₀' w' hrun₀ hrun habreast'
      have hmoves₀ := (hprobe.roams c₀ w₀).of_ok hrun₀
      have hmoves := (hprobe.roams c w).of_ok hrun
      have hw₀' := hmoves₀.orderly hw₀
      have hw' := hmoves.orderly hw
      rcases outcome with _ | (reason | reason) | _
      · exact .abreast _ habreast'
      · have hsuspend := Session.steady_suspend (σ := σ) (some interval)
        apply Beside.bind (c := c) (hsuspend.beside c₀ c w₀' w' hw₀' hw' habreast')
        · rintro (_ | _) w₁
          · apply (awaitFrom_plain P c₀ url interval patience₀ attempts w₁).roams
          · apply Relation.ReflTransGen.refl
        · rintro (_ | _) w₁
          · apply (awaitFrom_plain P c url interval patience attempts w₁).roams
          · apply Relation.ReflTransGen.refl
        · rintro (_ | _) w₀'' w'' hsuspend₀ hsuspend₁ habreast''
          · -- some time has passed, for which less patience is needed
            have hlater₀ := Session.now_of_elapsed hsuspend₀
            have hlater := Session.now_of_elapsed hsuspend₁
            have hle₀ := hmoves₀.now_le
            have hle := hmoves.now_le
            apply awaitFrom_beside P url hinterval patience₀ patience attempts w₀'' w''
            · apply ((hsuspend.roams c₀ w₀').of_ok hsuspend₀).orderly hw₀'
            · apply ((hsuspend.roams c w').of_ok hsuspend₁).orderly hw'
            · apply habreast''
            · omega
            · omega
          · exact .abreast _ habreast''
      · exact .abreast _ habreast'
      · have hanswered : Session.Steady (σ := σ) fun _ => do
            Session.tell (.reachable url attempts)
            return (.ok attempts : Except WaitFault Nat) :=
          (Session.steady_tell _).bind fun _ => Session.steady_pure _
        apply hanswered.beside c₀ c w₀' w' hw₀' hw' habreast'

/-- The instance is awaited in the same way in two worlds that are abreast. -/
theorem await_steady (P : Ports σ) (plan : Plan) (hinterval : 0 < plan.interval) :
  Attempt.Steady fun c => await P c plan
  := by
  apply Attempt.Steady.liftBind
  case h =>
    constructor
    case roams =>
      intro c w
      apply (awaitFrom_plain P c plan.url plan.interval (patience c) 0 w).roams
    case beside =>
      intro c₀ c w₀ w hw₀ hw habreast
      apply awaitFrom_beside P plan.url hinterval _ _ 0 w₀ w hw₀ hw habreast
      · rw [patience]
        omega
      · rw [patience]
        omega
  case hf =>
    rintro (fault | attempts)
    · apply Attempt.steady_throw
    · apply Attempt.steady_pure

/-! ### The part of a run before its teardown -/

/-- The part of a run before its teardown is steady. -/
theorem drive_steady (P : Ports σ) (plan : Plan) (hinterval : 0 < plan.interval) :
  Attempt.Steady fun c => drive P c plan
  := by
  apply Attempt.Steady.bind
  case h =>
    apply Attempt.Steady.liftBind (enter_steady .building)
    intro _
    apply Attempt.steady_forM
    intro service
    apply stage_steady
  case hf =>
    intro _
    apply Attempt.Steady.bind
    case h =>
      apply Attempt.Steady.liftBind (enter_steady .launching)
      intro _
      apply Attempt.steady_forM
      intro service
      apply launchStep_steady
    case hf =>
      intro _
      apply Attempt.Steady.bind
      case h =>
        simp only [testWorkspace]
        split
        case isTrue =>
          apply Attempt.Steady.liftBind (enter_steady .workspaceTesting)
          intro _
          apply stage_steady
        case isFalse =>
          apply Attempt.steady_lift
          apply Session.steady_tell
      case hf =>
        intro _
        apply Attempt.Steady.bind
        case h =>
          apply Attempt.Steady.liftBind (enter_steady .waitingReady)
          intro _
          apply Attempt.Steady.liftBind (Session.steady_tell _)
          intro _
          apply await_steady P plan hinterval
        case hf =>
          intro attempts
          apply Attempt.Steady.bind
          case h =>
            apply Attempt.Steady.liftBind (enter_steady .integrationTesting)
            intro _
            apply stage_steady
          case hf =>
            intro _
            apply Attempt.steady_pure

/-- No service has been interrupted. -/
def Unstopped (w : World σ) : Prop :=
  Trace.interrupted w.deeds = []

theorem Unstopped.append {ds : List Event} (h : Unstopped w) (hds : w₀.deeds = w.deeds ++ ds)
    (hnone : Trace.interrupted ds = []) :
  Unstopped w₀
  := by
  rw [Unstopped, hds, Trace.interrupted_append, hnone, List.append_nil]
  exact h

theorem unstopped_started (c : Controls) (plan : Plan) (ports : σ) :
  Unstopped (started c plan ports)
  := by
  rw [Unstopped, deeds_started]
  rfl

/-- Before its teardown a run interrupts nothing. -/
theorem drive_unstopped (P : Ports σ) (c : Controls) (plan : Plan) :
  Attempt.Maintains Unstopped (fun _ => Unstopped) Unstopped (drive P c plan)
  := by
  apply drive_maintains P c plan
  case henter =>
    intro p
    apply Session.maintains_of_does (c := c) (Session.enter_does p)
    rintro w _ ds w' hw - hds ⟨henters, -⟩
    apply hw.append hds
    rw [← Trace.interrupted_calls, henters.calls]
    rfl
  case hplain =>
    intro _ m hm
    apply Attempt.maintains_of_plain hm
    case happend =>
      intro w ds w' hw _ hds hplain
      apply hw.append hds
      apply List.filterMap_eq_nil_iff.mpr
      intro e he
      have hplain := hplain e he
      cases e with
      | interrupted _ _ => cases hplain
      | _ => rfl
    case hfail => exact fun _ _ hw => hw
    case hcut => exact fun _ hw => hw
  case hstage =>
    intro phase n i failure _ _ w hw
    apply Attempt.Ends.mono (stage_does P c phase n i failure w)
    · rintro _ w' ⟨-, _, hds, millis, rfl⟩
      apply hw.append hds rfl
    · rintro fault w' ⟨-, ds, hds, hfails⟩
      apply hw.append hds
      cases hfails with
      | overtaken _ hds =>
        obtain rfl | rfl := hds
        · rfl
        · rfl
      | broken => rfl
      | rejected => rfl
    · rintro k w' ⟨-, _, hds, rfl, -⟩
      apply hw.append hds rfl

/-! ### Whole runs -/

/-- The part of a run before its teardown, begun on such ports. -/
def driven (P : Ports σ) (c : Controls) (plan : Plan) (ports : σ) :
    EStateM.Result Cut (World σ) (Except RunFault Nat) :=
  (drive P c plan).run.run (started c plan ports)

theorem driven_moves (P : Ports σ) (plan : Plan) (hinterval : 0 < plan.interval) (c : Controls)
    (ports : σ) :
  Moves c (started c plan ports) (Session.world (driven P c plan ports))
  := (drive_steady P plan hinterval).roams c (started c plan ports)

theorem driven_unstopped (P : Ports σ) (c : Controls) (plan : Plan) (ports : σ) :
  Unstopped (Session.world (driven P c plan ports))
  := by
  have hrun := (drive_unstopped P c plan).run _ (unstopped_started c plan ports)
  exact hrun.world

/-- Two runs that begin on the same ports are abreast, or have parted, when their parts before the
teardown are over. -/
theorem driven_beside (P : Ports σ) (plan : Plan) (hinterval : 0 < plan.interval)
    (c₀ c : Controls) (ports : σ) :
  Beside c₀ (driven P c₀ plan ports) (driven P c plan ports)
  := by
  have hmoves₀ := driven_moves P plan hinterval c₀ ports
  have hmoves := driven_moves P plan hinterval c ports
  have hstanding : (started c₀ plan ports).standing = (started c plan ports).standing := by
    rw [standing_started, standing_started]
  cases hcalm₀ : (started c₀ plan ports).raised with
  | true => exact .parted (.disturbed (hmoves₀.raised hcalm₀))
  | false =>
    cases hcalm : (started c plan ports).raised with
    | true =>
      apply Beside.parted
      apply Parted.ended (.inr (hmoves.raised hcalm))
      rw [hmoves.begun hcalm, ← World.begun_of_standing hstanding]
      apply hmoves₀.begun_grow
    | false =>
      apply (drive_steady P plan hinterval).beside c₀ c
      · apply orderly_started
      · apply orderly_started
      · use hstanding, hcalm₀

/-- In its closing a run begins nothing. -/
theorem Closes.begun {path : List Phase} (h : Closes c path w₀ w) :
  w.begun = w₀.begun
  := by
  obtain ⟨-, ds, hds, -, hclosing⟩ := h
  have hnone : Trace.begun ds = [] := by
    apply List.filter_eq_nil_iff.mpr
    intro e he
    have hclosing := hclosing e he
    cases e with
    | entered _ | noticed _ | interrupted _ _ => exact Bool.false_ne_true
    | _ => cases hclosing
  rw [World.begun_of_deeds hds, hnone, List.append_nil]

/-- A run is closed from where its part before the teardown ends, and is cut short where that is. -/
theorem perform_closes_driven (P : Ports σ) (c : Controls) {plan : Plan} (runId : String)
    (ports : σ) (hplan : plan.defect? = none) :
  (∃ path, Closes c path (Session.world (driven P c plan ports))
      (perform P c plan runId ports).world)
    ∧ ∀ k, Session.cut? (driven P c plan ports) = some k →
      (perform P c plan runId ports).verdict = .cut k
  := by
  have hcloses := perform_closes P c runId ports hplan
    (Attempt.ends_result (drive P c plan) (started c plan ports))
  rw [ClosesAs] at hcloses
  rw [driven]
  split at hcloses
  case h_1 =>
    obtain ⟨_, ⟨rfl, hnone⟩, hcloses⟩ := hcloses
    use ⟨_, hcloses⟩
    simp [hnone]
  case h_2 =>
    obtain ⟨_, ⟨rfl, hnone⟩, hcloses⟩ := hcloses
    use ⟨_, hcloses⟩
    simp [hnone]
  case h_3 k hverdict =>
    obtain ⟨_, ⟨rfl, hcut⟩, hcloses⟩ := hcloses
    use ⟨_, hcloses⟩
    intro _ hk
    rw [hcut] at hk
    cases hk
    exact hverdict

/-- If a run is not disturbed before it begins to interrupt services, then its part before the
teardown is not disturbed. -/
theorem driven_calm (P : Ports σ) (c : Controls) {plan : Plan} (runId : String) (ports : σ)
    (hplan : plan.defect? = none)
    (h : ∀ pre t post, (perform P c plan runId ports).world.events = pre ++ .raised t :: post →
      Trace.interrupted pre ≠ []) :
  (Session.world (driven P c plan ports)).raised = false
  := by
  by_contra hraised
  rw [Bool.not_eq_false] at hraised
  obtain ⟨⟨_, hmoves, -⟩, -⟩ := perform_closes_driven P c runId ports hplan
  obtain ⟨t, ht⟩ := Moves.raised_mem
    ((started_moves c plan ports).trans (driven_moves P plan (interval_pos hplan) c ports)) hraised
  obtain ⟨pre, post, hsplit⟩ := List.append_of_mem ht
  obtain ⟨rest, hrest⟩ := hmoves.events_grow
  rw [hsplit, List.append_assoc] at hrest
  apply h pre t (post ++ rest) hrest.symm
  -- what is interrupted before the signal is raised is interrupted before the teardown
  have hnone : Trace.interrupted (pre ++ .raised t :: post) = [] := by
    rw [← hsplit, ← Trace.interrupted_deeds]
    apply driven_unstopped
  rw [Trace.interrupted_append] at hnone
  exact (List.append_eq_nil_iff.mp hnone).1

/-- A run that is cut short, or disturbed, is a first part of a run of the same plan on the same
ports whose signal is not raised before it begins to interrupt services.  What it begins (the
commands with their environments, the launches with the processes that they give, the probes) is
a first part of what that other run begins, and it interrupts exactly the services that it
launched in that part, in the order of launching.  The other run may be dropped too, but not
before the first is over: so it need not come to an end by itself.  The calls of both are what the
ports were asked, with their answers. -/
theorem perform_truncated (h : Harness σ) (P : Ports σ) (c₀ c : Controls) (plan : Plan)
    (runId : String) (hplan : plan.validate = .ok ())
    (hcalm : ∀ pre t post,
      (h.perform P c₀ plan runId).1.world.events = pre ++ .raised t :: post →
      Trace.interrupted pre ≠ [])
    (hdropped : (h.perform P c₀ plan runId).1.verdict = .cut .dropped →
      (h.perform P c plan runId).1.world.now ≤ c₀.dropAt) :
  let full := (h.perform P c₀ plan runId).1
  let cut := (h.perform P c plan runId).1
  Trace.begun cut.world.events <+: Trace.begun full.world.events
    ∧ Trace.interrupted cut.world.events = Trace.launched (Trace.begun cut.world.events)
    ∧ Transcript P plan.interval { ports := h.ports } cut.world.standing
    ∧ Transcript P plan.interval { ports := h.ports } full.world.standing
  := by
  intro full cut
  have hdefect := validate_eq_ok_iff.mp hplan
  obtain ⟨⟨_, hcloses₀⟩, hcut₀⟩ := perform_closes_driven P c₀ runId h.ports hdefect
  obtain ⟨⟨_, hcloses⟩, -⟩ := perform_closes_driven P c runId h.ports hdefect
  constructor
  · change cut.world.begun <+: full.world.begun
    have hbegun₀ : full.world.begun = _ := hcloses₀.begun
    have hbegun : cut.world.begun = _ := hcloses.begun
    rw [hbegun₀, hbegun]
    apply (driven_beside P plan (interval_pos hdefect) c₀ c h.ports).ahead
    · apply driven_calm P c₀ runId h.ports hdefect hcalm
    · intro hcut
      apply hcloses.1.now_le.trans (hdropped (hcut₀ _ hcut))
  · rw [Trace.launched_begun]
    use perform_interrupted P c plan runId h.ports, perform_transcribed P c plan runId h.ports
    apply perform_transcribed P c₀ plan runId h.ports

/-- Ports on which the second launch raises the signal. -/
def raisingLaunch : Ports Scripted.Record :=
  Scripted.ports { services := KeyMap.insert {} "pandemonium" { raises := true } }

/-- A run that is interrupted between two launches, and the same run where nothing can raise the
signal. -/
theorem perform_truncated_launching :
  ({} : Plan).validate = .ok ()
    ∧ (∀ t, .raised t ∉ (({ ports := {} } : Harness Scripted.Record).perform raisingLaunch
        { sender := .lost 0, dropAt := 120007 } {} "run-1").1.world.events)
    ∧ (({ ports := {} } : Harness Scripted.Record).perform raisingLaunch
        { sender := .lost 0, dropAt := 120007 } {} "run-1").1.verdict ≠ .cut .dropped
    ∧ (({ ports := {} } : Harness Scripted.Record).perform raisingLaunch
        { dropAt := 120007 } {} "run-1").1.verdict = .failed (.interrupted .launching)
    ∧ Trace.begun (({ ports := {} } : Harness Scripted.Record).perform raisingLaunch
          { dropAt := 120007 } {} "run-1").1.world.events
        <+: Trace.begun (({ ports := {} } : Harness Scripted.Record).perform raisingLaunch
          { sender := .lost 0, dropAt := 120007 } {} "run-1").1.world.events
    ∧ Trace.interrupted (({ ports := {} } : Harness Scripted.Record).perform raisingLaunch
        { dropAt := 120007 } {} "run-1").1.world.events
      = [⟨"oprish", 1000⟩, ⟨"pandemonium", 1001⟩]
  := by
  have hplan : ({} : Plan).validate = .ok () := validate_eq_ok_iff.mpr (by decide +kernel)
  have hcalm : ∀ t, .raised t ∉ (({ ports := {} } : Harness Scripted.Record).perform
      raisingLaunch { sender := .lost 0, dropAt := 120007 } {} "run-1").1.world.events := by
    have horderly := perform_orderly raisingLaunch { sender := .lost 0, dropAt := 120007 } {}
      "run-1" {}
    apply horderly.quiet.not_mem
    decide +kernel
  have hverdict : (({ ports := {} } : Harness Scripted.Record).perform raisingLaunch
      { sender := .lost 0, dropAt := 120007 } {} "run-1").1.verdict ≠ .cut .dropped := by
    decide +kernel
  obtain ⟨hbegun, hinterrupted, -, -⟩ := perform_truncated { ports := {} } raisingLaunch
    { sender := .lost 0, dropAt := 120007 } { dropAt := 120007 } {} "run-1" hplan
    (by
      intro pre t post hevents
      cases hcalm t (by rw [hevents]; simp))
    (fun hdropped => by cases hverdict hdropped)
  use hplan, hcalm, hverdict, by decide +kernel, hbegun
  rw [hinterrupted]
  decide +kernel

end ServiceHarness.Run
