import ServiceHarness.Proofs.Run.Chronicle
import ServiceHarness.Proofs.Run.Truncation

/-!
# The log before the teardown

Before its teardown a run leads from one world to another in which everything is `Reported`: the
trace is the chronicle of what was done, whatever the verdict will be, so many commands of the plan
were executed, and so many probes were made.  Each part of the run does so (`Reports`), also where
it fails or is cut short, and hence all of them together (`drive_reports`).
-/

namespace ServiceHarness.Run

variable {σ α β : Type} {c : Controls} {plan : Plan} {w w' : World σ}
  {ds ds' : List Event} {k n : Nat}

/-! ### Worlds in which everything is reported -/

/-- Before its teardown a run has executed so many commands of the plan and made so many probes, the
log has been told of all that, and of no end of the run. -/
structure Reported (c : Controls) (plan : Plan) (k n : Nat) (w : World σ) : Prop where
  /-- The phase is known. -/
  orderly : w.Orderly c
  /-- The trace is the chronicle of what was done, whatever the verdict will be. -/
  told : ∀ verdict, w.deeds = .noticed (.runStarted plan.services.length)
    :: chronicle plan verdict [] (Trace.doings w.deeds)
  /-- So many commands of the plan were executed. -/
  executions : Trace.executions w.deeds = ((commands plan).take k).map Prod.snd
  /-- So many probes were made. -/
  probes : (Trace.probes w.deeds).length = n
  /-- The log was told of no end of the run. -/
  endings : Trace.endings w.deeds = []

/-- Everything is reported. -/
def UpToDate (c : Controls) (plan : Plan) (w : World σ) : Prop :=
  ∃ k n, Reported c plan k n w

/-- What tells, and does not tell of an end of the run, leaves everything reported. -/
theorem Reported.append {k' n' : Nat} (h : Reported c plan k n w) (hmoves : Moves c w w')
    (hds : w'.deeds = w.deeds ++ ds)
    (htells : ∀ verdict, Tells plan verdict (Trace.doings w.deeds) ds)
    (hexecutions : ((commands plan).take k).map Prod.snd ++ Trace.executions ds
      = ((commands plan).take k').map Prod.snd)
    (hprobes : n + (Trace.probes ds).length = n') (hendings : Trace.endings ds = []) :
  Reported c plan k' n' w'
  := by
  constructor
  case orderly => apply hmoves.orderly h.orderly
  case told =>
    intro verdict
    have hbefore := h.told verdict
    have hafter := htells verdict
    rw [Tells] at hafter
    rw [hds, Trace.doings_append, chronicle_append, List.nil_append, hafter, ← List.cons_append,
      ← hbefore]
  case executions => rw [hds, Trace.executions_append, h.executions, hexecutions]
  case probes => rw [hds, Trace.probes_append, List.length_append, h.probes, hprobes]
  case endings => rw [hds, Trace.endings_append, h.endings, hendings]; rfl

/-- No command begins, no probe is made, and the log is told of no end of the run. -/
structure Idle (ds : List Event) : Prop where
  /-- No command begins. -/
  executions : Trace.executions ds = []
  /-- No probe is made. -/
  probes : Trace.probes ds = []
  /-- The log is told of no end of the run. -/
  endings : Trace.endings ds = []

theorem Idle.append (h : Idle ds) (h' : Idle ds') :
  Idle (ds ++ ds')
  := by
  constructor
  case executions => rw [Trace.executions_append, h.executions, h'.executions]; rfl
  case probes => rw [Trace.probes_append, h.probes, h'.probes]; rfl
  case endings => rw [Trace.endings_append, h.endings, h'.endings]; rfl

/-- What tells and is idle. -/
theorem Reported.idle (h : Reported c plan k n w) (hmoves : Moves c w w')
    (hds : w'.deeds = w.deeds ++ ds)
    (htells : ∀ verdict, Tells plan verdict (Trace.doings w.deeds) ds) (hidle : Idle ds) :
  Reported c plan k n w'
  := by
  apply h.append hmoves hds htells _ _ hidle.endings
  · rw [hidle.executions, List.append_nil]
  · rw [hidle.probes]
    rfl

/-- Where nothing is done nothing is to be reported. -/
theorem Reported.still (h : Reported c plan k n w) (hmoves : Moves c w w')
    (hds : w'.deeds = w.deeds ++ []) :
  Reported c plan k n w'
  := h.idle hmoves hds (fun _ => tells_nil) ⟨rfl, rfl, rfl⟩

theorem Reported.upToDate (h : Reported c plan k n w) :
  UpToDate c plan w
  := ⟨k, n, h⟩

/-- The phase of a world is the one that was entered last of what was done. -/
theorem phase_eq_getLast? (h : w.Orderly c) :
  w.phase = (Trace.phases (Trace.doings w.deeds)).getLast?
  := by
  rw [h.current, Trace.phases_doings, World.deeds, Trace.phases_deeds]

/-- An attempt begun in the world reports everything, also where it fails or is cut short, and ends
in a world of `post` where it succeeds. -/
def Reports (c : Controls) (plan : Plan) (m : Attempt σ α) (w : World σ)
    (post : World σ → Prop) : Prop :=
  Attempt.Ends m w (fun _ => post) (fun _ => UpToDate c plan) (fun _ => UpToDate c plan)

theorem Reports.bind {m : Attempt σ α} {f : α → Attempt σ β} {mid post : World σ → Prop}
    (h : Reports c plan m w mid) (hf : ∀ a w', mid w' → Reports c plan (f a) w' post) :
  Reports c plan (m >>= f) w post
  := by
  rw [Reports, Attempt.ends_bind]
  apply Attempt.Ends.mono h
  · exact hf
  · intro _ _ h'
    exact h'
  · intro _ _ h'
    exact h'

/-! ### Entering phases -/

theorem idle_entering (before : Option Phase) (p : Phase) :
  Idle (entering before p)
  := by
  unfold entering Session.enterNotices
  split
  case h_1 =>
    split
    case isTrue => exact ⟨rfl, rfl, rfl⟩
    case isFalse => exact ⟨rfl, rfl, rfl⟩
  case h_2 => exact ⟨rfl, rfl, rfl⟩

theorem idle_beforePhase (plan : Plan) (p : Phase) :
  Idle ((beforePhase plan p).map .noticed)
  := by
  unfold beforePhase
  split
  case h_1 =>
    split
    case isTrue => exact ⟨rfl, rfl, rfl⟩
    case isFalse => exact ⟨rfl, rfl, rfl⟩
  case h_2 => exact ⟨rfl, rfl, rfl⟩

/-- A phase is entered, with what the log is told of it, in which the verdict does not matter. -/
theorem Reported.entered {p : Phase} {after : List Notice} (h : Reported c plan k n w)
    (hafter : ∀ verdict, afterPhase plan verdict p = after) (hidle : Idle (after.map .noticed))
    (hmoves : Moves c w w')
    (hds : w'.deeds = w.deeds ++ ((beforePhase plan p).map .noticed ++ entering w.phase p
      ++ after.map .noticed)) :
  Reported c plan k n w'
  := by
  apply h.idle hmoves hds
  · intro verdict
    rw [← hafter verdict]
    apply tells_entering (phase_eq_getLast? h.orderly)
  · apply ((idle_beforePhase plan p).append (idle_entering w.phase p)).append hidle

/-- A phase with which the log is told nothing else is entered. -/
theorem enter_reports {p : Phase} (h : Reported c plan k n w) (hbefore : beforePhase plan p = [])
    (hafter : ∀ verdict, afterPhase plan verdict p = []) :
  Reports c plan (liftM (Session.enter (σ := σ) p)) w (Reported c plan k n)
  := by
  rw [Reports, Attempt.ends_lift]
  apply Session.Ends.mono (Session.enter_tells p w)
  · rintro _ w' ⟨hmoves, _, hds, rfl, -⟩
    apply h.entered hafter ⟨rfl, rfl, rfl⟩ hmoves
    rw [hds, hbefore, List.map_nil, List.append_nil, List.nil_append, entering]
  · rintro _ _ ⟨-, _, -, h⟩
    apply h.elim

/-! ### Stages -/

/-- A command of the plan begins, and perhaps comes to its end. -/
theorem Reported.executing {notice : Notice} {i : Invocation} (h : Reported c plan k n w)
    (hcommand : (commands plan)[k]? = some (notice, i))
    (hnotice : Event.ending? (.noticed notice) = none)
    (result : Option (Except ProcessFault Completion)) (hmoves : Moves c w w')
    (hds : w'.deeds = w.deeds ++ ([.noticed notice, .executing i] ++ result.toList.map .executed)) :
  Reported c plan (k + 1) n w'
  := by
  -- it is the next command, since so many were executed
  have hlength : (Trace.executions (Trace.doings w.deeds)).length = k := by
    rw [Trace.executions_doings, h.executions, List.length_map, List.length_take]
    have hk := (List.getElem?_eq_some_iff.mp hcommand).1
    omega
  apply h.append hmoves hds
  case htells =>
    intro verdict
    apply Tells.append
    · apply tells_executing
      rw [hlength, hcommand]
    · cases result with
      | none => apply tells_nil
      | some r => apply tells_recount (e := .executed r) rfl
  case hexecutions =>
    rw [List.take_add_one, hcommand, List.map_append]
    cases result <;> rfl
  case hprobes => cases result <;> rfl
  case hendings =>
    rw [Trace.endings_append, Trace.endings, Trace.endings, List.filterMap_cons_none hnotice]
    cases result <;> rfl

/-- A stage executes the next command of the plan. -/
theorem stage_reports (P : Ports σ) (phase : Phase) {notice : Notice} {i : Invocation}
    (failure : Int → RunFault) (h : Reported c plan k n w)
    (hcommand : (commands plan)[k]? = some (notice, i))
    (hnotice : Event.ending? (.noticed notice) = none) :
  Reports c plan (stage P c phase notice i failure) w (Reported c plan (k + 1) n)
  := by
  apply Attempt.Ends.mono (stage_does P c phase notice i failure w)
  · rintro _ w' ⟨hmoves, _, hds, millis, rfl⟩
    apply h.executing hcommand hnotice (some (.ok ⟨0, millis⟩)) hmoves hds
  · rintro fault w' ⟨hmoves, ds, hds, hfails⟩
    cases hfails with
    | overtaken _ hnothing =>
      obtain rfl | rfl := hnothing
      · apply (h.still hmoves hds).upToDate
      · apply (h.executing hcommand hnotice none hmoves hds).upToDate
    | broken fault =>
      apply (h.executing hcommand hnotice (some (.error fault)) hmoves hds).upToDate
    | rejected completion =>
      apply (h.executing hcommand hnotice (some (.ok completion)) hmoves hds).upToDate
  · rintro _ w' ⟨hmoves, _, hds, rfl, -⟩
    apply (h.executing hcommand hnotice none hmoves hds).upToDate

/-- The services are built after those before them. -/
theorem builds_report (P : Ports σ) :
    ∀ (services before : List Service) (w : World σ), plan.services = before ++ services →
      Reported c plan before.length n w →
      Reports c plan (services.forM (build P c plan)) w (Reported c plan plan.services.length n)
  | [], before, w, hservices, h => by
    rw [hservices, List.append_nil]
    exact h
  | service :: rest, before, w, hservices, h => by
    have hcommand : (commands plan)[before.length]?
        = some (.compiling service.name, plan.buildInvocation service) := by
      rw [commands, hservices]
      simp
    have hservices' : plan.services = before ++ [service] ++ rest := by
      rw [hservices, List.append_assoc]
      rfl
    change Reports c plan (build P c plan service >>= fun _ => rest.forM (build P c plan)) w _
    apply (stage_reports P .building _ h hcommand rfl).bind
    intro _ w' h'
    apply builds_report P rest (before ++ [service]) w' hservices'
    rw [List.length_append]
    exact h'

/-! ### Launching -/

/-- A service is launched, or not. -/
theorem launchStep_reports (P : Ports σ) (service : Service) (h : Reported c plan k n w) :
  Reports c plan (launchStep P c plan service) w (Reported c plan k n)
  := by
  rw [Reports, launchStep, Attempt.ends_bind, Attempt.ends_lift, Session.ends_isRaised]
  split
  case isTrue => exact h.upToDate
  case isFalse hraised =>
    rw [Bool.not_eq_true] at hraised
    rw [Attempt.ends_bind, Attempt.ends_lift]
    apply Session.Ends.mono (launch_does P plan service hraised)
    · rintro (fault | pid) w' ⟨hmoves, ds, hds, hdone⟩
      · rw [hdone] at hds
        apply Reported.upToDate
        apply h.idle hmoves hds _ ⟨rfl, rfl, rfl⟩
        intro _
        apply tells_launched service.name (plan.runInvocation service) (.error fault)
      · obtain ⟨handle, -, rfl⟩ := hdone
        apply h.idle hmoves hds _ ⟨rfl, rfl, rfl⟩
        intro _
        apply tells_launched service.name (plan.runInvocation service) (.ok handle)
    · rintro _ _ ⟨-, _, -, h⟩
      apply h.elim

/-! ### Waiting for the instance -/

/-- A probe begins, and perhaps comes to its end; if the instance answers, the log is told. -/
theorem Reported.probing (h : Reported c plan k n w) (outcome : Option (Except ProbeFault Unit))
    (hmoves : Moves c w w')
    (hds : w'.deeds = w.deeds ++ ([.probing plan.url] ++ match outcome with
      | none => []
      | some (.error fault) => [.probed (.error fault)]
      | some (.ok ()) =>
        [.probed (.ok ()), .noticed (.reachable plan.url (min (n + 1) attemptLimit))])) :
  Reported c plan k (n + 1) w'
  := by
  apply h.append hmoves hds
  case htells =>
    intro verdict
    apply Tells.append (tells_recount (e := .probing plan.url) rfl)
    have hcount : (Trace.probes (Trace.doings w.deeds ++ Trace.doings [.probing plan.url])).length
        = n + 1 := by
      rw [Trace.probes_append, List.length_append, Trace.probes_doings, h.probes]
      rfl
    rcases outcome with _ | fault | _
    · apply tells_nil
    · apply tells_recount (e := .probed (.error fault)) rfl
    · rw [← hcount]
      apply tells_recount (e := .probed (.ok ())) rfl
  case hexecutions => rcases outcome with _ | fault | _ <;> exact List.append_nil _
  case hprobes => rcases outcome with _ | fault | _ <;> rfl
  case hendings => rcases outcome with _ | fault | _ <;> rfl

/-- A wait that begins after so many probes. -/
theorem awaitFrom_reports (P : Ports σ) (interval : Nat) :
    ∀ (patience n : Nat) (w : World σ), Reported c plan k n w →
      Session.Ends (awaitFrom P c plan.url interval patience (min n attemptLimit)) w
        (fun _ w' => ∃ n', Reported c plan k n' w') (fun _ => UpToDate c plan)
  | 0, n, w, h => h.upToDate
  | patience + 1, n, w, h => by
    rw [awaitFrom, Session.ends_bind, Session.ends_isRaised]
    split
    case isTrue => exact ⟨n, h⟩
    case isFalse =>
      -- attempts are counted up to the limit, probes without one
      have hattempts : min (min n attemptLimit + 1) attemptLimit = min (n + 1) attemptLimit := by
        omega
      dsimp only
      rw [hattempts, Session.ends_bind]
      apply Session.Ends.mono (probe_does P c plan.url w)
      · rintro (_ | (reason | reason) | _) w₁ ⟨hmoves, ds, hds, hraced⟩
        · obtain ⟨rfl | rfl, -⟩ := hraced
          · exact ⟨n, h.still hmoves hds⟩
          · exact ⟨n + 1, h.probing none hmoves hds⟩
        · rw [hraced] at hds
          have h₁ := h.probing (some (.error (.notReady reason))) hmoves hds
          rw [Session.ends_bind]
          apply Session.Ends.mono (Session.suspend_does c (some interval) w₁)
          · rintro (_ | _) w₂ ⟨hmoves', _, hds', rfl, -⟩
            · apply awaitFrom_reports P interval patience (n + 1) w₂ (h₁.still hmoves' hds')
            · exact ⟨n + 1, h₁.still hmoves' hds'⟩
          · rintro _ w₂ ⟨hmoves', _, hds', rfl, -⟩
            exact (h₁.still hmoves' hds').upToDate
        · rw [hraced] at hds
          exact ⟨n + 1, h.probing (some (.error (.malformed reason))) hmoves hds⟩
        · rw [Session.ends_bind, Session.ends_tell]
          use n + 1
          apply h.probing (some (.ok ())) (hmoves.tail (.tells w₁ _))
          rw [World.deeds_tell, hds, hraced, List.append_assoc]
          rfl
      · rintro _ w₁ ⟨hmoves, _, hds, rfl, -⟩
        exact (h.probing none hmoves hds).upToDate

/-- Everything was reported, and then the log was told what it is told before the wait for the
instance.  That is reported once the phase of the wait is entered. -/
def Ready (c : Controls) (plan : Plan) (k : Nat) (w : World σ) : Prop :=
  ∃ w₀, Reported c plan k 0 w₀ ∧ Moves c w₀ w ∧ w.phase = w₀.phase
    ∧ w.deeds = w₀.deeds ++ (beforePhase plan .waitingReady).map .noticed

/-- The commands of the plan that come before the integration tests. -/
def preparations (plan : Plan) : Nat :=
  plan.services.length + if plan.workspaceTests then 1 else 0

/-- The workspace is tested, or the log is told that it is not. -/
theorem testWorkspace_reports (P : Ports σ) (h : Reported c plan plan.services.length 0 w) :
  Reports c plan (testWorkspace P c plan) w (Ready c plan (preparations plan))
  := by
  cases hwanted : plan.workspaceTests with
  | true =>
    have hcommand : (commands plan)[plan.services.length]?
        = some (.testing .workspaceTests, plan.workspaceTestInvocation) := by
      rw [commands, hwanted]
      simp
    rw [testWorkspace, if_pos hwanted]
    apply (enter_reports h rfl fun _ => rfl).bind
    intro _ w₁ h₁
    apply Attempt.Ends.mono (stage_reports P _ _ h₁ hcommand rfl)
    · intro _ w' h'
      use w'
      rw [preparations, beforePhase, hwanted]
      exact ⟨h', .refl, rfl, (List.append_nil _).symm⟩
    · intro _ _ h'
      exact h'
    · intro _ _ h'
      exact h'
  | false =>
    rw [testWorkspace, if_neg (by simp [hwanted]), Reports, Attempt.ends_lift, Session.ends_tell]
    use w
    rw [preparations, beforePhase, hwanted]
    exact ⟨h, .single (.tells w _), rfl, w.deeds_tell _⟩

/-- The instance is awaited. -/
theorem awaitInstance_reports (P : Ports σ) (h : Ready c plan k w) :
  Reports c plan (awaitInstance P c plan) w (fun w' => ∃ n, Reported c plan k n w')
  := by
  obtain ⟨w₀, h₀, hmoves₀, hphase, hds₀⟩ := h
  rw [Reports, awaitInstance, Attempt.ends_bind, Attempt.ends_lift]
  apply Session.Ends.mono (Session.enter_tells (c := c) .waitingReady w)
  · rintro _ w₁ ⟨hmoves, _, hds, rfl, -⟩
    rw [Attempt.ends_bind, Attempt.ends_lift, Session.ends_tell]
    have hwaiting : Reported c plan k 0 (w₁.tell (.awaiting plan.url)) := by
      apply h₀.entered (p := .waitingReady) (fun _ => rfl) ⟨rfl, rfl, rfl⟩
      case hmoves => apply (hmoves₀.trans hmoves).tail (.tells w₁ _)
      case hds =>
        rw [World.deeds_tell, hds, hds₀, hphase, entering]
        simp only [List.append_assoc]
        rfl
    rw [await, Attempt.ends_bind, Attempt.ends_lift]
    apply Session.Ends.mono (awaitFrom_reports P plan.interval (patience c) 0 _ hwaiting)
    · rintro (fault | attempts) w₂ ⟨n, h₂⟩
      · exact h₂.upToDate
      · exact ⟨n, h₂⟩
    · intro _ _ h'
      exact h'
  · rintro _ _ ⟨-, _, -, h⟩
    apply h.elim

/-! ### The part of a run before its teardown -/

/-- A run begins with its beginning reported. -/
theorem started_reported (c : Controls) (plan : Plan) (ports : σ) :
  Reported c plan 0 0 (started c plan ports)
  := by
  have hdeeds := deeds_started c plan ports
  constructor
  case orderly => apply orderly_started
  case told =>
    intro _
    rw [hdeeds]
    rfl
  case executions =>
    rw [hdeeds]
    rfl
  case probes =>
    rw [hdeeds]
    rfl
  case endings =>
    rw [hdeeds]
    rfl

/-- The part of a run before its teardown reports everything. -/
theorem drive_reports (P : Ports σ) (h : Reported c plan 0 0 w) :
  Reports c plan (drive P c plan) w (UpToDate c plan)
  := by
  have hcommand : (commands plan)[preparations plan]?
      = some (.testing .integrationTests, plan.integrationTestInvocation) := by
    rw [commands, preparations]
    cases plan.workspaceTests <;> simp
  have hbuilds : Reports c plan (buildServices P c plan) w
      (Reported c plan plan.services.length 0) := by
    apply (enter_reports h rfl fun _ => rfl).bind
    intro _ w₁ h₁
    apply builds_report P plan.services [] w₁ rfl h₁
  have hlaunches : ∀ w₁, Reported c plan plan.services.length 0 w₁ →
      Reports c plan (launchServices P c plan) w₁ (Reported c plan plan.services.length 0) := by
    intro w₁ h₁
    apply (enter_reports h₁ rfl fun _ => rfl).bind
    intro _ w₂ h₂
    apply Attempt.maintains_forM (I := Reported c plan plan.services.length 0) _ _ w₂ h₂
    intro service w h
    apply launchStep_reports P service h
  have htests : ∀ w₄ n, Reported c plan (preparations plan) n w₄ →
      Reports c plan (testInstance P c plan) w₄ (Reported c plan (preparations plan + 1) n) := by
    intro w₄ n h₄
    apply (enter_reports h₄ rfl fun _ => rfl).bind
    intro _ w₅ h₅
    apply stage_reports P _ _ h₅ hcommand rfl
  apply hbuilds.bind
  intro _ w₁ h₁
  apply (hlaunches w₁ h₁).bind
  intro _ w₂ h₂
  apply (testWorkspace_reports P h₂).bind
  intro _ w₃ h₃
  apply (awaitInstance_reports P h₃).bind
  rintro attempts w₄ ⟨n, h₄⟩
  apply (htests w₄ n h₄).bind
  intro _ w₅ h₅
  exact h₅.upToDate

end ServiceHarness.Run
