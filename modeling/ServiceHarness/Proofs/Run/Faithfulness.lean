import ServiceHarness.Proofs.Run.Reporting

/-!
# The log of a run

The log of a run is `Faithful` to what the run does (`perform_faithful`), whatever the ports do and
whenever the stop signal is raised, a port panics or the caller drops the run.  Up to the teardown
everything is `Reported`; what is left is the end of the run, which depends on the verdict: services
are interrupted, and the log is told how the run ended.
-/

namespace ServiceHarness.Run

variable {σ β : Type} {c : Controls} {plan : Plan} {verdict : Verdict} {w w' : World σ}
  {ds : List Event} {k n : Nat}

/-- Where everything is reported and then the end of the run is told, the log is faithful. -/
theorem Reported.faithful (h : Reported c plan k n w) (hds : w'.deeds = w.deeds ++ ds)
    (htells : Tells plan verdict (Trace.doings w.deeds) ds)
    (hexecutions : Trace.executions ds = [])
    (hendings : Trace.endings ds = ending verdict (Trace.launched w'.deeds)) :
  Faithful plan verdict w'.events
  := by
  constructor
  case told =>
    have hbefore := h.told verdict
    rw [Tells] at htells
    rw [← Trace.doings_deeds]
    change w'.deeds = _ :: chronicle plan verdict [] (Trace.doings w'.deeds)
    rw [hds, Trace.doings_append, chronicle_append, List.nil_append, htells, ← List.cons_append,
      ← hbefore]
  case executions =>
    rw [← Trace.executions_deeds]
    change Trace.executions w'.deeds <+: _
    rw [hds, Trace.executions_append, hexecutions, List.append_nil, h.executions]
    apply (List.take_prefix k _).map
  case ending =>
    rw [← Trace.endings_deeds, ← Trace.launched_deeds]
    change Trace.endings w'.deeds = ending verdict (Trace.launched w'.deeds)
    rw [← hendings, hds, Trace.endings_append, h.endings]
    rfl

theorem idle_stops (h : Handle) (answer : Except ProcessFault SignalOutcome) :
  Idle (stops h answer) ∧ Trace.launched (stops h answer) = []
  := by
  rcases answer with fault | (_ | _)
  all_goals exact ⟨⟨rfl, rfl, rfl⟩, rfl⟩

/-- Interrupting services is idle, and launches none. -/
theorem idle_zipWith_stops :
    ∀ (handles : List Handle) (answers : List (Except ProcessFault SignalOutcome)),
      Idle (List.zipWith stops handles answers).flatten
        ∧ Trace.launched (List.zipWith stops handles answers).flatten = []
  | [], _ => ⟨⟨rfl, rfl, rfl⟩, rfl⟩
  | _ :: _, [] => ⟨⟨rfl, rfl, rfl⟩, rfl⟩
  | h :: handles, answer :: answers => by
    obtain ⟨hidle, hlaunched⟩ := idle_stops h answer
    obtain ⟨hidle', hlaunched'⟩ := idle_zipWith_stops handles answers
    rw [List.zipWith_cons_cons, List.flatten_cons, Trace.launched_append, hlaunched, hlaunched']
    exact ⟨hidle.append hidle', rfl⟩

/-- A run that is cut short before anything is interrupted, and is then given up, leaves a faithful
log. -/
theorem abandon_faithful (P : Ports σ) (cut : Cut) (h : Reported c plan k n w)
    (hunstopped : Unstopped w) :
  Faithful plan (.cut cut) (abandon P c w).events
  := by
  -- nothing was interrupted, so that all that were launched are live
  have hlive : Trace.launched w.deeds = w.live := by
    rw [h.orderly.accounted.deeds, hunstopped, List.nil_append]
  rw [abandon]
  split
  case isTrue hnone =>
    apply h.faithful (List.append_nil _).symm tells_nil rfl
    rw [hlive, List.isEmpty_iff.mp hnone]
    rfl
  case isFalse hsome =>
    rw [List.isEmpty_iff] at hsome
    obtain ⟨-, -, -, answers, hlength, hdeeds⟩ := stopAll_moves (c := c) P
      (w.tell (.abandoned w.live.length)).live {} (w.tell (.abandoned w.live.length)) rfl
    obtain ⟨hidle, hlaunched⟩ := idle_zipWith_stops w.live answers
    rw [World.deeds_tell, List.append_assoc] at hdeeds
    change (teardownWorld P c (w.tell (.abandoned w.live.length))).2.deeds = w.deeds
      ++ ([.noticed (.abandoned w.live.length)] ++ (List.zipWith stops w.live answers).flatten)
      at hdeeds
    apply h.faithful hdeeds
    case htells =>
      apply tells_abandoned _ _ hsome hlength
      · rw [Trace.interrupted_doings]
        exact hunstopped
      · rw [Trace.launched_doings, hlive]
    case hexecutions =>
      rw [Trace.executions_append, hidle.executions]
      rfl
    case hendings =>
      rw [hdeeds, Trace.launched_append, Trace.launched_append, hlaunched, hlive,
        Trace.endings_append, hidle.endings]
      change [Notice.abandoned w.live.length] = ending _ (w.live ++ [])
      rw [List.append_nil]
      cases hw : w.live with
      | nil => cases hsome hw
      | cons first rest => rfl

/-- A phase before which nothing is told tells when it is entered. -/
theorem tells_enter {p : Phase} (h : w.Orderly c) (hbefore : beforePhase plan p = []) :
  Tells plan verdict (Trace.doings w.deeds)
    (entering w.phase p ++ (afterPhase plan verdict p).map .noticed)
  := by
  have htells : Tells plan verdict (Trace.doings w.deeds) ((beforePhase plan p).map .noticed
      ++ entering w.phase p ++ (afterPhase plan verdict p).map .noticed) :=
    tells_entering (phase_eq_getLast? h)
  rw [hbefore] at htells
  exact htells

/-- What a run has done from a world on until nothing is left to do: it tells, with what the log is
told then, unless the run is cut short, and is idle. -/
structure Finished (plan : Plan) (w : World σ) (ds : List Event) : Prop where
  /-- It tells. -/
  tells : ∀ verdict, (∀ k, verdict ≠ .cut k) →
    Tells plan verdict (Trace.doings w.deeds) (ds ++ (afterPhase plan verdict .done).map .noticed)
  /-- It is idle. -/
  idle : Idle ds

/-- The teardown of a run, after which something goes on. -/
theorem finish_tells (P : Ports σ) (plan : Plan) {f : Teardown → Session σ β}
    {ok : β → World σ → Prop} {cut : Cut → World σ → Prop} (hw : w.Orderly c)
    (hrest : ∀ t finishing w', w'.deeds = w.deeds ++ finishing → Finished plan w finishing →
      Session.Ends (f t) w' ok cut) :
  Session.Ends (do
    Session.enter .teardown
    let t ← teardown P c
    Session.enter .done
    f t) w ok cut
  := by
  rw [Session.ends_bind]
  apply Session.Ends.mono (Session.enter_tells (c := c) .teardown w) _ (by simp)
  rintro _ w₁ ⟨hmoves₁, ds₁, hds₁, (rfl : ds₁ = entering w.phase .teardown), -⟩
  rw [Session.ends_bind]
  apply Session.Ends.mono (teardown_does (c := c) P w₁) _ (by simp)
  rintro t w₂ ⟨hmoves₂, _, hds₂, -, -, answers, -, rfl⟩
  rw [Session.ends_bind]
  apply Session.Ends.mono (Session.enter_tells (c := c) .done w₂) _ (by simp)
  rintro _ w₃ ⟨-, ds₃, hds₃, (rfl : ds₃ = entering w₂.phase .done), -⟩
  apply hrest t (entering w.phase .teardown
    ++ ((List.zipWith stops w₁.live answers).flatten ++ entering w₂.phase .done))
  · rw [hds₃, hds₂, hds₁, List.append_assoc, List.append_assoc]
  · constructor
    case tells =>
      intro verdict hverdict
      have hteardown : Tells plan verdict (Trace.doings w.deeds)
          (entering w.phase .teardown ++ []) := tells_enter hw rfl
      have hdone : Tells plan verdict (Trace.doings w₂.deeds)
          (entering w₂.phase .done ++ (afterPhase plan verdict .done).map .noticed) :=
        tells_enter (hmoves₂.orderly (hmoves₁.orderly hw)) rfl
      rw [hds₂, hds₁, Trace.doings_append, Trace.doings_append] at hdone
      rw [List.append_nil] at hteardown
      rw [List.append_assoc, List.append_assoc]
      apply hteardown.append
      apply Tells.append _ hdone
      apply tells_zipWith_stops
      intro k hk
      cases hverdict k hk
    case idle =>
      apply (idle_entering _ _).append
      apply (idle_zipWith_stops _ _).1.append
      apply idle_entering

/-- A run that has succeeded so far passes, and leaves a faithful log. -/
theorem passing_faithful (P : Ports σ) (runId : String) (attempts : Nat)
    (h : Reported c plan k n w) :
  Session.Ends (do
    Session.enter .teardown
    let t ← teardown P c
    Session.enter .done
    Session.tell (.passed (w.live.map Handle.name).length attempts)
    return (.ok ⟨runId, w.live.map Handle.name, attempts, t⟩ : Except RunFault Summary)) w
    (fun result w' => ∃ summary, result = .ok summary
      ∧ Faithful plan (.passed summary) w'.events)
    (fun _ _ => False)
  := by
  apply finish_tells P plan h.orderly
  intro t finishing w' hds hfinished
  rw [Session.ends_bind, Session.ends_tell, Session.ends_pure]
  use ⟨runId, w.live.map Handle.name, attempts, t⟩, rfl
  have hds' := w'.deeds_tell (.passed (w.live.map Handle.name).length attempts)
  rw [hds, List.append_assoc] at hds'
  apply h.faithful hds'
  case htells =>
    apply hfinished.tells
    rintro _ ⟨⟩
  case hexecutions =>
    rw [Trace.executions_append, hfinished.idle.executions]
    rfl
  case hendings =>
    rw [Trace.endings_append, hfinished.idle.endings]
    rfl

/-- A run with a fault fails, and leaves a faithful log. -/
theorem failing_faithful (P : Ports σ) (fault : RunFault) (h : Reported c plan k n w) :
  Session.Ends (do
    Session.enter .failed
    Session.tell (.runFailed fault)
    Session.enter .teardown
    let _ ← teardown P c
    Session.enter .done
    return (.error fault : Except RunFault Summary)) w
    (fun result w' => result = .error fault ∧ Faithful plan (.failed fault) w'.events)
    (fun _ _ => False)
  := by
  rw [Session.ends_bind]
  apply Session.Ends.mono (Session.enter_tells (c := c) .failed w) _ (by simp)
  rintro _ w₁ ⟨hmoves, ds₁, hds₁, (rfl : ds₁ = entering w.phase .failed), -⟩
  rw [Session.ends_bind, Session.ends_tell]
  have hds₂ := w₁.deeds_tell (.runFailed fault)
  rw [hds₁, List.append_assoc] at hds₂
  apply finish_tells P plan (Move.orderly (.tells w₁ _) (hmoves.orderly h.orderly))
  intro t finishing w' hds hfinished
  rw [Session.ends_pure]
  use rfl
  rw [hds₂, List.append_assoc] at hds
  apply h.faithful hds
  case htells =>
    have hfailed : Tells plan (.failed fault) (Trace.doings w.deeds)
        (entering w.phase .failed ++ [.noticed (.runFailed fault)]) := tells_enter h.orderly rfl
    have hrest : Tells plan (.failed fault)
        (Trace.doings (w₁.tell (.runFailed fault)).deeds) (finishing ++ []) := by
      apply hfinished.tells
      rintro _ ⟨⟩
    rw [hds₂, Trace.doings_append, List.append_nil] at hrest
    apply hfailed.append hrest
  case hexecutions =>
    rw [Trace.executions_append, Trace.executions_append, (idle_entering _ _).executions,
      hfinished.idle.executions]
    rfl
  case hendings =>
    rw [Trace.endings_append, Trace.endings_append, (idle_entering _ _).endings,
      hfinished.idle.endings]
    rfl

/-! ### Whole runs -/

/-- A run whose plan has no defect leaves a faithful log, however it ends. -/
theorem faithful_of_no_defect (P : Ports σ) (c : Controls) {plan : Plan} (runId : String)
    (ports : σ) (hplan : plan.defect? = none) :
  Faithful plan (perform P c plan runId ports).verdict (perform P c plan runId ports).world.events
  := by
  have hdrive := Attempt.Ends.and (drive_reports P (started_reported c plan ports))
    (drive_unstopped P c plan _ (unstopped_started c plan ports))
  apply perform_of_guarded (R := fun verdict w => Faithful plan verdict w.events) hplan
  rw [guarded, Session.ends_bind, Session.ends_tell, Session.ends_bind]
  apply Session.Ends.mono hdrive
  · rintro (fault | attempts) w ⟨⟨k, n, h⟩, -⟩
    · apply Session.Ends.mono (failing_faithful P fault h)
      · rintro _ w' ⟨rfl, hfaithful⟩
        constructor
        · rintro _ ⟨⟩
        · rintro _ ⟨⟩
          exact hfaithful
      · intro _ _ h
        exact h.elim
    · apply Session.Ends.mono (passing_faithful P runId attempts h)
      · rintro _ w' ⟨summary, rfl, hfaithful⟩
        constructor
        · rintro _ ⟨⟩
          exact hfaithful
        · rintro _ ⟨⟩
      · intro _ _ h
        exact h.elim
  · rintro cut w ⟨⟨k, n, h⟩, hunstopped⟩
    apply abandon_faithful P cut h hunstopped

/-- The log of a run is a faithful account of it: for each thing that the run does the log is told
what is to be told of it, in order, and nothing else; and what it does is what its ports were asked,
with their answers.  Nothing is told where the plan has a defect. -/
theorem perform_faithful (P : Ports σ) (c : Controls) (plan : Plan) (runId : String) (ports : σ) :
  let r := perform P c plan runId ports
  (match plan.defect? with
    | some _ => r.world.notices = []
    | none => Faithful plan r.verdict r.world.events)
    ∧ Transcript P plan.interval { ports := ports } r.world.standing
  := by
  intro r
  apply And.intro _ (perform_transcribed P c plan runId ports)
  split
  case h_1 defect hplan =>
    have hworld : r.world = World.initial c ports := by
      change (perform P c plan runId ports).world = _
      rw [perform, hplan]
    rw [hworld, World.initial]
    split
    · rfl
    · rfl
  case h_2 hplan => apply faithful_of_no_defect P c runId ports hplan

end ServiceHarness.Run
