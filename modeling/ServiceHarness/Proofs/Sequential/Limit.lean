import ServiceHarness.Proofs.Sequential.Basic

/-!
# The limit of a sequential run

A limit matters to a sequential run only where it is given up there.  `Heeds` says so of a step: time
does not go back, what the step comes to without a limit it comes to under every limit that is no
earlier, and what it comes to under a limit without being given up it comes to without one.  It goes
along with the constructs of steps, and so `perform_of_reached` and `perform_of_not_dropped` say it of
whole runs.
-/

namespace ServiceHarness.Sequential

open Run

variable {σ α β : Type}

/-- The limit matters to the step only where the step is given up there. -/
structure Heeds (f : Option Nat → Step σ α) : Prop where
  /-- Time does not go back. -/
  later : ∀ {limit p r p'}, (f limit).run.run p = some (r, p') → p.now ≤ p'.now
  /-- What the step comes to without a limit it comes to under one that is no earlier. -/
  reached : ∀ {l p r p'}, (f none).run.run p = some (r, p') → p'.now ≤ l →
    (f (some l)).run.run p = some (r, p')
  /-- What it comes to under a limit, unless it is given up there, it comes to without one. -/
  kept : ∀ {l p r p'}, (f (some l)).run.run p = some (r, p') → r ≠ .error .dropped →
    (f none).run.run p = some (r, p')

/-! ### The constructs of steps -/

/-- A step that does not know of the limit. -/
theorem heeds_const {m : Step σ α} (h : ∀ {p r p'}, m.run.run p = some (r, p') → p.now ≤ p'.now) :
  Heeds fun _ => m
  := ⟨h, fun h _ => h, fun h _ => h⟩

theorem heeds_pure (a : α) :
  Heeds (σ := σ) fun _ => pure a
  := by
  apply heeds_const
  rintro p _ _ ⟨⟩
  apply Nat.le_refl

theorem heeds_record (e : Event) :
  Heeds (σ := σ) fun _ => record e
  := by
  apply heeds_const
  rintro p _ _ ⟨⟩
  apply Nat.le_refl

/-- A walk as a step does what it does. -/
theorem run_lift_eq_some {m : Walk σ α} {p p' : Standing σ} {r : Except Cut α} :
  (liftM m : Step σ α).run.run p = some (r, p') ↔ ∃ a, m.run p = some (a, p') ∧ r = .ok a
  := by
  change (m.run p >>= fun x => some (Except.ok x.1, x.2)) = some (r, p') ↔ _
  rw [Option.bind_eq_bind, Option.bind_eq_some_iff]
  constructor
  · rintro ⟨⟨a, _⟩, hm, ⟨⟩⟩
    exact ⟨a, hm, rfl⟩
  · rintro ⟨a, hm, rfl⟩
    exact ⟨_, hm, rfl⟩

theorem heeds_lift {m : Walk σ α} (h : ∀ {p a p'}, m.run p = some (a, p') → p.now ≤ p'.now) :
  Heeds fun _ => (liftM m : Step σ α)
  := by
  apply heeds_const
  intro p r p' hrun
  obtain ⟨a, hm, -⟩ := run_lift_eq_some.mp hrun
  apply h hm

theorem run_follow_eq_some {limit : Option Nat} {activity : σ → Nat → Activity σ α}
    {p p' : Standing σ} {r : Except Cut α} :
  (follow limit activity).run.run p = some (r, p') ↔
    ∃ s t, (activity p.ports p.now).course limit p.now = some (r, s, t)
      ∧ p' = { p with ports := s, now := t }
  := by
  change Option.map _ ((activity p.ports p.now).course limit p.now) = _ ↔ _
  rw [Option.map_eq_some_iff]
  constructor
  · rintro ⟨⟨_, s, t⟩, hcourse, ⟨⟩⟩
    exact ⟨s, t, hcourse, rfl⟩
  · rintro ⟨s, t, hcourse, rfl⟩
    exact ⟨_, hcourse, rfl⟩

theorem heeds_follow (activity : σ → Nat → Activity σ α) :
  Heeds fun limit => follow limit activity
  := by
  constructor
  case later =>
    intro limit p r p' h
    obtain ⟨s, t, hcourse, rfl⟩ := run_follow_eq_some.mp h
    apply Activity.le_of_course hcourse
  case reached =>
    intro l p r p' h hl
    obtain ⟨s, t, hcourse, rfl⟩ := run_follow_eq_some.mp h
    exact run_follow_eq_some.mpr ⟨s, t, Activity.course_of_reached hcourse hl, rfl⟩
  case kept =>
    intro l p r p' h hr
    obtain ⟨s, t, hcourse, rfl⟩ := run_follow_eq_some.mp h
    exact run_follow_eq_some.mpr ⟨s, t, Activity.course_of_not_dropped hcourse hr, rfl⟩

theorem Heeds.bind {f : Option Nat → Step σ α} {g : Option Nat → α → Step σ β} (hf : Heeds f)
    (hg : ∀ a, Heeds fun limit => g limit a) :
  Heeds fun limit => f limit >>= g limit
  := by
  constructor
  case later =>
    intro limit p r p' h
    obtain ⟨k, hcut, -⟩ | ⟨a, p₁, hfirst, hrest⟩ := run_bind_eq_some.mp h
    · apply hf.later hcut
    · apply (hf.later hfirst).trans ((hg a).later hrest)
  case reached =>
    intro l p r p' h hl
    apply run_bind_eq_some.mpr
    obtain ⟨k, hcut, hr⟩ | ⟨a, p₁, hfirst, hrest⟩ := run_bind_eq_some.mp h
    · exact .inl ⟨k, hf.reached hcut hl, hr⟩
    · -- the first step is over when the second one is
      have hl₁ := ((hg a).later hrest).trans hl
      exact .inr ⟨a, p₁, hf.reached hfirst hl₁, (hg a).reached hrest hl⟩
  case kept =>
    intro l p r p' h hr
    apply run_bind_eq_some.mpr
    obtain ⟨k, hcut, rfl⟩ | ⟨a, p₁, hfirst, hrest⟩ := run_bind_eq_some.mp h
    · refine .inl ⟨k, hf.kept hcut ?_, rfl⟩
      rintro ⟨⟩
      exact hr rfl
    · exact .inr ⟨a, p₁, hf.kept hfirst (by rintro ⟨⟩), (hg a).kept hrest hr⟩

/-- A call ends with its activity. -/
theorem run_call_ok {limit : Option Nat} (begun : Event) (ended : α → Event)
    {begin : σ → Nat → Activity σ α} {p : Standing σ} {outcome : α} {s : σ} {t : Nat}
    (h : (begin p.ports p.now).course limit p.now = some (.ok outcome, s, t)) :
  (call limit begun ended begin).run.run p = some (.ok outcome,
    { p with ports := s, now := t, calls := p.calls ++ [begun] ++ [ended outcome] })
  := by
  have hfollow : (follow limit begin).run.run { p with calls := p.calls ++ [begun] }
      = some (.ok outcome, { p with ports := s, now := t, calls := p.calls ++ [begun] }) :=
    run_follow_eq_some.mpr ⟨s, t, h, rfl⟩
  apply run_bind_eq_some.mpr
  exact .inr ⟨(), _, rfl, run_bind_eq_some.mpr (.inr ⟨outcome, _, hfollow, rfl⟩)⟩

/-- A call is cut short with its activity. -/
theorem run_call_error {limit : Option Nat} (begun : Event) (ended : α → Event)
    {begin : σ → Nat → Activity σ α} {p : Standing σ} {k : Cut} {s : σ} {t : Nat}
    (h : (begin p.ports p.now).course limit p.now = some (.error k, s, t)) :
  (call limit begun ended begin).run.run p
    = some (.error k, { p with ports := s, now := t, calls := p.calls ++ [begun] })
  := by
  have hfollow : (follow limit begin).run.run { p with calls := p.calls ++ [begun] }
      = some (.error k, { p with ports := s, now := t, calls := p.calls ++ [begun] }) :=
    run_follow_eq_some.mpr ⟨s, t, h, rfl⟩
  apply run_bind_eq_some.mpr
  exact .inr ⟨(), _, rfl, run_bind_eq_some.mpr (.inl ⟨k, hfollow, rfl⟩)⟩

theorem heeds_call (begun : Event) (ended : α → Event) (begin : σ → Nat → Activity σ α) :
  Heeds fun limit => call limit begun ended begin
  := by
  apply (heeds_record begun).bind
  intro _
  apply (heeds_follow begin).bind
  intro outcome
  apply (heeds_record (ended outcome)).bind
  intro _
  apply heeds_pure

/-! ### The constructs of parts -/

/-- The limit matters to the part only where the part is given up there. -/
def HeedsPart (f : Option Nat → Part σ α) : Prop :=
  Heeds fun limit => (f limit).run

theorem heedsPart_pure (a : α) :
  HeedsPart (σ := σ) fun _ => pure a
  := heeds_pure _

theorem heedsPart_throw (fault : RunFault) :
  HeedsPart (σ := σ) (α := α) fun _ => throw fault
  := heeds_pure _

theorem HeedsPart.bind {f : Option Nat → Part σ α} {g : Option Nat → α → Part σ β}
    (hf : HeedsPart f) (hg : ∀ a, HeedsPart fun limit => g limit a) :
  HeedsPart fun limit => f limit >>= g limit
  := by
  simp only [HeedsPart, ExceptT.run_bind]
  apply Heeds.bind hf
  rintro (fault | a)
  · apply heeds_pure
  · apply hg a

/-- A step that cannot fail, and then a part. -/
theorem Heeds.liftBind {f : Option Nat → Step σ α} {g : Option Nat → α → Part σ β} (hf : Heeds f)
    (hg : ∀ a, HeedsPart fun limit => g limit a) :
  HeedsPart fun limit => liftM (f limit) >>= g limit
  := by
  simp only [HeedsPart, run_lift_bind]
  apply hf.bind hg

theorem heedsPart_forM {f : Option Nat → α → Part σ PUnit}
    (h : ∀ a, HeedsPart fun limit => f limit a) :
    ∀ l : List α, HeedsPart fun limit => l.forM (f limit)
  | [] => heedsPart_pure _
  | a :: rest => (h a).bind fun _ => heedsPart_forM h rest

/-! ### The parts of a run -/

theorem command_heeds (P : Ports σ) (i : Invocation) (failure : Int → RunFault) :
  HeedsPart fun limit => command limit P i failure
  := by
  apply (heeds_call _ _ _).liftBind
  rintro (fault | completion)
  · apply heedsPart_throw
  · dsimp only
    split
    · apply heedsPart_pure
    · apply heedsPart_throw

theorem start_heeds (P : Ports σ) (plan : Plan) (service : Service) :
  HeedsPart fun _ => start P plan service
  := by
  have hlaunch : Heeds fun _ => (liftM (launch P service.name
      (plan.invocation service.run plan.servicePatch)) : Step σ _) := by
    apply heeds_lift
    rintro p _ _ ⟨⟩
    apply Nat.le_refl
  apply hlaunch.liftBind
  rintro (fault | h)
  · apply heedsPart_throw
  · apply heedsPart_pure

theorem awaitWithin_heeds (P : Ports σ) (url : String) (interval : Nat) :
    ∀ left probes : Nat, HeedsPart fun limit => awaitWithin limit P url interval left probes
  | 0, _ => heeds_const fun h => by cases h
  | left + 1, probes => by
    apply (heeds_call _ _ _).liftBind
    rintro ((reason | reason) | _)
    · apply (heeds_follow _).liftBind
      intro _
      apply awaitWithin_heeds P url interval left (probes + 1)
    · apply heedsPart_throw
    · apply heedsPart_pure

/-- A wait heeds the limit because it has its result after some number of probes. -/
theorem awaitAnswer_heeds (P : Ports σ) (url : String) (interval : Nat) :
  HeedsPart fun limit => awaitAnswer limit P url interval
  := by
  have hwithin := fun left => awaitWithin_heeds P url interval left 0
  constructor
  case later =>
    intro limit p r p' h
    obtain ⟨left, h⟩ := run_awaitAnswer_eq_some.mp h
    apply (hwithin left).later h
  case reached =>
    intro l p r p' h hl
    obtain ⟨left, h⟩ := run_awaitAnswer_eq_some.mp h
    exact run_awaitAnswer_eq_some.mpr ⟨left, (hwithin left).reached h hl⟩
  case kept =>
    intro l p r p' h hr
    obtain ⟨left, h⟩ := run_awaitAnswer_eq_some.mp h
    exact run_awaitAnswer_eq_some.mpr ⟨left, (hwithin left).kept h hr⟩

theorem drive_heeds (P : Ports σ) (plan : Plan) :
  HeedsPart fun limit => drive limit P plan
  := by
  have htest : HeedsPart fun limit => testWorkspace limit P plan := by
    simp only [testWorkspace]
    split
    · apply command_heeds
    · apply heedsPart_pure
  have hawait : HeedsPart fun limit => await limit P plan := by
    apply (awaitAnswer_heeds P plan.url plan.interval).bind
    intro _
    apply heedsPart_pure
  apply HeedsPart.bind
  case hf => exact heedsPart_forM (fun _ => command_heeds P _ _) plan.services
  case hg =>
    intro _
    apply HeedsPart.bind
    case hf => exact heedsPart_forM (start_heeds P plan) plan.services
    case hg =>
      intro _
      apply htest.bind
      intro _
      apply hawait.bind
      intro attempts
      apply (command_heeds P _ _).bind
      intro _
      apply heedsPart_pure

/-! ### Whole runs -/

/-- To interrupt services takes no time. -/
theorem now_mapM_interrupt (P : Ports σ) :
    ∀ (handles : List Handle) {p p' : Standing σ}
      {answers : List (Except ProcessFault SignalOutcome)},
      (handles.mapM (interrupt P)).run p = some (answers, p') → p'.now = p.now
  | [], _, _, _, h => by
    cases h
    rfl
  | handle :: rest, p, p', answers, h => by
    rw [List.mapM_cons, StateT.run_bind, Option.bind_eq_bind] at h
    obtain ⟨⟨answer, p₁⟩, hfirst, h⟩ := Option.bind_eq_some_iff.mp h
    rw [StateT.run_bind, Option.bind_eq_bind] at h
    obtain ⟨⟨answers', p₂⟩, hrest, h⟩ := Option.bind_eq_some_iff.mp h
    cases hfirst
    cases h
    apply now_mapM_interrupt P rest hrest

/-- What follows a run takes no time, and tells how the run was cut short if it was. -/
theorem finish_eq_some {P : Ports σ} {runId : String} {outcome : Except Cut (Except RunFault Nat)}
    {p p' : Standing σ} {verdict : Verdict} (h : (finish P runId outcome).run p = some (verdict, p')) :
  p'.now = p.now ∧ ∀ k, outcome = .error k → verdict = .cut k
  := by
  rw [finish, StateT.run_bind, StateT.run_get, Option.pure_def, Option.bind_eq_bind,
    Option.bind_some, StateT.run_bind, Option.bind_eq_bind] at h
  obtain ⟨⟨t, p₁⟩, hteardown, h⟩ := Option.bind_eq_some_iff.mp h
  rw [teardown, StateT.run_bind, StateT.run_get, Option.pure_def, Option.bind_eq_bind,
    Option.bind_some, StateT.run_bind, Option.bind_eq_bind] at hteardown
  obtain ⟨⟨answers, p₂⟩, hinterrupt, hteardown⟩ := Option.bind_eq_some_iff.mp hteardown
  have hnow := now_mapM_interrupt P p.handles hinterrupt
  cases hteardown
  rcases outcome with k | fault | attempts
  · cases h
    use hnow
    rintro _ ⟨⟩
    rfl
  · cases h
    use hnow
    rintro _ ⟨⟩
  · cases h
    use hnow
    rintro _ ⟨⟩

theorem run_perform_eq_some {P : Ports σ} {plan : Plan} {runId : String} {limit : Option Nat}
    {p p' : Standing σ} {verdict : Verdict} :
  (perform P plan runId limit).run p = some (verdict, p') ↔
    ∃ outcome p₁, (drive limit P plan).run.run.run p = some (outcome, p₁)
      ∧ (finish P runId outcome).run p₁ = some (verdict, p')
  := by
  rw [perform, StateT.run_bind, Option.bind_eq_bind, Option.bind_eq_some_iff]
  constructor
  · rintro ⟨⟨outcome, p₁⟩, hdrive, hfinish⟩
    exact ⟨outcome, p₁, hdrive, hfinish⟩
  · rintro ⟨outcome, p₁, hdrive, hfinish⟩
    exact ⟨_, hdrive, hfinish⟩

/-- A run that comes to its end without a limit comes to the same end under one that is no
earlier. -/
theorem perform_of_reached {P : Ports σ} {plan : Plan} {runId : String} {l : Nat}
    {p p' : Standing σ} {verdict : Verdict}
    (h : (perform P plan runId none).run p = some (verdict, p')) (hl : p'.now ≤ l) :
  (perform P plan runId (some l)).run p = some (verdict, p')
  := by
  obtain ⟨outcome, p₁, hdrive, hfinish⟩ := run_perform_eq_some.mp h
  rw [(finish_eq_some hfinish).1] at hl
  exact run_perform_eq_some.mpr ⟨outcome, p₁, (drive_heeds P plan).reached hdrive hl, hfinish⟩

/-- A run that is not given up at its limit comes to the same end without one. -/
theorem perform_of_not_dropped {P : Ports σ} {plan : Plan} {runId : String} {l : Nat}
    {p p' : Standing σ} {verdict : Verdict}
    (h : (perform P plan runId (some l)).run p = some (verdict, p'))
    (hverdict : verdict ≠ .cut .dropped) :
  (perform P plan runId none).run p = some (verdict, p')
  := by
  obtain ⟨outcome, p₁, hdrive, hfinish⟩ := run_perform_eq_some.mp h
  refine run_perform_eq_some.mpr ⟨outcome, p₁, (drive_heeds P plan).kept hdrive ?_, hfinish⟩
  intro hdropped
  exact hverdict ((finish_eq_some hfinish).2 _ hdropped)

end ServiceHarness.Sequential
