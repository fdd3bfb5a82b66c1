import Mathlib.Data.List.Chain
import ServiceHarness.Proofs.Run.Closing
import ServiceHarness.Proofs.Run.Driving

/-!
# The history of a run

The phases that a run enters are the path of its plan, or a first part of it that ends where the
run fails, and what then follows.  Each of them may precede the next one, so the log is never told
that a phase does not follow: that is told only where it is true (`World.Candid`).
`Harness.perform_history` says both of every run, whatever runs were performed before.
-/

namespace ServiceHarness

variable {σ : Type} {c : Controls} {w w' : World σ}

/-! ### What the log is told of phases -/

/-- Nothing is told of phases that do not follow. -/
def Trace.Expected (ds : List Event) : Prop :=
  ∀ before after, .noticed (.unexpectedPhase before after) ∉ ds

theorem Trace.Expected.append {ds ds' : List Event} (h : Trace.Expected ds)
    (h' : Trace.Expected ds') :
  Trace.Expected (ds ++ ds')
  := by
  intro before after hmem
  obtain hmem | hmem := List.mem_append.mp hmem
  · apply h before after hmem
  · apply h' before after hmem

theorem Trace.Plain.expected {ds : List Event} (h : Trace.Plain ds) :
  Trace.Expected ds
  := by
  intro before after hmem
  cases h _ hmem

/-- If the log is told that a phase does not follow, that is true: the two phases were entered one
right after the other, and the first may not precede the second. -/
def World.Candid (w : World σ) : Prop :=
  ∀ before after, .noticed (.unexpectedPhase before after) ∈ w.deeds →
    [before, after] <:+: Trace.phases w.deeds ∧ before.mayPrecede after = false

/-- Nothing is told in vain where each phase may precede the next. -/
theorem World.Candid.expected (h : w.Candid)
    (hchain : (Trace.phases w.deeds).IsChain fun p q => p.mayPrecede q = true) :
  Trace.Expected w.deeds
  := by
  intro before after hmem
  obtain ⟨hpair, hfalse⟩ := h before after hmem
  have hboth := hchain.infix hpair
  have htrue := List.isChain_pair.mp hboth
  rw [hfalse] at htrue
  cases htrue

/-- A world in which the phase is known and the log was told the truth. -/
def World.Truthful (c : Controls) (w : World σ) : Prop :=
  w.Orderly c ∧ w.Candid

/-- What tells nothing of phases that do not follow leaves the log truthful. -/
theorem World.Truthful.append {ds : List Event} (h : w.Truthful c) (hmoves : Moves c w w')
    (hds : w'.deeds = w.deeds ++ ds) (hexpected : Trace.Expected ds) :
  w'.Truthful c
  := by
  use hmoves.orderly h.1
  intro before after hmem
  rw [hds] at hmem ⊢
  obtain hmem | hmem := List.mem_append.mp hmem
  · obtain ⟨hpair, hfalse⟩ := h.2 before after hmem
    rw [Trace.phases_append]
    exact ⟨hpair.trans (List.prefix_append _ _).isInfix, hfalse⟩
  · cases hexpected before after hmem

/-- The log is told that a phase does not follow only if it does not follow the one before it. -/
theorem Session.mem_enterNotices {current : Option Phase} {p before after : Phase}
    (h : .unexpectedPhase before after ∈ Session.enterNotices current p) :
  current = some before ∧ after = p ∧ before.mayPrecede p = false
  := by
  cases current with
  | none => cases h
  | some q =>
    rw [enterNotices] at h
    split at h
    case isTrue hfalse =>
      cases List.mem_singleton.mp h
      use rfl, rfl
      simpa using hfalse
    case isFalse => cases h

/-- To enter a phase leaves the log truthful: the phase that is known is the one that was entered
last. -/
theorem Session.enter_truthful (p : Phase) :
  Session.Maintains (World.Truthful (σ := σ) c) (World.Truthful c) (Session.enter p)
  := by
  apply Session.maintains_of_does (Session.enter_tells p)
  rintro w _ _ w' hw hmoves hds ⟨rfl, -⟩
  have hphases : Trace.phases w'.deeds = Trace.phases w.deeds ++ [p] := by
    rw [hds, Trace.phases_append, Trace.phases_append, Trace.phases_notices]
    rfl
  use hmoves.orderly hw.1
  intro before after hmem
  rw [hphases]
  rw [hds, ← List.append_assoc] at hmem
  obtain hmem | hmem := List.mem_append.mp hmem
  · obtain hmem | hmem := List.mem_append.mp hmem
    · obtain ⟨hpair, hfalse⟩ := hw.2 before after hmem
      exact ⟨hpair.trans (List.prefix_append _ _).isInfix, hfalse⟩
    · obtain ⟨n, hn, hnotice⟩ := List.mem_map.mp hmem
      cases hnotice
      obtain ⟨hcurrent, rfl, hfalse⟩ := Session.mem_enterNotices hn
      have hlast : (Trace.phases w.deeds).getLast? = some before := by
        rw [World.deeds, Trace.phases_deeds, ← hw.1.current, hcurrent]
      obtain ⟨earlier, hearlier⟩ := List.getLast?_eq_some_iff.mp hlast
      use ⟨earlier, [], by rw [hearlier]; simp⟩, hfalse
  · cases List.mem_singleton.mp hmem

namespace Run

/-- A stage leaves the log truthful. -/
theorem stage_truthful (P : Ports σ) (c : Controls) (phase : Phase) (n : Notice)
    (i : Invocation) (failure : Int → RunFault) (hn : Event.isPlain (.noticed n) = true) :
  Attempt.Maintains (World.Truthful c) (fun _ => World.Truthful c) (World.Truthful c)
    (stage P c phase n i failure)
  := by
  -- whatever else a stage does, it tells the log nothing but what is given
  have hexpected : ∀ ds : List Event, (∀ e ∈ ds, e.notice? = none) →
      Trace.Expected (.noticed n :: ds) := by
    intro ds hds before after hmem
    obtain hmem | hmem := List.mem_cons.mp hmem
    · cases hmem
      cases hn
    · cases hds _ hmem
  intro w hw
  apply Attempt.Ends.mono (stage_does P c phase n i failure w)
  · rintro _ w' ⟨hmoves, _, hds, millis, rfl⟩
    apply hw.append hmoves hds
    apply hexpected
    simp [Event.notice?]
  · rintro fault w' ⟨hmoves, ds, hds, hfails⟩
    apply hw.append hmoves hds
    cases hfails with
    | overtaken _ hds =>
      obtain rfl | rfl := hds
      · intro _ _ hmem
        cases hmem
      · apply hexpected
        simp [Event.notice?]
    | broken fault =>
      apply hexpected
      simp [Event.notice?]
    | rejected completion =>
      apply hexpected
      simp [Event.notice?]
  · rintro k w' ⟨hmoves, _, hds, rfl, -⟩
    apply hw.append hmoves hds
    apply hexpected
    simp [Event.notice?]

/-- The part of a run before its teardown leaves the log truthful. -/
theorem drive_truthful (P : Ports σ) (c : Controls) (plan : Plan) :
  Attempt.Maintains (World.Truthful c) (fun _ => World.Truthful c) (World.Truthful c)
    (drive P c plan)
  := by
  apply drive_maintains P c plan Session.enter_truthful
  case hplain =>
    intro _ m hm
    apply Attempt.maintains_of_plain hm
    case happend =>
      intro w ds w' hw hmoves hds hplain
      apply hw.append hmoves hds hplain.expected
    case hfail => exact fun _ _ hw => hw
    case hcut => exact fun _ hw => hw
  case hstage =>
    intro phase n i failure _ hn
    apply stage_truthful P c phase n i failure hn

/-! ### Whole runs -/

theorem expected_stops (h : Handle) (answer : Except ProcessFault SignalOutcome) :
  Trace.Expected (stops h answer)
  := by
  intro before after
  rcases answer with fault | (_ | _)
  all_goals simp [stops, answerNotice]

theorem expected_zipWith_stops (handles : List Handle)
    (answers : List (Except ProcessFault SignalOutcome)) :
  Trace.Expected (List.zipWith stops handles answers).flatten
  := by
  have hstops : ∀ e ∈ (List.zipWith stops handles answers).flatten,
      ∀ before after, e ≠ .noticed (.unexpectedPhase before after) := by
    apply forall_mem_stops
    rintro h answer e he before after rfl
    apply expected_stops h answer before after he
  intro before after hmem
  apply hstops _ hmem before after rfl

theorem expected_noticed {n : Notice} (hn : Event.isPlain (.noticed n) = true) :
  Trace.Expected [.noticed n]
  := by
  apply Trace.Plain.expected
  intro e he
  rw [List.mem_singleton.mp he]
  exact hn

theorem tell_truthful {n : Notice} (hn : Event.isPlain (.noticed n) = true) :
  Session.Maintains (World.Truthful (σ := σ) c) (World.Truthful c) (Session.tell n)
  := by
  intro w hw
  apply hw.append (.single (.tells w n)) (w.deeds_tell n) (expected_noticed hn)

theorem teardown_truthful (P : Ports σ) :
  Session.Maintains (World.Truthful c) (World.Truthful c) (teardown P c)
  := by
  apply Session.maintains_of_does (teardown_does P)
  rintro w t _ w' hw hmoves hds ⟨-, -, answers, -, rfl⟩
  apply hw.append hmoves hds (expected_zipWith_stops w.live answers)

/-- A run begins with a truthful log. -/
theorem initial_truthful (c : Controls) (ports : σ) :
  (World.initial c ports).Truthful c
  := by
  use World.orderly_initial c ports
  intro before after hmem
  rw [(initial_blank c ports).2] at hmem
  cases hmem

/-- A run leaves the log truthful, also if it is cut short. -/
theorem perform_truthful (P : Ports σ) (c : Controls) (plan : Plan) (runId : String)
    (ports : σ) :
  (perform P c plan runId ports).world.Truthful c
  := by
  apply perform_maintains (fun _ => tell_truthful) (teardown_truthful P) Session.enter_truthful
  case hinitial => apply initial_truthful
  case hdrive =>
    apply drive_truthful P c plan
    apply (initial_truthful c ports).append (started_moves c plan ports) (World.deeds_tell _ _)
    apply expected_noticed rfl

/-- The phases that a run has entered, by its verdict. -/
def Leaves (plan : Plan) (phases : List Phase) : Verdict → Prop
  | .passed _ => phases = plan.path ++ [.teardown, .done]
  | .failed fault => ∃ before p after, plan.path = before ++ p :: after ∧ fault.Fits p
    ∧ phases = before ++ [p, .failed, .teardown, .done]
  | .cut _ => phases ≠ [] ∧ phases <+: plan.path

/-- A run of a plan without defects goes along the path of the plan. -/
theorem perform_leaves (P : Ports σ) (c : Controls) {plan : Plan} (runId : String) (ports : σ)
    (hplan : plan.defect? = none) :
  let r := perform P c plan runId ports
  Leaves plan r.world.phases r.verdict
  := by
  intro r
  have hcloses := perform_closes P c runId ports hplan (drive_enters P c ports hplan)
  change ClosesAs _ _ _ _ r at hcloses
  rw [ClosesAs] at hcloses
  have hphases : r.world.phases = Trace.phases r.world.deeds :=
    (Trace.phases_deeds r.world.events).symm
  rw [hphases]
  cases hverdict : r.verdict with
  | passed summary =>
    rw [hverdict] at hcloses
    obtain ⟨w, hpath, -, ds, hds, hclosing, -⟩ := hcloses
    rw [Leaves, hds, Trace.phases_append, hpath, hclosing]
  | failed fault =>
    rw [hverdict] at hcloses
    obtain ⟨w, ⟨before, p, after, hpath, hphases, hfits⟩, -, ds, hds, hclosing, -⟩ := hcloses
    use before, p, after, hpath, hfits
    rw [hds, Trace.phases_append, hphases, hclosing, List.append_assoc]
    rfl
  | cut k =>
    rw [hverdict] at hcloses
    obtain ⟨w, hpath, -, ds, hds, hclosing, -⟩ := hcloses
    rw [Leaves, hds, Trace.phases_append, hclosing, List.append_nil]
    exact hpath

/-! ### Histories -/

/-- Each phase may precede the next one. -/
def Lawful (phases : List Phase) : Prop :=
  phases.IsChain fun p q => p.mayPrecede q = true

theorem lawful_path (plan : Plan) :
  Lawful (plan.path ++ [.teardown, .done])
  := by
  rw [Lawful, Plan.path]
  cases plan.workspaceTests with
  | true => decide
  | false => decide

/-- A run can fail in every phase of its path. -/
theorem mayPrecede_failed_of_path {plan : Plan} {p : Phase} (h : p ∈ plan.path) :
  p.mayPrecede .failed = true
  := by
  rw [Plan.path] at h
  cases hwanted : plan.workspaceTests with
  | true =>
    rw [hwanted] at h
    revert p
    decide
  | false =>
    rw [hwanted] at h
    revert p
    decide

/-- What a run leaves is lawful. -/
theorem Leaves.lawful {plan : Plan} {phases : List Phase} {verdict : Verdict}
    (h : Leaves plan phases verdict) :
  Lawful phases
  := by
  cases verdict with
  | passed summary =>
    rw [Leaves] at h
    rw [h]
    apply lawful_path
  | failed fault =>
    obtain ⟨before, p, after, hpath, -, rfl⟩ := h
    have hfirst : Lawful (before ++ [p]) := by
      apply List.IsChain.prefix (lawful_path plan)
      rw [hpath]
      exact ⟨after ++ [.teardown, .done], by simp⟩
    have hmem : p ∈ plan.path := by
      rw [hpath]
      simp
    have hfailed := mayPrecede_failed_of_path hmem
    apply List.isChain_append_cons_cons.mpr
    exact ⟨hfirst, hfailed, by decide⟩
  | cut k =>
    obtain ⟨-, hpath⟩ := h
    apply List.IsChain.prefix (lawful_path plan) (hpath.trans (List.prefix_append _ _))

/-- The harness after runs that are performed one after the other, each under its own controls, of
its own plan and with its own name. -/
def Harness.after (h : Harness σ) (P : Ports σ) : List (Controls × Plan × String) → Harness σ
  | [] => h
  | (c, plan, runId) :: rest => (h.perform P c plan runId).2.after P rest

/-- A plan with a defect is refused, and leaves the history as it was. -/
theorem Harness.perform_of_defect (h : Harness σ) (P : Ports σ) (c : Controls) {plan : Plan}
    (runId : String) {defect : Defect} (hplan : plan.defect? = some defect) :
  (h.perform P c plan runId).1.verdict = .failed (.configuration defect)
    ∧ (h.perform P c plan runId).2.history = h.history
  := by
  rw [Harness.perform, Run.perform, hplan]
  exact ⟨rfl, rfl⟩

/-- After a run of a plan without defects the history is that of the run. -/
theorem Harness.history_perform (h : Harness σ) (P : Ports σ) (c : Controls) {plan : Plan}
    (runId : String) (hplan : plan.defect? = none) :
  (h.perform P c plan runId).2.history = (h.perform P c plan runId).1.world.phases
  := by
  rw [Harness.perform, hplan]
  rfl

/-- One more run leaves a lawful history, of which nothing changes if the plan has a defect. -/
theorem Harness.lawful_perform {h : Harness σ} (hlawful : Lawful h.history) (P : Ports σ)
    (c : Controls) (plan : Plan) (runId : String) :
  Lawful (h.perform P c plan runId).2.history
  := by
  cases hplan : plan.defect? with
  | some defect =>
    rw [(h.perform_of_defect P c runId hplan).2]
    exact hlawful
  | none =>
    rw [h.history_perform P c runId hplan]
    apply (perform_leaves P c runId h.ports hplan).lawful

/-- Any number of runs leave a lawful history. -/
theorem Harness.lawful_after (P : Ports σ) :
    ∀ (requests : List (Controls × Plan × String)) (h : Harness σ), Lawful h.history →
      Lawful (h.after P requests).history
  | [], _, hlawful => hlawful
  | (c, plan, runId) :: rest, h, hlawful =>
    lawful_after P rest (h.perform P c plan runId).2 (lawful_perform hlawful P c plan runId)

/-- In a run the log is told nothing of phases that do not follow. -/
theorem perform_expected (P : Ports σ) (c : Controls) (plan : Plan) (runId : String)
    (ports : σ) (before after : Phase) :
  .unexpectedPhase before after ∉ (perform P c plan runId ports).world.notices
  := by
  have hlawful : Lawful (Trace.phases (perform P c plan runId ports).world.deeds) := by
    cases hplan : plan.defect? with
    | some defect =>
      rw [perform, hplan, (initial_blank c ports).2]
      apply List.IsChain.nil
    | none =>
      rw [World.deeds, Trace.phases_deeds]
      apply (perform_leaves P c runId ports hplan).lawful
  have hexpected := (perform_truthful P c plan runId ports).2.expected hlawful
  intro hmem
  obtain ⟨e, he, hnotice⟩ := List.mem_filterMap.mp hmem
  cases e with
  | noticed n =>
    cases hnotice
    apply hexpected before after
    apply List.mem_filter.mpr
    exact ⟨he, rfl⟩
  | _ => cases hnotice

/-- Whatever runs were performed before, of the history after one more run each phase may precede
the next, the log was told nothing of phases that do not follow, and the history agrees with the
verdict: it is the whole path of the plan, or a part of it up to a phase that the fault fits, and
the phases that follow; a plan with a defect leaves the history as it was. -/
theorem Harness.perform_history (P : Ports σ) (ports : σ)
    (requests : List (Controls × Plan × String)) (c : Controls) (plan : Plan) (runId : String) :
  let h := ({ ports := ports } : Harness σ).after P requests
  let r := (h.perform P c plan runId).1
  let history := (h.perform P c plan runId).2.history
  (history.IsChain fun p q => p.mayPrecede q = true)
    ∧ (∀ before after, .unexpectedPhase before after ∉ r.world.notices)
    ∧ match r.verdict with
      | .passed _ => history = plan.path ++ [.teardown, .done]
      | .failed (.configuration _) => history = h.history
      | .failed fault => ∃ before p after, plan.path = before ++ p :: after ∧ fault.Fits p
        ∧ history = before ++ [p, .failed, .teardown, .done]
      | .cut _ => history ≠ [] ∧ history <+: plan.path
  := by
  intro h r history
  have hlawful : Lawful h.history := by
    apply Harness.lawful_after
    apply List.IsChain.nil
  constructor
  · apply Harness.lawful_perform hlawful
  · constructor
    · apply perform_expected
    · cases hplan : plan.defect? with
      | some defect =>
        obtain ⟨hverdict, hhistory⟩ := h.perform_of_defect P c runId hplan
        rw [hverdict]
        apply hhistory
      | none =>
        have hhistory : history = r.world.phases := h.history_perform P c runId hplan
        have hleaves : Leaves plan history r.verdict := by
          rw [hhistory]
          apply perform_leaves P c runId h.ports hplan
        cases hverdict : r.verdict with
        | passed summary =>
          rw [hverdict] at hleaves
          exact hleaves
        | failed fault =>
          rw [hverdict] at hleaves
          cases fault with
          | configuration defect =>
            -- no phase fits a defect
            obtain ⟨_, _, _, -, hfits, -⟩ := hleaves
            cases hfits
          | _ => exact hleaves
        | cut k =>
          rw [hverdict] at hleaves
          exact hleaves

end Run

end ServiceHarness
