import ServiceHarness.Proofs.Run.Congruence
import ServiceHarness.Proofs.Session.Abreast
import ServiceHarness.Proofs.Session.Polling
import ServiceHarness.Scripted

/-!
# A sender that goes

It makes no difference to a run at which instant the sender of its signal goes, as long as nothing
raises the signal (`perform_lost`).  A suspension that is woken by that finds the signal closed and
goes on waiting, and beyond that the sender counts only where a port raises the signal: to do the
same unless the signal is raised in the end is a congruence (`heedless_congruence`).
-/

namespace ServiceHarness

variable {σ : Type} {c : Controls}

namespace Session

/-- The second session does what the first does, unless the signal is raised in the end; a raised
signal stays raised. -/
structure Heedless (α : Type) (m m' : Session σ α) : Prop where
  /-- A raised signal stays raised. -/
  latches : ∀ w, w.raised = true → (world (m.run w)).raised = true
  /-- While it is not raised the second session does the same. -/
  same : ∀ w, (world (m.run w)).raised = false → m'.run w = m.run w

/-- What takes no notice of the sender. -/
theorem heedless_of_latches {α : Type} {m : Session σ α}
    (h : ∀ w, w.raised = true → (world (m.run w)).raised = true) :
  Heedless α m m
  := ⟨h, fun _ _ => rfl⟩

/-- A sender that goes is heeded as little as one that is silent. -/
theorem heedless_congruence (lostAt dropAt : Nat) :
  Congruence { dropAt := dropAt } { sender := .lost lostAt, dropAt := dropAt }
    (Heedless (σ := σ))
  := by
  constructor
  case dropAt => rfl
  case returns =>
    intro _ _
    apply heedless_of_latches
    exact fun _ hraised => hraised
  case cuts =>
    intro _ _
    apply heedless_of_latches
    exact fun _ hraised => hraised
  case binds =>
    intro _ _ m m' f f' h hf
    constructor
    case latches =>
      intro w hraised
      have hm := h.latches w hraised
      rw [EStateM.run_bind]
      cases hrun : m.run w with
      | ok a w' =>
        rw [hrun] at hm
        apply (hf a).latches w' hm
      | error k w' =>
        rw [hrun] at hm
        exact hm
    case same =>
      intro w hcalm
      rw [EStateM.run_bind] at hcalm
      -- the signal is not raised after the first part, as it would stay so
      have hm : (world (m.run w)).raised = false := by
        cases hrun : m.run w with
        | ok a w' =>
          rw [hrun] at hcalm
          change w'.raised = false
          cases hraised : w'.raised with
          | false => rfl
          | true =>
            rw [(hf a).latches w' hraised] at hcalm
            exact hcalm
        | error k w' =>
          rw [hrun] at hcalm
          exact hcalm
      rw [EStateM.run_bind, EStateM.run_bind, h.same w hm]
      cases hrun : m.run w with
      | ok a w' =>
        rw [hrun] at hcalm
        apply (hf a).same w' hcalm
      | error k w' => rfl
  case looks =>
    apply heedless_of_latches
    exact fun _ hraised => hraised
  case changes =>
    intro _ f hf
    apply heedless_of_latches
    apply hf.raised
  case suspends =>
    intro millis
    constructor
    case latches =>
      intro w hraised
      rw [run_suspend_of_raised millis hraised]
      exact hraised
    case same =>
      intro _ _
      rfl
  case raises =>
    constructor
    case latches =>
      intro w _
      apply w.raised_trip
    case same =>
      intro w hcalm
      -- a silent sender lets the port raise the signal
      change w.trip.raised = false at hcalm
      rw [w.raised_trip] at hcalm
      cases hcalm

end Session

namespace Run

/-- If the signal is raised when a run begins to be over, it is raised in the end. -/
theorem raised_perform (P : Ports σ) (c : Controls) {plan : Plan} (runId : String) (ports : σ)
    (hplan : plan.defect? = none)
    (h : (Session.world ((guarded P c plan runId).run (World.initial c ports))).raised = true) :
  (perform P c plan runId ports).world.raised = true
  := by
  rw [perform, hplan]
  dsimp only
  generalize (guarded P c plan runId).run (World.initial c ports) = r at h
  rcases r with ⟨fault | summary, w⟩ | ⟨k, w⟩
  · exact h
  · exact h
  · apply raised_abandon P
    exact h

/-- A run is given up in the same way, unless a launcher raises the signal. -/
theorem abandon_heedless (P : Ports σ) (lostAt dropAt : Nat) {w : World σ}
    (hcalm : (abandon P { dropAt := dropAt } w).raised = false) :
  abandon P { sender := .lost lostAt, dropAt := dropAt } w = abandon P { dropAt := dropAt } w
  := by
  rw [abandon, abandon]
  rw [abandon] at hcalm
  split
  case isTrue => rfl
  case isFalse hlive =>
    rw [if_neg hlive] at hcalm
    have hteardown := (teardown_congruent (Session.heedless_congruence lostAt dropAt) P).same _ hcalm
    exact congrArg Session.world hteardown

theorem perform_heedless (P : Ports σ) (plan : Plan) (runId : String) (ports : σ)
    (lostAt dropAt : Nat)
    (hcalm : (perform P { dropAt := dropAt } plan runId ports).world.raised = false) :
  perform P { sender := .lost lostAt, dropAt := dropAt } plan runId ports
    = perform P { dropAt := dropAt } plan runId ports
  := by
  have hinitial : World.initial { sender := .lost lostAt, dropAt := dropAt } ports
      = World.initial { dropAt := dropAt } ports := rfl
  cases hplan : plan.defect? with
  | some defect =>
    simp only [perform, hplan]
    rw [hinitial]
  | none =>
    have hrun := (guarded_congruent (Session.heedless_congruence lostAt dropAt) P plan runId).same
      (World.initial { dropAt := dropAt } ports) (by
        rw [← Bool.not_eq_true]
        intro hraised
        rw [raised_perform P _ runId ports hplan hraised] at hcalm
        cases hcalm)
    simp only [perform, hplan] at hcalm ⊢
    rw [hinitial, hrun]
    generalize (guarded P { dropAt := dropAt } plan runId).run _ = ended at hcalm ⊢
    rcases ended with ⟨fault | summary, w⟩ | ⟨k, w⟩
    · rfl
    · rfl
    · exact congrArg (Result.mk (.cut k)) (abandon_heedless P lostAt dropAt hcalm)

/-- Whenever the sender of the signal goes, the run is the one whose sender stays and is silent, if
the signal is not raised in that; it is the same with a wait by itself, begun in any world.  The
going of the sender may wake a suspension, and is found to be nothing to wait for. -/
theorem perform_lost (h : Harness σ) (P : Ports σ) (plan : Plan) (runId url : String)
    (interval lostAt dropAt : Nat) :
  let silent : Controls := { dropAt := dropAt }
  let lost : Controls := { sender := .lost lostAt, dropAt := dropAt }
  ((h.perform P silent plan runId).1.world.raised = false →
      h.perform P lost plan runId = h.perform P silent plan runId)
    ∧ (∀ w : World σ,
      (Session.world ((awaitReady P silent url interval).run w)).raised = false →
        (awaitReady P lost url interval).run w = (awaitReady P silent url interval).run w)
    ∧ ∀ (w : World σ) (millis : Option Nat), w.now ≤ dropAt →
      (Session.suspend lost millis).run w
        = (Session.polling lost (millis.map (w.now + ·)) .watching
            (Session.wakings lost w.now (millis.map (w.now + ·)))).run w
  := by
  intro silent lost
  constructor
  · intro hcalm
    rw [Harness.perform, Harness.perform, perform_heedless P plan runId h.ports lostAt dropAt hcalm]
  · constructor
    · apply (awaitReady_congruent (Session.heedless_congruence lostAt dropAt) P url interval).same
    · intro w millis hdrop
      apply Session.suspend_eq_polling millis hdrop

/-- Ports on which the instance is not ready for the first three probes. -/
def lateInstance : Ports Scripted.Record :=
  Scripted.ports { probes := .readyAfter 3 }

/-- A sender that goes between two probes: the run passes as it would otherwise, and so does the
wait by itself, which is woken once more. -/
theorem perform_lost_waiting :
  (({ ports := {} } : Harness Scripted.Record).perform lateInstance { dropAt := 120007 } {}
      "run-1").1.world.raised = false
    ∧ ({ ports := {} } : Harness Scripted.Record).perform lateInstance
        { sender := .lost 1500, dropAt := 120007 } {} "run-1"
      = ({ ports := {} } : Harness Scripted.Record).perform lateInstance
        { dropAt := 120007 } {} "run-1"
    ∧ (({ ports := {} } : Harness Scripted.Record).perform lateInstance
        { sender := .lost 1500, dropAt := 120007 } {} "run-1").1.world.now = 3000
    ∧ (Session.world ((awaitReady lateInstance { dropAt := 120007 } "http://0.0.0.0:7159" 1000).run
        (World.fresh {}))).raised = false
    ∧ (awaitReady lateInstance { sender := .lost 1500, dropAt := 120007 } "http://0.0.0.0:7159"
        1000).run (World.fresh {})
      = (awaitReady lateInstance { dropAt := 120007 } "http://0.0.0.0:7159" 1000).run
        (World.fresh {})
    ∧ Session.wakings { sender := .lost 1500, dropAt := 120007 } 1000 (some 2000)
      = [1000, 1500, 2000]
    ∧ (Session.suspend { sender := .lost 1500, dropAt := 120007 } (some 1000)).run
        { World.fresh ({} : Scripted.Record) with now := 1000 }
      = (Session.polling { sender := .lost 1500, dropAt := 120007 } (some 2000) .watching
        [1000, 1500, 2000]).run { World.fresh ({} : Scripted.Record) with now := 1000 }
  := by
  obtain ⟨hrun, hwait, hsuspend⟩ := perform_lost { ports := {} } lateInstance {} "run-1"
    "http://0.0.0.0:7159" 1000 1500 120007
  have hcalm : (({ ports := {} } : Harness Scripted.Record).perform lateInstance
      { dropAt := 120007 } {} "run-1").1.world.raised = false := by
    decide +kernel
  have hwaitCalm : (Session.world ((awaitReady lateInstance { dropAt := 120007 }
      "http://0.0.0.0:7159" 1000).run (World.fresh {}))).raised = false := by
    decide +kernel
  have hwakings : Session.wakings { sender := .lost 1500, dropAt := 120007 } 1000 (some 2000)
      = [1000, 1500, 2000] := by
    decide
  use hcalm, hrun hcalm, by decide +kernel, hwaitCalm, hwait _ hwaitCalm, hwakings
  rw [← hwakings]
  apply hsuspend { World.fresh {} with now := 1000 } (some 1000) (by decide)

end Run

end ServiceHarness
