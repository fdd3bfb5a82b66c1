import Mathlib.Algebra.BigOperators.Group.Finset.Basic
import ServiceHarness.Proofs.Run.Pacing
import ServiceHarness.Proofs.Run.Truncation
import ServiceHarness.Proofs.Session.Timing

/-!
# When a wait ends

A wait for the instance is as exact as its probes.  A `Probing` says how long each of them takes and
what it comes to, and `Occurs` in a wait whose ports do so whenever a probe is due.
`awaitReady_exact` says when the wait ends, with what, and after how many probes: with the first
probe that is not to be made again, unless the signal is raised before, and then with the signal.

The wait `Comes` to one probe after the other (`Comes.next`), and ends at one of them
(`Comes.settled`, `Comes.stopped`).
-/

namespace ServiceHarness.Run

open Session

variable {σ : Type} {c : Controls} {w : World σ}

/-! ### What the probes come to -/

/-- What the probes of a wait come to, one after the other. -/
structure Probing (σ : Type) where
  /-- The milliseconds that each takes. -/
  took : Nat → Nat
  /-- The outcome of each. -/
  outcome : Nat → Except ProbeFault Unit
  /-- The state in which each finds the ports. -/
  state : Nat → σ

/-- What a wait gives for the outcome of a probe, after so many attempts; nothing if it is to probe
again. -/
def verdict (attempts : Nat) : Except ProbeFault Unit → Option (Except WaitFault Nat)
  | .ok () => some (.ok attempts)
  | .error (.malformed reason) =>
    some (.error (.malformed (ProbeFault.malformed reason).message))
  | .error (.notReady _) => none

/-- A wait that began in a world is over with a result, at an instant and after so many probes of
the URL. -/
def EndsAt (r : EStateM.Result Cut (World σ) (Except WaitFault Nat)) (url : String) (w : World σ)
    (result : Except WaitFault Nat) (t n : Nat) : Prop :=
  ∃ w', r = .ok result w' ∧ w'.now = t ∧ w'.probes = w.probes ++ List.replicate n url

namespace Probing

open Finset

/-- The milliseconds from the beginning of a wait to that of a probe. -/
def start (p : Probing σ) (interval k : Nat) : Nat :=
  ∑ j ∈ range k, p.took j + k * interval

/-- The milliseconds from the beginning of a wait to the end of a probe. -/
def finish (p : Probing σ) (interval k : Nat) : Nat :=
  ∑ j ∈ range (k + 1), p.took j + k * interval

/-- The probe is to be made again. -/
def Refuses (p : Probing σ) (k : Nat) : Prop :=
  ∃ reason, p.outcome k = .error (.notReady reason)

/-- The probe is the first that is not to be made again, and gives the wait its result. -/
def Settles (p : Probing σ) (n : Nat) (result : Except WaitFault Nat) : Prop :=
  (∀ k < n, p.Refuses k) ∧ verdict (min (n + 1) attemptLimit) (p.outcome n) = some result

/-- The probes of a URL come to this in a wait that begins in a world. -/
structure Occurs (p : Probing σ) (P : Ports σ) (url : String) (interval : Nat) (w : World σ) :
    Prop where
  /-- The first probe finds the ports as they are. -/
  first : w.ports = p.state 0
  /-- Every probe that is made at its time goes as it should, and leaves the ports to the next. -/
  probe : ∀ k, (P.probe (p.state k) (w.now + p.start interval k) url).Takes (p.took k)
    (p.outcome k) (p.state (k + 1))

variable {p : Probing σ} {interval : Nat}

theorem finish_eq (k : Nat) :
  p.finish interval k = p.start interval k + p.took k
  := by
  rw [finish, start, sum_range_succ]
  omega

theorem start_succ (k : Nat) :
  p.start interval (k + 1) = p.finish interval k + interval
  := by
  rw [finish, start, Nat.succ_mul]
  omega

theorem start_mono {k k' : Nat} (h : k ≤ k') :
  p.start interval k ≤ p.start interval k'
  := by
  induction h with
  | refl => apply Nat.le_refl
  | step _ ih =>
    rw [start_succ, finish_eq]
    omega

theorem finish_mono {k k' : Nat} (h : k ≤ k') :
  p.finish interval k ≤ p.finish interval k'
  := by
  have hmono : p.start interval (k + 1) ≤ p.start interval (k' + 1) :=
    start_mono (Nat.succ_le_succ h)
  rw [start_succ, start_succ] at hmono
  omega

/-- An interval has passed before each probe but the first. -/
theorem le_start (hinterval : 0 < interval) (k : Nat) :
  k ≤ p.start interval k
  := by
  have h : k * 1 ≤ k * interval := Nat.mul_le_mul_left k hinterval
  rw [start]
  omega

/-- There is room for so many intervals before a probe. -/
theorem lt_of_start_le (hinterval : 0 < interval) {k t : Nat} (h : p.start interval k ≤ t) :
  k < t / interval + 1
  := by
  rw [start] at h
  rw [Nat.lt_succ_iff, Nat.le_div_iff_mul_le hinterval]
  omega

/-- If a probe is not to be made again, it or one before it is the first such. -/
theorem exists_settles {k : Nat} (h : ¬ p.Refuses k) :
  ∃ n ≤ k, ∃ result, p.Settles n result
  := by
  induction k using Nat.strong_induction_on with
  | h k ih =>
    by_cases hbefore : ∃ j < k, ¬ p.Refuses j
    · obtain ⟨j, hj, hrefuses⟩ := hbefore
      obtain ⟨n, hn, hsettles⟩ := ih j hj hrefuses
      exact ⟨n, by omega, hsettles⟩
    · push Not at hbefore
      use k, Nat.le_refl k
      match houtcome : p.outcome k with
      | .ok () => exact ⟨_, hbefore, by rw [houtcome]; rfl⟩
      | .error (.malformed reason) => exact ⟨_, hbefore, by rw [houtcome]; rfl⟩
      | .error (.notReady reason) => exact absurd ⟨reason, houtcome⟩ h

/-- A probe that ends while the wait is not settled is to be made again. -/
theorem refuses_of_finish_lt {t k : Nat}
    (hsettles : ∀ n result, p.Settles n result → t ≤ p.finish interval n)
    (h : p.finish interval k < t) :
  p.Refuses k
  := by
  by_contra hrefuses
  obtain ⟨n, hn, result, hsettled⟩ := exists_settles hrefuses
  have hle := hsettles n result hsettled
  have hmono : p.finish interval n ≤ p.finish interval k := finish_mono hn
  omega

/-! ### From probe to probe -/

/-- A wait that began in a world goes on after so many milliseconds and so many probes of the URL,
with the ports in a state. -/
structure GoesOn (url : String) (w : World σ) (millis : Nat) (s : σ) (n : Nat) (w' : World σ) :
    Prop where
  /-- The signal is not raised. -/
  calm : w'.raised = false
  /-- So much time has passed. -/
  now : w'.now = w.now + millis
  /-- The ports are in the state. -/
  ports : w'.ports = s
  /-- So many probes have been made. -/
  probes : w'.probes = w.probes ++ List.replicate n url

/-- The wait has come to a probe, which is due and not yet made. -/
abbrev Comes (p : Probing σ) (url : String) (interval : Nat) (w : World σ) (k : Nat) :
    World σ → Prop :=
  GoesOn url w (p.start interval k) (p.state k) k

/-- The wait has come through a probe, which has just ended. -/
abbrev Passes (p : Probing σ) (url : String) (interval : Nat) (w : World σ) (k : Nat) :
    World σ → Prop :=
  GoesOn url w (p.finish interval k) (p.state (k + 1)) (k + 1)

variable {P : Ports σ} {url : String} {k : Nat} {w' : World σ}

/-- To begin a probe is to make one more. -/
theorem Comes.probes_record (h : p.Comes url interval w k w') :
  (w'.record (.probing url)).probes = w.probes ++ List.replicate (k + 1) url
  := by
  rw [World.probes_record, h.probes, List.append_assoc, List.replicate_succ']
  rfl

/-- While the signal is not raised a probe is begun. -/
theorem run_race_beginProbe (P : Ports σ) (c : Controls) (url : String)
    (hraised : w.raised = false) :
  (race c (beginProbe P url)).run w
    = (play c (P.probe w.ports w.now url)).run (w.record (.probing url))
  := by
  rw [race, run_ifRaised, if_neg (by simp [hraised])]
  rfl

/-- A probe during which the signal is not raised comes to what it should. -/
theorem Comes.probed (h : p.Comes url interval w k w') (hoccurs : p.Occurs P url interval w)
    (hcalm : c.CalmUntil (w.now + p.finish interval k))
    (hdrop : w.now + p.finish interval k ≤ c.dropAt) :
  ∃ w'', p.Passes url interval w k w''
    ∧ (race c (beginProbe P url) >>= conclude .probed).run w' = .ok (some (p.outcome k)) w''
  := by
  have hprobe := hoccurs.probe k
  rw [← h.ports, ← h.now] at hprobe
  rw [finish_eq, ← Nat.add_assoc, ← h.now] at hcalm hdrop
  have hplay := run_play_calm (w := w'.record (.probing url)) hprobe h.calm hcalm hdrop
  use World.record { w'.record (.probing url) with
    ports := p.state (k + 1), now := w'.now + p.took k } (.probed (p.outcome k))
  constructor
  · constructor
    case calm => apply h.calm
    case now =>
      rw [finish_eq, ← Nat.add_assoc, ← h.now]
      rfl
    case ports => rfl
    case probes =>
      rw [World.probes_record]
      apply Eq.trans (List.append_nil _) h.probes_record
  · rw [EStateM.run_bind, run_race_beginProbe P c url h.calm, hplay]
    rfl

/-- A probe during which the signal is raised is given up. -/
theorem Comes.abandoned {u : Nat} (h : p.Comes url interval w k w')
    (hoccurs : p.Occurs P url interval w) (hsender : c.sender = .raises u)
    (hbegun : w.now + p.start interval k < u) (hle : u ≤ w.now + p.finish interval k)
    (hdrop : u ≤ c.dropAt) :
  ∃ w'', (w''.now = u ∧ w''.probes = w.probes ++ List.replicate (k + 1) url)
    ∧ (race c (beginProbe P url) >>= conclude .probed).run w' = .ok none w''
  := by
  have hprobe := hoccurs.probe k
  rw [← h.ports, ← h.now] at hprobe
  rw [finish_eq, ← Nat.add_assoc, ← h.now] at hle
  rw [← h.now] at hbegun
  obtain ⟨s, hplay⟩ := run_play_raises (w := w'.record (.probing url)) hprobe h.calm hsender
    hbegun hle hdrop
  use World.trip { w'.record (.probing url) with ports := s, now := u }
  constructor
  · rw [World.now_trip, World.probes_trip]
    exact ⟨rfl, h.probes_record⟩
  · rw [EStateM.run_bind, run_race_beginProbe P c url h.calm, hplay]
    rfl

/-- What the wait does after the probe to which it has come is what follows the outcome. -/
theorem Comes.run (h : p.Comes url interval w k w') {outcome : Option (Except ProbeFault Unit)}
    {w'' : World σ}
    (hprobe : (race c (beginProbe P url) >>= conclude .probed).run w' = .ok outcome w'')
    (patience attempts : Nat) :
  (awaitFrom P c url interval (patience + 1) attempts).run w'
    = (afterProbe P c url interval patience (min (attempts + 1) attemptLimit) outcome).run w''
  := by
  rw [awaitFrom_calm P c url interval patience attempts h.calm, EStateM.run_bind, hprobe]

/-- When a probe that is to be made again and the interval after it have gone by without the signal,
the wait has come to the next probe. -/
theorem Comes.next (h : p.Comes url interval w k w') (hoccurs : p.Occurs P url interval w)
    (hrefuses : p.Refuses k) (hcalm : c.CalmUntil (w.now + p.start interval (k + 1)))
    (hdrop : w.now + p.start interval (k + 1) ≤ c.dropAt) :
  ∃ w'', p.Comes url interval w (k + 1) w'' ∧ ∀ patience attempts,
    (awaitFrom P c url interval (patience + 1) attempts).run w'
      = (awaitFrom P c url interval patience (min (attempts + 1) attemptLimit)).run w''
  := by
  obtain ⟨reason, houtcome⟩ := hrefuses
  rw [start_succ, ← Nat.add_assoc] at hcalm hdrop
  obtain ⟨w₁, hpasses, hprobe⟩ := h.probed hoccurs (hcalm.mono (Nat.le_add_right _ _)) (by omega)
  rw [← hpasses.now] at hcalm hdrop
  have hpause := run_suspend_calm hpasses.calm hcalm hdrop
  use { w₁ with now := w₁.now + interval }
  constructor
  · constructor
    case calm => apply hpasses.calm
    case now =>
      rw [start_succ, ← Nat.add_assoc, ← hpasses.now]
    case ports => apply hpasses.ports
    case probes => apply hpasses.probes
  · intro patience attempts
    rw [h.run hprobe, houtcome]
    dsimp only [afterProbe]
    rw [EStateM.run_bind, hpause]

/-- A probe that is not to be made again ends the wait. -/
theorem Comes.settled {attempts : Nat} {result : Except WaitFault Nat}
    (h : p.Comes url interval w k w') (hoccurs : p.Occurs P url interval w)
    (hresult : verdict (min (attempts + 1) attemptLimit) (p.outcome k) = some result)
    (hcalm : c.CalmUntil (w.now + p.finish interval k))
    (hdrop : w.now + p.finish interval k ≤ c.dropAt) (patience : Nat) :
  EndsAt ((awaitFrom P c url interval (patience + 1) attempts).run w') url w result
    (w.now + p.finish interval k) (k + 1)
  := by
  obtain ⟨w₁, hpasses, hprobe⟩ := h.probed hoccurs hcalm hdrop
  rw [h.run hprobe]
  match houtcome : p.outcome k with
  | .ok () =>
    rw [houtcome] at hresult
    cases hresult
    use w₁.tell (.reachable url (min (attempts + 1) attemptLimit)), rfl, hpasses.now
    apply Eq.trans (World.probes_record _ _)
    apply Eq.trans (List.append_nil _) hpasses.probes
  | .error (.malformed reason) =>
    rw [houtcome] at hresult
    cases hresult
    use w₁, rfl, hpasses.now
    apply hpasses.probes
  | .error (.notReady reason) =>
    rw [houtcome] at hresult
    cases hresult

/-- The signal ends the wait, be it during a probe or during the interval after it. -/
theorem Comes.stopped {u : Nat} (h : p.Comes url interval w k w')
    (hoccurs : p.Occurs P url interval w) (hsender : c.sender = .raises u)
    (hbegun : w.now + p.start interval k < u) (hle : u ≤ w.now + p.start interval (k + 1))
    (hrefuses : w.now + p.finish interval k < u → p.Refuses k) (hdrop : u ≤ c.dropAt)
    (patience attempts : Nat) :
  EndsAt ((awaitFrom P c url interval (patience + 1) attempts).run w') url w
    (.error (.interrupted (min (attempts + 1) attemptLimit))) u (k + 1)
  := by
  by_cases hinProbe : u ≤ w.now + p.finish interval k
  · obtain ⟨w₁, hw₁, hprobe⟩ := h.abandoned hoccurs hsender hbegun hinProbe hdrop
    rw [h.run hprobe]
    exact ⟨w₁, rfl, hw₁⟩
  · obtain ⟨reason, houtcome⟩ := hrefuses (by omega)
    have hcalm : c.CalmUntil (w.now + p.finish interval k) :=
      Controls.calmUntil_of_raises hsender (by omega)
    obtain ⟨w₁, hpasses, hprobe⟩ := h.probed hoccurs hcalm (by omega)
    rw [start_succ, ← Nat.add_assoc, ← hpasses.now] at hle
    have hpause := run_suspend_raises hpasses.calm hsender (by rw [hpasses.now]; omega) hle hdrop
    use World.trip { w₁ with now := u }
    rw [World.now_trip, World.probes_trip]
    refine ⟨?_, rfl, hpasses.probes⟩
    rw [h.run hprobe, houtcome]
    dsimp only [afterProbe]
    rw [EStateM.run_bind, hpause]
    rfl

/-- While no probe gives the wait a result and the signal is not raised, the wait comes to every
probe. -/
theorem comes (hinterval : 0 < interval) (hoccurs : p.Occurs P url interval w)
    (hraised : w.raised = false) :
    ∀ k, (∀ j < k, p.Refuses j) → c.CalmUntil (w.now + p.start interval k) →
      w.now + p.start interval k ≤ c.dropAt →
      ∃ w' patience, p.Comes url interval w k w' ∧ c.dropAt < k + patience
        ∧ (awaitReady P c url interval).run w
          = (awaitFrom P c url interval (patience + 1) (min k attemptLimit)).run w'
  | 0, _, _, _ => by
    use w, c.dropAt + 1
    constructor
    · constructor
      case calm => apply hraised
      case now => simp [start]
      case ports => apply hoccurs.first
      case probes => exact (List.append_nil _).symm
    · exact ⟨by omega, rfl⟩
  | k + 1, hrefuses, hcalm, hdrop => by
    have hlater : p.start interval k ≤ p.start interval (k + 1) := start_mono k.le_succ
    have hstart := le_start (p := p) hinterval (k + 1)
    obtain ⟨w₁, patience, hcomes, hpatience, hrun⟩ := comes hinterval hoccurs hraised k
      (fun j hj => hrefuses j (Nat.lt_succ_of_lt hj)) (hcalm.mono (by omega)) (by omega)
    obtain ⟨w₂, hcomes', hnext⟩ := hcomes.next hoccurs (hrefuses k k.lt_succ_self) hcalm hdrop
    -- each probe but the first takes at least a millisecond's patience
    obtain ⟨patience, rfl⟩ : ∃ rest, patience = rest + 1 := ⟨patience - 1, by omega⟩
    use w₂, patience, hcomes'
    constructor
    · omega
    · rw [hrun, hnext]
      congr 2
      omega

/-- Counting on from a number of attempts that is told. -/
theorem min_succ_attemptLimit (k : Nat) :
  min (min k attemptLimit + 1) attemptLimit = min (k + 1) attemptLimit
  := by omega

/-- A wait ends with its first probe that is not to be made again. -/
theorem Settles.ends {n : Nat} {result : Except WaitFault Nat} (h : p.Settles n result)
    (hinterval : 0 < interval) (hoccurs : p.Occurs P url interval w) (hraised : w.raised = false)
    (hcalm : c.CalmUntil (w.now + p.finish interval n))
    (hdrop : w.now + p.finish interval n ≤ c.dropAt) :
  EndsAt ((awaitReady P c url interval).run w) url w result (w.now + p.finish interval n) (n + 1)
  := by
  obtain ⟨hrefuses, hresult⟩ := h
  have hle : p.start interval n ≤ p.finish interval n := by
    rw [finish_eq]
    omega
  obtain ⟨w', patience, hcomes, -, hrun⟩ := comes hinterval hoccurs hraised n hrefuses
    (hcalm.mono (by omega)) (by omega)
  rw [hrun]
  rw [← min_succ_attemptLimit] at hresult
  apply hcomes.settled hoccurs hresult hcalm hdrop

/-- Any time after the beginning of a wait is after a probe and not after the next. -/
theorem exists_last_start (hinterval : 0 < interval) {t : Nat} (ht : 0 < t) :
  ∃ k, p.start interval k < t ∧ t ≤ p.start interval (k + 1)
  := by
  have hex : ∃ k, t ≤ p.start interval k := ⟨t, le_start hinterval t⟩
  have hfirst := Nat.find_spec hex
  cases hk : Nat.find hex with
  | zero =>
    rw [hk] at hfirst
    simp only [start, sum_range_zero, Nat.zero_mul] at hfirst
    omega
  | succ k =>
    rw [hk] at hfirst
    use k
    constructor
    · have hbefore := Nat.find_min hex (m := k) (by omega)
      omega
    · exact hfirst

/-- The signal ends a wait that has not been settled. -/
theorem Occurs.stops {u : Nat} (hoccurs : p.Occurs P url interval w) (hinterval : 0 < interval)
    (hraised : w.raised = false) (hsender : c.sender = .raises u) (hnow : w.now < u)
    (hdrop : u ≤ c.dropAt)
    (hsettles : ∀ n result, p.Settles n result → u ≤ w.now + p.finish interval n) :
  ∃ m, (∀ k, k < m ↔ w.now + p.start interval k < u)
    ∧ EndsAt ((awaitReady P c url interval).run w) url w
      (.error (.interrupted (min m attemptLimit))) u m
  := by
  obtain ⟨k, hbegun, hle⟩ := exists_last_start (p := p) hinterval (t := u - w.now) (by omega)
  have hunsettled : ∀ n result, p.Settles n result → u - w.now ≤ p.finish interval n := by
    intro n result hresult
    have hlate := hsettles n result hresult
    omega
  have hrefuses : ∀ j, w.now + p.finish interval j < u → p.Refuses j := by
    intro j hj
    apply refuses_of_finish_lt hunsettled
    omega
  have hcalm : c.CalmUntil (w.now + p.start interval k) :=
    Controls.calmUntil_of_raises hsender (by omega)
  have hbefore : ∀ j < k, p.Refuses j := by
    intro j hj
    apply hrefuses
    have hmono : p.start interval (j + 1) ≤ p.start interval k := start_mono hj
    rw [start_succ] at hmono
    omega
  obtain ⟨w', patience, hcomes, -, hrun⟩ := comes hinterval hoccurs hraised k hbefore hcalm
    (by omega)
  use k + 1
  constructor
  · intro j
    constructor
    · intro hj
      have hmono : p.start interval j ≤ p.start interval k := start_mono (by omega)
      omega
    · intro hj
      by_contra hlater
      have hmono : p.start interval (k + 1) ≤ p.start interval j := start_mono (by omega)
      omega
  · rw [hrun, ← min_succ_attemptLimit]
    apply hcomes.stopped hoccurs hsender (by omega) (by omega) (hrefuses k) hdrop

end Probing

/-- Once the signal is raised a wait is over at once. -/
theorem awaitReady_of_raised (P : Ports σ) (c : Controls) (url : String) (interval : Nat)
    (hraised : w.raised = true) :
  (awaitReady P c url interval).run w = .ok (.error (.interrupted 0)) w
  := by
  rw [awaitReady, patience, awaitFrom, run_ifRaised, if_pos hraised]
  rfl

/-- A wait for the instance is exact.  If the probes come to what is known, then

* the first that is not to be made again ends it, at the end of that probe, unless the signal is
  raised by then: with the number of the probes if the instance answers, and with what the probe
  says of it if the target is malformed;
* otherwise the signal ends it, when it is raised, with the number of the probes that were begun;
* and those that begin in a time `t` are among the first `t / interval + 1`.

A wait that begins after the signal is over at once.  Whatever the ports do, a wait that ends or is
dropped within a time `t` makes no more than `t / interval + 1` probes, and the number of attempts
that it tells is that of its probes, or the largest that is told. -/
theorem awaitReady_exact (P : Ports σ) (c : Controls) (url : String) {interval : Nat}
    (hinterval : 0 < interval) (w : World σ) :
  let r := (awaitReady P c url interval).run w
  (∀ p : Probing σ, p.Occurs P url interval w → w.raised = false →
    (∀ n result, p.Settles n result → c.CalmUntil (w.now + p.finish interval n) →
      w.now + p.finish interval n ≤ c.dropAt →
      EndsAt r url w result (w.now + p.finish interval n) (n + 1))
    ∧ (∀ u, c.sender = .raises u → w.now < u → u ≤ c.dropAt →
      (∀ n result, p.Settles n result → u ≤ w.now + p.finish interval n) →
      ∃ m, (∀ k, k < m ↔ w.now + p.start interval k < u)
        ∧ EndsAt r url w (.error (.interrupted (min m attemptLimit))) u m)
    ∧ ∀ t k, p.start interval k ≤ t → k < t / interval + 1)
  ∧ (w.raised = true → EndsAt r url w (.error (.interrupted 0)) w.now 0)
  ∧ ∃ m, (world r).probes = w.probes ++ List.replicate m url
    ∧ (∀ t, (world r).now ≤ w.now + t ∨ c.dropAt ≤ w.now + t → m ≤ t / interval + 1)
    ∧ ∀ result w', r = .ok result w' → ∀ k ∈ told result, k = min m attemptLimit
  := by
  dsimp only
  refine ⟨?_, ?_, ?_⟩
  · intro p hoccurs hraised
    refine ⟨?_, ?_, ?_⟩
    · intro n result hsettles
      apply hsettles.ends hinterval hoccurs hraised
    · intro u hsender hnow hdrop
      apply hoccurs.stops hinterval hraised hsender hnow hdrop
    · intro t k
      apply Probing.lt_of_start_le hinterval
  · intro hraised
    use w, awaitReady_of_raised P c url interval hraised, rfl
    exact (List.append_nil _).symm
  · have hspaced := awaitReady_spaced P c url hinterval w
    rw [Session.Ends] at hspaced
    cases hr : (awaitReady P c url interval).run w with
    | ok result w' =>
      rw [hr] at hspaced
      obtain ⟨m, hm, htold⟩ := hspaced
      use m, hm.probes, hm.le
      rintro _ _ ⟨⟩
      exact htold
    | error k w' =>
      rw [hr] at hspaced
      obtain ⟨m, hm⟩ := hspaced
      use m, hm.probes, hm.le
      rintro _ _ ⟨⟩

/-- Ports of which only the probes ever end, and come to what they should one after the other.  The
state counts them. -/
def portsInTurn (took : Nat → Nat) (outcome : Nat → Except ProbeFault Unit) : Ports Nat where
  execute s _ _ := .hang s
  launch s _ _ _ := { state := s, result := .error (.io "out of order") }
  interrupt s _ _ := { state := s, result := .error (.io "out of order") }
  probe s _ _ := .pause (took s) (s + 1) (.finish (s + 1) (outcome s))

/-- There are ports whose probes come to anything. -/
theorem occurs_portsInTurn (took : Nat → Nat) (outcome : Nat → Except ProbeFault Unit)
    (url : String) (interval : Nat) :
  Probing.Occurs ⟨took, outcome, id⟩ (portsInTurn took outcome) url interval (.fresh 0)
  := by
  constructor
  case first => rfl
  case probe =>
    intro k
    apply Activity.Takes.pause _ _ (.finish _ _)

/-- The third probe succeeds, and each takes longer than the one before. -/
def thirdSucceeds : Probing Nat where
  took k := 10 * (k + 1)
  outcome k := if k < 2 then .error (.notReady "Connection refused") else .ok ()
  state := id

/-- Without the signal the wait ends with the third probe; during the second the signal ends it. -/
theorem awaitReady_exact_thirdSucceeds :
  let P := portsInTurn thirdSucceeds.took thirdSucceeds.outcome
  let url := "http://0.0.0.0:7159"
  thirdSucceeds.Occurs P url 1000 (.fresh 0)
  ∧ EndsAt ((awaitReady P { dropAt := 5000 } url 1000).run (.fresh 0)) url (.fresh 0) (.ok 3) 2060 3
  ∧ EndsAt ((awaitReady P { sender := .raises 1015, dropAt := 5000 } url 1000).run (.fresh 0)) url
    (.fresh 0) (.error (.interrupted 2)) 1015 2
  := by
  intro P url
  have hoccurs : thirdSucceeds.Occurs P url 1000 (.fresh 0) := occurs_portsInTurn _ _ url 1000
  use hoccurs
  constructor
  · have hsettles : thirdSucceeds.Settles 2 (.ok 3) := by
      constructor
      · intro k hk
        exact ⟨_, if_pos hk⟩
      · rfl
    have hcalm : Controls.CalmUntil { dropAt := 5000 } (0 + thirdSucceeds.finish 1000 2) := by
      rintro u ⟨⟩
    exact ((awaitReady_exact P { dropAt := 5000 } url (by decide) (.fresh 0)).1 thirdSucceeds
      hoccurs rfl).1 2 (.ok 3) hsettles hcalm (by decide)
  · have hunsettled : ∀ n result, thirdSucceeds.Settles n result →
        1015 ≤ 0 + thirdSucceeds.finish 1000 n := by
      rintro n result ⟨-, hresult⟩
      have hn : 2 ≤ n := by
        by_contra hlt
        rw [show thirdSucceeds.outcome n = .error (.notReady "Connection refused") from
          if_pos (by omega)] at hresult
        cases hresult
      rw [Probing.finish]
      omega
    obtain ⟨m, hm, hends⟩ := ((awaitReady_exact P { sender := .raises 1015, dropAt := 5000 } url
      (by decide) (.fresh 0)).1 thirdSucceeds hoccurs rfl).2.1 1015 rfl (by decide) (by decide)
      hunsettled
    have hsecond := (hm 1).mpr (by decide)
    have hthird := (hm 2).not.mpr (by decide)
    obtain rfl : m = 2 := by omega
    exact hends

end ServiceHarness.Run
