import Mathlib.Algebra.Ring.Int.Defs
import Mathlib.Tactic.Use
import ServiceHarness.Executor
import ServiceHarness.Proofs.Session.Course

/-!
# The time between two readings

The time between two readings is told exactly where their difference is a word (`Spanned`); it is
then the difference, and zero where the clock was set back.  Where the difference is no word, which
takes readings that are very far apart, nothing is told and the program panics
(`elapsed_of_leastReading`).  So whatever the clock shows, no time that is told is negative
(`elapsed_clamps`).
-/

namespace ServiceHarness

namespace Clock

variable {now start millis : Int64}

/-- The difference of two readings is a word. -/
def Spanned (now start : Int64) : Prop :=
  Int64.minValue.toInt ≤ now.toInt - start.toInt
    ∧ now.toInt - start.toInt ≤ Int64.maxValue.toInt

instance (now start : Int64) : Decidable (Spanned now start) :=
  inferInstanceAs (Decidable (_ ∧ _))

/-! ### The difference of words -/

theorem toInt_sub_of_spanned (h : Spanned now start) :
  (now - start).toInt = now.toInt - start.toInt
  := by
  rw [Spanned, Int64.toInt_minValue, Int64.toInt_maxValue] at h
  rw [Int64.toInt_sub]
  apply Int.bmod_eq_of_le
  · omega
  · omega

theorem difference_eq_ok_iff :
  difference now start = .ok millis ↔ Spanned now start ∧ millis.toInt = now.toInt - start.toInt
  := by
  rw [difference]
  split
  case isTrue hspanned =>
    change Spanned now start at hspanned
    rw [Except.ok.injEq, and_iff_right hspanned, ← toInt_sub_of_spanned hspanned, Int64.toInt_inj,
      eq_comm]
  case isFalse hspanned =>
    change ¬ Spanned now start at hspanned
    simp [hspanned]

theorem difference_eq_error_iff :
  difference now start = .error .overflow ↔ ¬ Spanned now start
  := by
  rw [difference]
  split
  case isTrue hspanned =>
    change Spanned now start at hspanned
    simp [hspanned]
  case isFalse hspanned =>
    change ¬ Spanned now start at hspanned
    simp [hspanned]

/-! ### The time that has passed -/

/-- What is below zero is cut off once the difference has been taken. -/
theorem elapsed_eq_ok_iff :
  elapsed now start = .ok millis
    ↔ Spanned now start ∧ millis.toInt = (now.toInt - start.toInt).toNat
  := by
  have hclamp : ∀ d : Int64, (if d < 0 then 0 else d : Int64).toInt = d.toInt.toNat := by
    intro d
    split
    case isTrue hneg =>
      rw [Int64.lt_iff_toInt_lt, Int64.toInt_zero] at hneg
      rw [Int64.toInt_zero, Int.toNat_of_nonpos (Int.le_of_lt hneg)]
      rfl
    case isFalse hneg =>
      rw [Int64.lt_iff_toInt_lt, Int64.toInt_zero] at hneg
      rw [Int.toNat_of_nonneg (Int.not_lt.mp hneg)]
  rw [elapsed]
  cases hdifference : difference now start with
  | ok d =>
    obtain ⟨hspanned, hd⟩ := difference_eq_ok_iff.mp hdifference
    rw [Except.map, Except.ok.injEq, and_iff_right hspanned, ← hd, ← hclamp, Int64.toInt_inj,
      eq_comm]
  | error panic =>
    cases panic
    simp [Except.map, difference_eq_error_iff.mp hdifference]

theorem elapsed_eq_error_iff :
  elapsed now start = .error .overflow ↔ ¬ Spanned now start
  := by
  rw [elapsed, ← difference_eq_error_iff]
  cases difference now start with
  | ok d => simp [Except.map]
  | error panic => simp [Except.map]

theorem elapsed_nonneg (h : elapsed now start = .ok millis) :
  0 ≤ millis.toInt
  := by
  rw [(elapsed_eq_ok_iff.mp h).2]
  apply Int.natCast_nonneg

/-- A later reading gives no shorter time. -/
theorem elapsed_mono {later millis' : Int64} (hle : now ≤ later) (h : elapsed now start = .ok millis)
    (h' : elapsed later start = .ok millis') :
  millis ≤ millis'
  := by
  rw [Int64.le_iff_toInt_le] at hle ⊢
  rw [(elapsed_eq_ok_iff.mp h).2, (elapsed_eq_ok_iff.mp h').2]
  omega

/-- The times that a clock gives are not negative. -/
theorem Readings.nonneg_of_mem_elapsedSince {clock : Readings} {starts times : List Int64}
    (h : clock.elapsedSince starts = .ok times) :
  ∀ millis ∈ times, 0 ≤ millis.toInt
  := by
  induction starts generalizing clock times with
  | nil =>
    cases h
    simp
  | cons start starts ih =>
    rw [elapsedSince] at h
    cases hfirst : elapsed clock.next.1 start with
    | error panic => simp [hfirst, bind, Except.bind] at h
    | ok first =>
      cases hrest : clock.next.2.elapsedSince starts with
      | error panic => simp [hfirst, hrest, bind, Except.bind] at h
      | ok rest =>
        simp only [hfirst, hrest, bind, Except.bind, pure, Except.pure, Except.ok.injEq] at h
        rw [← h, List.forall_mem_cons]
        exact ⟨elapsed_nonneg hfirst, ih hrest⟩

end Clock

/-! ### The duration of a command -/

namespace Executor

open Clock

variable {κ : Type} {K : Kernel κ} {k k' : κ} {i : Invocation} {limit : Option Nat} {t t' : Nat}
  {c : Completion} {log : List Notice}

theorem completion_eq_ok {before after : Int64} {e : Ending}
    (h : completion before after e = .ok c) :
  Spanned after before ∧ c.millis = (after.toInt - before.toInt).toNat
  := by
  rw [completion] at h
  cases helapsed : elapsed after before with
  | error panic =>
    rw [helapsed] at h
    cases h
  | ok millis =>
    rw [helapsed] at h
    cases h
    exact elapsed_eq_ok_iff.mp helapsed

/-- The duration that is told of a command is the time between two readings of the clock, the first
of which is taken before the command is begun. -/
theorem run_millis (h : (run K k i).course limit t = some (.ok (.ok c, log), k', t')) :
  ∃ k₁, Spanned (K.readClock k₁).1 (K.readClock k).1
    ∧ c.millis = ((K.readClock k₁).1.toInt - (K.readClock k).1.toInt).toNat
  := by
  rw [run] at h
  dsimp only at h
  split at h
  case h_1 => cases h
  case h_2 pid k₀ _ =>
    obtain ⟨ending, k₁, t₁, -, hrest⟩ := Activity.course_bind h
    cases ending with
    | error reason => cases hrest
    | ok ending =>
      use k₁
      dsimp only at hrest
      cases hcompletion : completion (K.readClock k).1 (K.readClock k₁).1 ending with
      | error panic =>
        rw [hcompletion] at hrest
        cases hrest
      | ok told =>
        rw [hcompletion] at hrest
        cases hrest
        exact completion_eq_ok hcompletion

/-- A command that ends when the clock is too far from where it was panics. -/
theorem run_panics {pid : Nat} {k₀ k₁ : κ} {ending : Ending}
    (hstart : K.start (K.readClock k).2 i false = (.ok pid, k₀))
    (hawait : K.await k₀ pid = .finish k₁ (.ok ending))
    (hfar : ¬ Spanned (K.readClock k₁).1 (K.readClock k).1) :
  (run K k i).course limit t = some (.error .panicked, (K.readClock k₁).2, t)
  := by
  rw [run]
  dsimp only
  rw [hstart]
  dsimp only
  rw [hawait, Activity.orElse, Activity.bind]
  dsimp only
  rw [completion, elapsed_eq_error_iff.mpr hfar]
  rfl

end Executor

namespace Clock

/-- What `elapsed` makes of any two readings, and with it every duration that is told of a command.
It tells a time exactly if the difference of the readings is a word: the time from the one reading to
the other, and zero where the clock was set back.  So it is never negative, and a later reading gives
no shorter time.  If the difference is no word the program panics, as it does at the end of a command
that took so long or saw the clock set back so far. -/
theorem elapsed_clamps (now start : Int64) :
  (∀ millis, elapsed now start = .ok millis
      ↔ Spanned now start ∧ millis.toInt = (now.toInt - start.toInt).toNat)
    ∧ (elapsed now start = .error .overflow ↔ ¬ Spanned now start)
    ∧ (∀ millis, elapsed now start = .ok millis → 0 ≤ millis.toInt)
    ∧ (∀ later millis millis', now ≤ later → elapsed now start = .ok millis →
      elapsed later start = .ok millis' → millis ≤ millis')
    ∧ (∀ (clock : Readings) (starts times : List Int64), clock.elapsedSince starts = .ok times →
      ∀ millis ∈ times, 0 ≤ millis.toInt)
    ∧ (∀ {κ : Type} (K : Kernel κ) (k k' : κ) (i : Invocation) (limit : Option Nat) (t t' : Nat)
        (c : Completion) (log : List Notice),
      (Executor.run K k i).course limit t = some (.ok (.ok c, log), k', t') →
        ∃ k₁, Spanned (K.readClock k₁).1 (K.readClock k).1
          ∧ c.millis = ((K.readClock k₁).1.toInt - (K.readClock k).1.toInt).toNat
          ∧ 0 ≤ c.millis)
    ∧ (∀ {κ : Type} (K : Kernel κ) (k k₀ k₁ : κ) (i : Invocation) (limit : Option Nat) (t pid : Nat)
        (ending : Ending),
      K.start (K.readClock k).2 i false = (.ok pid, k₀) →
      K.await k₀ pid = .finish k₁ (.ok ending) →
      ¬ Spanned (K.readClock k₁).1 (K.readClock k).1 →
        (Executor.run K k i).course limit t = some (.error .panicked, (K.readClock k₁).2, t))
  := by
  refine ⟨fun _ => elapsed_eq_ok_iff, elapsed_eq_error_iff, fun _ => elapsed_nonneg,
    fun _ _ _ => elapsed_mono, fun _ _ _ => Readings.nonneg_of_mem_elapsedSince, ?_,
    fun _ _ _ _ _ _ _ _ _ => Executor.run_panics⟩
  intro κ K k k' i limit t t' c log h
  obtain ⟨k₁, hspanned, hmillis⟩ := Executor.run_millis h
  use k₁, hspanned, hmillis
  rw [hmillis]
  apply Int.natCast_nonneg

/-- A clock set back by ten milliseconds, and what it gives later; and one that has gone on by the
longest time that a word holds. -/
theorem elapsed_clamps_setBack :
  elapsed 990 1000 = .ok 0
    ∧ elapsed Int64.maxValue 0 = .ok Int64.maxValue
    ∧ ∀ millis, elapsed 1005 1000 = .ok millis → 0 ≤ millis
  := by
  obtain ⟨hback, -, -, hmono, -⟩ := elapsed_clamps 990 1000
  obtain ⟨hlongest, -⟩ := elapsed_clamps Int64.maxValue 0
  have hzero := (hback 0).mpr (by decide)
  exact ⟨hzero, (hlongest _).mpr (by decide),
    fun millis => hmono 1005 0 millis (by decide) hzero⟩

/-- A clock that was set back from one to the least reading makes the program panic. -/
theorem elapsed_of_leastReading :
  Int64.minValue ≤ 1 ∧ elapsed Int64.minValue 1 = .error .overflow
    ∧ elapsed Int64.minValue 1 ≠ .ok 0
  := by
  decide

end Clock

end ServiceHarness
