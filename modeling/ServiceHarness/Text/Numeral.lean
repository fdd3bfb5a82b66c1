/-!
# Numerals

`digitValue? base c` is the value of a digit, `natural? base cs` the number that digits of
one base write, and `word? s` the unsigned 64-bit number that a decimal numeral writes, which
may begin with a plus sign.  A number that is written in decimal is read as itself
(`word?_toString`).
-/

namespace ServiceHarness.Text

/-- The value of a digit of the given base, which is at most sixteen. -/
def digitValue? (base : Nat) (c : Char) : Option Nat :=
  let value? :=
    if '0' ≤ c ∧ c ≤ '9' then some (c.toNat - 48)
    else if 'a' ≤ c ∧ c ≤ 'f' then some (c.toNat - 87)
    else if 'A' ≤ c ∧ c ≤ 'F' then some (c.toNat - 55)
    else none
  value?.filter (· < base)

/-- The number that the digits write, after those that write `n`. -/
def naturalFrom? (base : Nat) : Nat → List Char → Option Nat
  | n, [] => some n
  | n, c :: rest => (digitValue? base c).bind fun d => naturalFrom? base (n * base + d) rest

/-- The number that the digits write; none without digits. -/
def natural? (base : Nat) : List Char → Option Nat
  | [] => none
  | c :: rest => naturalFrom? base 0 (c :: rest)

/-- The numeral without a leading plus sign. -/
def dropPlus : List Char → List Char
  | '+' :: rest => rest
  | cs => cs

/-- The unsigned 64-bit number that a decimal numeral writes. -/
def word? (s : String) : Option Nat :=
  (natural? 10 (dropPlus s.toList)).filter (· < UInt64.size)

theorem naturalFrom?_append (base : Nat) (cs ds : List Char) (n : Nat) :
  naturalFrom? base n (cs ++ ds) = (naturalFrom? base n cs).bind fun m => naturalFrom? base m ds
  := by
  induction cs generalizing n with
  | nil => rfl
  | cons c cs ih =>
    rw [List.cons_append, naturalFrom?, naturalFrom?]
    cases digitValue? base c with
    | none => rfl
    | some d => exact ih (n * base + d)

theorem digitValue?_digitChar {d : Nat} (h : d < 10) :
  digitValue? 10 d.digitChar = some d
  := by
  have hall : ∀ d : Fin 10, digitValue? 10 d.val.digitChar = some d.val := by decide
  exact hall ⟨d, h⟩

/-- The digits that are written of a number are read as it. -/
theorem naturalFrom?_toDigits (n : Nat) :
  naturalFrom? 10 0 (Nat.toDigits 10 n) = some n
  := by
  induction n using Nat.strongRecOn with
  | ind n ih =>
    rw [Nat.toDigits_eq_if (by decide)]
    by_cases hn : n < 10
    · rw [if_pos hn, naturalFrom?, digitValue?_digitChar hn]
      simp [naturalFrom?]
    · have hlt : n / 10 < n := Nat.div_lt_self (by omega) (by decide)
      have hdigit : n % 10 < 10 := Nat.mod_lt n (by decide)
      rw [if_neg hn, naturalFrom?_append, ih (n / 10) hlt, Option.bind_some, naturalFrom?,
        digitValue?_digitChar hdigit, Option.bind_some, naturalFrom?, Nat.div_add_mod']

/-- A word that is written in decimal is read as itself. -/
theorem word?_toString (n : UInt64) :
  word? (toString n.toNat) = some n.toNat
  := by
  have hread := naturalFrom?_toDigits n.toNat
  have hdigits : (toString n.toNat).toList = Nat.toDigits 10 n.toNat := Nat.toList_repr
  rw [word?, hdigits]
  cases hcs : Nat.toDigits 10 n.toNat with
  | nil => exact absurd hcs Nat.toDigits_ne_nil
  | cons c cs =>
    rw [hcs] at hread
    -- The first digit is none of the signs that are dropped.
    have hplus : c ≠ '+' := by
      rintro rfl
      rw [naturalFrom?] at hread
      simp [digitValue?] at hread
    have hdrop : dropPlus (c :: cs) = c :: cs := by
      rw [dropPlus]
      rintro rest ⟨⟩
      exact hplus rfl
    rw [hdrop, natural?, hread, Option.filter_some, if_pos (by simpa using n.toNat_lt)]

end ServiceHarness.Text
