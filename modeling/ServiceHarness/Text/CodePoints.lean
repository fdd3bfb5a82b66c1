import ServiceHarness.Text.Numeral

/-!
# Tables of code points

A `Table` tells something of code points, one run of them after the other.  It is written as a
text of words: a word begins with the first code point of a run in hexadecimal, and with a plus
sign and the number of those that follow it, if there are any; what comes after that is for the
table to read.  `CodePoints` are the tables that tell of a code point only whether it is in
them.
-/

namespace ServiceHarness.Text

/-- A run of code points and what is told of them. -/
structure Entry (α : Type) where
  /-- The first code point. -/
  first : Nat
  /-- The last code point. -/
  last : Nat
  /-- What is told of them. -/
  value : α

/-- The number at the beginning of a text in hexadecimal, and what follows it. -/
def leadingNumber (cs : List Char) : Nat × List Char :=
  let (digits, rest) := cs.span fun c => (digitValue? 16 c).isSome
  ((natural? 16 digits).getD 0, rest)

/-- The run of a word with what comes after it. -/
def Entry.ofWord (word : List Char) : Entry (List Char) :=
  match leadingNumber word with
  | (first, '+' :: rest) =>
    let (more, rest) := leadingNumber rest
    ⟨first, first + more, rest⟩
  | (first, rest) => ⟨first, first, rest⟩

/-- What is told of code points, by entries in ascending order. -/
structure Table (α : Type) where
  /-- The entries. -/
  entries : Array (Entry α)

namespace Table

/-- The words of a text on several lines. -/
def words (text : String) : List String :=
  ((text.splitOn "\n").flatMap (·.splitOn " ")).filter (· ≠ "")

/-- The table that a text writes, whose words `read` reads. -/
def ofText {α : Type} (read : Entry (List Char) → Entry α) (text : String) : Table α :=
  ⟨((words text).map fun word => read (Entry.ofWord word.toList)).toArray⟩

/-- The entry of a code point among those from the place `low` on and before `high`. -/
def search {α : Type} (t : Table α) (n low high : Nat) : Option (Entry α) :=
  if low < high then
    let middle := (low + high) / 2
    match t.entries[middle]? with
    | none => none
    | some e =>
      if n < e.first then t.search n low middle
      else if e.last < n then t.search n (middle + 1) high
      else some e
  else none
termination_by high - low

/-- The entry of a code point. -/
def find? {α : Type} (t : Table α) (n : Nat) : Option (Entry α) :=
  t.search n 0 t.entries.size

/-- What is told of a character. -/
def lookup? {α : Type} (t : Table α) (c : Char) : Option α :=
  (t.find? c.toNat).map (·.value)

end Table

/-- A set of code points. -/
abbrev CodePoints := Table Unit

/-- The set that a text writes. -/
def CodePoints.ofText (text : String) : CodePoints :=
  Table.ofText (fun e => { e with value := () }) text

/-- Whether a character is in a set. -/
def CodePoints.contains (s : CodePoints) (c : Char) : Bool :=
  (s.find? c.toNat).isSome

end ServiceHarness.Text
