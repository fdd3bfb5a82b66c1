import ServiceHarness.Decimal.Binary64

/-!
# TOML values

The values of a TOML document, and how its tables grow.  A table knows by which way it came
about, its `TableKind`, since that decides what may still be added to it: `assign` gives a
dotted key a value, and `within` reaches the table that a header names.  Each of them is
`none` where the document would define something twice.
-/

namespace ServiceHarness.Toml

/-- How a table came about. -/
inductive TableKind where
  /-- It is written as a value, and complete. -/
  | inline
  /-- It has a header of its own. -/
  | headed
  /-- It is named on the way to a table with a header. -/
  | implied
  /-- It is named on the way to the value of a dotted key. -/
  | dotted
  deriving DecidableEq, Repr

/-- A value. -/
inductive Value where
  /-- A string. -/
  | text (s : String)
  /-- An integer. -/
  | integer (n : Int)
  /-- A floating-point number. -/
  | float (x : Decimal.Binary64)
  /-- A truth value. -/
  | boolean (b : Bool)
  /-- A date, a time or both, as it is written in full. -/
  | moment (s : String)
  /-- An array. -/
  | array (items : List Value)
  /-- A table. -/
  | table (kind : TableKind) (entries : List (String × Value))
  /-- An array of tables with headers. -/
  | tables (items : List (List (String × Value)))

/-- The entries of a table, each key once. -/
abbrev Entries := List (String × Value)

namespace Entries

/-- The value of a key. -/
def find? (key : String) (t : Entries) : Option Value :=
  t.lookup key

/-- The entries with a value for a key, in the place of the one it had. -/
def put (key : String) (v : Value) : Entries → Entries
  | [] => [(key, v)]
  | e :: rest => if e.1 = key then (key, v) :: rest else e :: put key v rest

/-- The entries without that of a key. -/
def drop (key : String) (t : Entries) : Entries :=
  t.filter fun e => e.1 != key

/-- The entries with a key that they do not have yet. -/
def add (key : String) (v : Value) (t : Entries) : Option Entries :=
  match t.find? key with
  | some _ => none
  | none => some (t.put key v)

/-- The entries with a value for a dotted key.  On the way it may add to tables that have no
header, and in the end only to one that a dotted key has made. -/
def assign (v : Value) : List String → Entries → Option Entries
  | [], _ => none
  | [key], t => t.add key v
  | key :: next :: rest, t =>
    match t.find? key with
    | none => do
      let sub ← assign v (next :: rest) []
      return t.put key (.table .dotted sub)
    | some (.table kind sub) => do
      guard (kind = .dotted ∨ kind = .implied ∧ rest ≠ [])
      let sub ← assign v (next :: rest) sub
      return t.put key (.table kind sub)
    | some (.tables items) => do
      guard (rest ≠ [])
      let last ← items.getLast?
      let last ← assign v (next :: rest) last
      return t.put key (.tables (items.dropLast ++ [last]))
    | some _ => none

/-- What `f` does to the table that a path of keys reaches, which leads through the last
table of an array; tables that are missing on the way are implied. -/
def within {α : Type} (f : Entries → Option (α × Entries)) :
    List String → Entries → Option (α × Entries)
  | [], t => f t
  | key :: rest, t =>
    match t.find? key with
    | none => do
      let (a, sub) ← within f rest []
      return (a, t.put key (.table .implied sub))
    | some (.table kind sub) => do
      guard (kind ≠ .inline)
      let (a, sub) ← within f rest sub
      return (a, t.put key (.table kind sub))
    | some (.tables items) => do
      let last ← items.getLast?
      let (a, last) ← within f rest last
      return (a, t.put key (.tables (items.dropLast ++ [last])))
    | some _ => none

/-- Takes out the table of a key to add to it; it must be missing or implied. -/
def takeImplied (key : String) (t : Entries) : Option (Entries × Entries) :=
  match t.find? key with
  | none => some ([], t)
  | some (.table .implied sub) => some (sub, t.drop key)
  | some _ => none

/-- Puts a table with a header in the place of a key that has no value. -/
def putHeaded (key : String) (sub : Entries) (t : Entries) : Option (Unit × Entries) :=
  (t.add key (.table .headed sub)).map ((), ·)

/-- Puts a table at the end of the array of tables of a key. -/
def push (key : String) (sub : Entries) (t : Entries) : Option (Unit × Entries) :=
  match t.find? key with
  | none => some ((), t.put key (.tables [sub]))
  | some (.tables items) => some ((), t.put key (.tables (items ++ [sub])))
  | some _ => none

end Entries

end ServiceHarness.Toml
