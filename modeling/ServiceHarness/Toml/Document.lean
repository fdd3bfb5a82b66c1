import ServiceHarness.Toml.Moment
import ServiceHarness.Toml.Number
import ServiceHarness.Toml.Text

/-!
# TOML documents

`Toml.entries?` reads a document into the entries of its root table, or is `none` for a text
that is no document.  A `Draft` is what has been read so far: the root table, and the table
to which the lines below the last header add.
-/

namespace ServiceHarness.Toml

namespace Grammar

open Scan

/-- A value without parts. -/
def scalar : Scan Value :=
  (do return .text (← string)) <|> (do return .moment (← moment .ofValue)) <|> number
    <|> (do exactly "true"; return .boolean true)
    <|> (do exactly "false"; return .boolean false)

/-- An array of the given values. -/
def array (v : Scan Value) : Scan Value := do
  char '['
  let items ← opt do
    let items ← separated (do blankLines; let a ← v; blankLines; return a) (char ',')
    let _ ← opt (char ',')
    return items
  blankLines
  char ']'
  return .array (items.getD [])

/-- A key with a value. -/
def pair (v : Scan Value) : Scan (List String × Value) := do
  let path ← key
  char '='
  blanks
  let a ← v
  blanks
  return (path, a)

/-- A table of the given values within a line. -/
def inlineTable (v : Scan Value) : Scan Value := do
  char '{'
  let pairs ← opt (separated (pair v) (char ','))
  blanks
  char '}'
  let entries ← StateT.lift ((pairs.getD []).foldlM (fun t p => Entries.assign p.2 p.1 t) [])
  return .table .inline entries

/-- A value with so many more levels of arrays and inline tables. -/
def value : Nat → Scan Value
  | 0 => scalar
  | levels + 1 => scalar <|> array (value levels) <|> inlineTable (value levels)

/-- A line with a key and a value. -/
def assignment : Scan (List String × Value) := do
  let path ← key
  char '='
  blanks
  let a ← value (nestingLimit - 1)
  lineRest
  return (path, a)

end Grammar

/-- The header of a table, or of one more table of an array. -/
structure Header where
  /-- The keys that lead to the table. -/
  path : List String
  /-- Whether the table belongs to an array. -/
  isItem : Bool
  deriving DecidableEq, Repr

/-- A line with a header. -/
def Grammar.header : Scan Header := do
  let isItem ← Scan.sees (Scan.exactly "[[")
  Scan.exactly (if isItem then "[[" else "[")
  let path ← Grammar.key
  Scan.exactly (if isItem then "]]" else "]")
  Grammar.lineRest
  return ⟨path, isItem⟩

/-- What has been read of a document. -/
structure Draft where
  /-- The root table without the current one. -/
  root : Entries := []
  /-- The header of the current table; the root table has none. -/
  header : Option Header := none
  /-- The entries of the current table. -/
  current : Entries := []

namespace Draft

/-- The root table with the current one put into its place. -/
def finish (d : Draft) : Option Entries := do
  match d.header with
  | none => return d.current
  | some h =>
    let last ← h.path.getLast?
    let place := if h.isItem then Entries.push last d.current else Entries.putHeaded last d.current
    return (← d.root.within place h.path.dropLast).2

/-- What has been read once a header begins another table. -/
def start (d : Draft) (h : Header) : Option Draft := do
  let root ← d.finish
  if h.isItem then return { root := root, header := some h }
  let last ← h.path.getLast?
  let (current, root) ← root.within (Entries.takeImplied last) h.path.dropLast
  return { root := root, header := some h, current := current }

/-- What has been read once a key has a value in the current table. -/
def assign (d : Draft) (path : List String) (v : Value) : Option Draft := do
  return { d with current := ← d.current.assign v path }

end Draft

/-- What has been read after one more line; blanks before it count for nothing. -/
def Grammar.line (d : Draft) : Scan Draft := do
  Grammar.blanks
  match ← get with
  | '#' :: _ => do
    Grammar.comment
    Grammar.lineEnd
    return d
  | '[' :: _ => do
    let h ← Grammar.header
    StateT.lift (d.start h)
  | '\n' :: _ => do
    Grammar.newline
    return d
  | '\r' :: _ => do
    Grammar.newline
    return d
  | [] => return d
  | _ => do
    let (path, v) ← Grammar.assignment
    StateT.lift (d.assign path v)

/-- What has been read after all lines, which are at most so many. -/
def Grammar.lines : Nat → Draft → Scan Draft
  | 0, d => return d
  | n + 1, d => do
    if (← get).isEmpty then return d
    Grammar.lines n (← Grammar.line d)

/-- The entries of the document that a text holds.  A mark of the byte order may precede
it. -/
def entries? (s : String) : Option Entries := do
  let cs := match s.toList with
    | '\ufeff' :: cs => cs
    | cs => cs
  let (d, rest) ← (Grammar.lines (cs.length + 1) {}).run cs
  guard rest.isEmpty
  d.finish

end ServiceHarness.Toml
