import ServiceHarness.Toml.Basic
import ServiceHarness.Toml.Moment

/-!
# Tables that write moments

A table whose first key is `momentKey` stands for the moment that the text at that key holds, and
the rest of it counts for nothing.  `Value.settled?` puts the moments in the place of all such
tables in a value, and is `none` if what stands at the key is no such text.
-/

namespace ServiceHarness.Toml

/-- The key of a table that writes a moment. -/
def momentKey : String :=
  "$__toml_private_datetime"

/-- The moment that the value at the key writes. -/
def Value.momentOf? : Value → Option Value
  | .text s => (Grammar.momentOf? s).map .moment
  | _ => none

mutual

/-- The value with a moment in the place of every table that writes one. -/
def Value.settled? : Value → Option Value
  | .array items => (settledList? items).map .array
  | .table kind entries => settledTable? kind entries
  | .tables items => (settledTables? items).map .array
  | v => some v

/-- What a table of the given kind stands for. -/
def settledTable? (kind : TableKind) : Entries → Option Value
  | [] => some (.table kind [])
  | (key, v) :: rest =>
    if key = momentKey then v.momentOf?
    else do
      let v ← v.settled?
      return .table kind ((key, v) :: (← settledEntries? rest))

/-- What the values of an array stand for. -/
def settledList? : List Value → Option (List Value)
  | [] => some []
  | v :: rest => do return (← v.settled?) :: (← settledList? rest)

/-- What further values of a table stand for. -/
def settledEntries? : Entries → Option Entries
  | [] => some []
  | (key, v) :: rest => do return (key, ← v.settled?) :: (← settledEntries? rest)

/-- What the tables of an array stand for. -/
def settledTables? : List Entries → Option (List Value)
  | [] => some []
  | t :: rest => do return (← settledTable? .headed t) :: (← settledTables? rest)

end

end ServiceHarness.Toml
