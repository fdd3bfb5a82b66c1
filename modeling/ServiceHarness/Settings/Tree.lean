import ServiceHarness.Text.LowerCase
import ServiceHarness.Toml.Document

/-!
# Settings trees

A `Tree` is what a harness file says, whatever is expected of it.  Keys are told in lower case,
but those within lists as they are.  A key at the top may be a path such as `a.b[0]`, and then
stands for a place in the tree; `Tree.ofEntries` puts everything into its place.  A tree
remembers whether it stands in the file as it is, or was put together.
-/

namespace ServiceHarness.Settings

/-- What a harness file says.  `whole` tells that it stands in the file as it is. -/
inductive Tree where
  /-- Nothing. -/
  | nothing
  /-- A text. -/
  | text (s : String)
  /-- An integer. -/
  | integer (n : Int)
  /-- A floating-point number. -/
  | float (x : Decimal.Binary64)
  /-- A truth value. -/
  | boolean (b : Bool)
  /-- A list. -/
  | list (whole : Bool) (items : List Tree)
  /-- A table. -/
  | table (whole : Bool) (entries : List (String × Tree))
  deriving Inhabited

namespace Tree

/-- A key in lower case. -/
def lowerKey (key : String) : String :=
  String.ofList (key.toList.flatMap Text.lowerCase)

/-- The entries with a value for a key, in the place of the one it had. -/
def put (key : String) (v : Tree) : List (String × Tree) → List (String × Tree)
  | [] => [(key, v)]
  | e :: rest => if e.1 = key then (key, v) :: rest else e :: put key v rest

mutual

/-- The tree of a value of a document. -/
def ofValue : Toml.Value → Tree
  | .text s => .text s
  | .integer n => .integer n
  | .float x => .float x
  | .boolean b => .boolean b
  | .moment s => .text s
  | .array items => .list true (ofValues items)
  | .table _ entries => .table true (ofPairs entries)
  | .tables items => .list true (ofTables items)

/-- The trees of the items of an array. -/
def ofValues : List Toml.Value → List Tree
  | [] => []
  | v :: rest => ofValue v :: ofValues rest

/-- The trees of the entries of a table. -/
def ofPairs : List (String × Toml.Value) → List (String × Tree)
  | [] => []
  | (key, v) :: rest => put key (ofValue v) (ofPairs rest)

/-- The trees of an array of tables. -/
def ofTables : List (List (String × Toml.Value)) → List Tree
  | [] => []
  | t :: rest => .table true (ofPairs t) :: ofTables rest

end

/-- A step from a tree to one of its parts. -/
inductive Step where
  /-- To the value of a key. -/
  | key (key : String)
  /-- To an item of a list, counted from the end if the number is negative. -/
  | item (index : Int)
  deriving DecidableEq, Repr

/-- The entries of a tree; one that is no table has none. -/
def entries : Tree → List (String × Tree)
  | .table _ es => es
  | _ => []

/-- The items of a tree; one that is no list has none. -/
def items : Tree → List Tree
  | .list _ l => l
  | _ => []

/-- Whether the tree is a table that stands in the file as it is. -/
def isWholeTable : Tree → Bool
  | .table w _ => w
  | _ => false

/-- Whether the tree is a list that stands in the file as it is. -/
def isWholeList : Tree → Bool
  | .list w _ => w
  | _ => false

/-- The table with `v` at a key in lower case.  A table is not put there as it is: what it holds
is put into the table that is there. -/
def setKey (key : String) : Tree → Tree → Tree
  | .table _ incoming, t =>
    let key := lowerKey key
    let es := t.entries
    let target := incoming.attach.foldl (fun acc e => setKey e.1.1 e.1.2 acc)
      ((es.lookup key).getD (.table false []))
    .table t.isWholeTable (put key target es)
  | v, t => .table t.isWholeTable (put (lowerKey key) v t.entries)
termination_by v => sizeOf v
decreasing_by
  have := List.sizeOf_lt_of_mem e.2
  have : sizeOf e.1.2 < sizeOf e.1 := by
    obtain ⟨⟨a, b⟩, _⟩ := e
    simp only [Prod.mk.sizeOf_spec]
    omega
  simp only [table.sizeOf_spec]
  omega

/-- The place of an item in a list of a length. -/
def place (index : Int) (length : Nat) : Nat :=
  if 0 ≤ index then index.toNat else length - index.natAbs

/-- The list with `v` as an item, and with nothing in the places before it that it did not
have. -/
def setItem (index : Int) (v : Tree) (t : Tree) : Tree :=
  let l := t.items
  let n := place index l.length
  let l := l ++ List.replicate (n + 1 - l.length) .nothing
  .list t.isWholeList (l.set n v)

/-- The tree with `v` at the place to which some steps lead after a first one. -/
def store (v : Tree) : Step → List Step → Tree → Tree
  | .key key, [], t => setKey key v t
  | .item index, [], t => setItem index v t
  | .key key, next :: rest, t =>
    let es := t.entries
    .table t.isWholeTable (put key (store v next rest ((es.lookup key).getD .nothing)) es)
  | .item index, next :: rest, t =>
    let l := t.items
    let n := place index l.length
    setItem index (store v next rest ((l[n]?).getD .nothing)) t

/-- The characters of a key within a path. -/
def isPathChar (c : Char) : Bool :=
  c.isAlphanum || c == ' ' || c == '_' || c == '-'

open Scan in
/-- A key within a path. -/
def pathKey : Scan String := do
  let cs ← span isPathChar
  guard !cs.isEmpty
  return String.ofList cs

open Scan in
/-- A further step of a path. -/
def pathStep : Scan Step :=
  (do char '.'; return .key (← pathKey)) <|> do
    char '['
    Toml.Grammar.blanks
    let negative ← opt (char '-')
    let n ← StateT.lift (Text.natural? 10 (← span Char.isDigit))
    Toml.Grammar.blanks
    char ']'
    guard (n ≤ Int64.maxValue.toInt)
    return .item (if negative.isSome then -n else n)

open Scan in
/-- The steps of a key at the top, if it is a path. -/
def path? (key : String) : Option (String × List Step) :=
  ((do
    let first ← pathKey
    let rest ← many pathStep
    atEnd
    return (first, rest) : Scan _).run key.toList).map (·.1)

/-- The tree of a document. -/
def ofEntries (document : Toml.Entries) : Tree :=
  (ofPairs document).foldl
    (fun t e => match path? (lowerKey e.1) with
      | some (first, rest) => store e.2 (.key first) rest t
      | none => setKey e.1 e.2 t)
    (.table false [])

end Tree

end ServiceHarness.Settings
