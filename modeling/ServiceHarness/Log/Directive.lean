import ServiceHarness.Text.Alphanumeric
import ServiceHarness.Text.Blank
import ServiceHarness.Text.Numeral

/-!
# Directives of log filters

A `Directive` says how far down the log is shown where some conditions hold: that the origin of a
record begins with a name, that it is told within a span with a name, and that the record or the
span has certain fields.  It is written `origin[span{field,field=value}]=limit`, and each part may
be missing.  `Directive.parse?` reads one.
-/

namespace ServiceHarness.Log

/-- The condition that there is a field, and that it has a value if one is told. -/
structure FieldCondition where
  /-- The name of the field. -/
  name : String
  /-- The value. -/
  value : Option String
  deriving DecidableEq, Repr

/-- A directive. -/
structure Directive where
  /-- The beginning of the origin. -/
  origin : Option String := none
  /-- The name of the span. -/
  span : Option String := none
  /-- The conditions on fields. -/
  fields : List FieldCondition := []
  /-- The depth down to which is shown what meets the conditions. -/
  limit : Nat := 5
  deriving DecidableEq, Repr

namespace Directive

/-- The words for limits. -/
def limits : List (String × Nat) :=
  [("off", 0), ("error", 1), ("warn", 2), ("info", 3), ("debug", 4), ("trace", 5)]

/-- The limit that a word means: a number up to five, or the name of one. -/
def limit? (word : String) : Option Nat :=
  match (Text.word? word).filter (· ≤ 5) with
  | some n => some n
  | none => limits.lookup (String.ofList (word.toList.map Char.toLower))

/-- The condition that a text writes; what follows a second equals sign counts for nothing. -/
def condition (text : String) : FieldCondition :=
  match text.splitOn "=" with
  | name :: value :: _ => ⟨name, some value⟩
  | _ => ⟨text, none⟩

/-- Where a reader stands, with the place at which the part that it is in begins. -/
inductive Part where
  /-- Before everything. -/
  | start
  /-- In an origin, or a word for a limit. -/
  | name (first : Nat)
  /-- In the name of a span. -/
  | span (first : Nat)
  /-- In a condition on a field. -/
  | field (first : Nat)
  /-- Behind all conditions on fields. -/
  | fields
  /-- Behind the span. -/
  | behind
  /-- In a limit. -/
  | limit (first : Nat)
  deriving DecidableEq, Repr

/-- The characters from one place up to another. -/
def slice (text : List Char) (first last : Nat) : String :=
  String.ofList ((text.drop first).take (last - first))

/-- The characters that may begin an origin. -/
def mayBegin (c : Char) : Bool :=
  Text.isAlphanumeric c || c == '-' || c == ':' || c == '_'

/-- The directive and the part after one more character, which stands at the place `i`. -/
def step (text : List Char) (d : Directive) (part : Part) (i : Nat) (c : Char) :
    Option (Directive × Part) :=
  match part, c with
  | .start, '[' => some (d, .span (i + 1))
  | .start, c => if mayBegin c then some (d, .name i) else none
  | .name first, '=' => some ({ d with origin := some (slice text first i) }, .limit (i + 1))
  | .name first, '[' => some ({ d with origin := some (slice text first i) }, .span (i + 1))
  | .span first, ']' => some ({ d with span := some (slice text first i) }, .behind)
  | .span first, '\x7b' =>
    some ({ d with span := some (slice text first i) |>.filter (· ≠ "") }, .field (i + 1))
  | .field first, '\x7d' =>
    let written := slice text first i
    if written = "" then none
    else some ({ d with fields := d.fields ++ [condition written] }, .fields)
  | .fields, ']' => some (d, .behind)
  | .fields, _ => none
  | .behind, '=' => some (d, .limit (i + 1))
  | .behind, _ => none
  | part, _ => some (d, part)

/-- The directive after all characters, of which the first one stands at the place `i`. -/
def run (text : List Char) : Directive → Part → Nat → List Char → Option (Directive × Part)
  | d, part, _, [] => some (d, part)
  | d, part, i, c :: rest => do
    let (d, part) ← step text d part i c
    run text d part (i + 1) rest

/-- The directive once its text is at its end. -/
def finish (text : List Char) (d : Directive) : Part → Option Directive
  | .name first =>
    let word := slice text first text.length
    match limit? word with
    | some limit => some { d with limit }
    | none => some { d with origin := some word }
  | .limit first =>
    let word := slice text first text.length
    if word = "" then some d else (limit? word).map fun limit => { d with limit }
  | .behind => some d
  | _ => none

/-- The directive that a text writes.  Blanks around it are passed over in counting its
characters, but count among them. -/
def parse? (s : String) : Option Directive := do
  let text := s.toList
  let (d, part) ← run text {} .start 0 (Text.trimList text)
  finish text d part

/-- Whether the directive looks at spans. -/
def looksAtSpans (d : Directive) : Bool :=
  d.span.isSome || !d.fields.isEmpty

/-- Whether the directive looks at records. -/
def looksAtRecords (d : Directive) : Bool :=
  d.span.isNone && d.fields.all (·.value.isNone)

/-- Whether an origin begins as the directive says. -/
def meetsOrigin (d : Directive) (origin : String) : Bool :=
  d.origin.all fun o => o.toList.isPrefixOf origin.toList

/-- Whether there are all the fields of the directive. -/
def meetsFields (d : Directive) (names : List String) : Bool :=
  d.fields.all fun f => names.contains f.name

/-- The order in which directives are asked about a record: a longer origin goes before a shorter
one and any before none, and then more fields go before fewer ones. -/
def rank (d : Directive) : Nat × Nat :=
  ((d.origin.map fun o => o.utf8ByteSize + 1).getD 0, d.fields.length)

/-- Whether a directive is asked about a record before another one, or takes its place. -/
def goesBefore (d e : Directive) : Bool :=
  let (m, n) := d.rank
  let (m', n') := e.rank
  let names (d : Directive) : List String := d.fields.map (·.name)
  m' < m || m' == m && (n' < n || n' == n && !decide (names d < names e))

end Directive

end ServiceHarness.Log
