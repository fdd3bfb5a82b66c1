import ServiceHarness.Decimal.Shortest
import ServiceHarness.Settings.Basic
import ServiceHarness.Settings.Tree
import ServiceHarness.Text.Quoted

/-!
# Manifests of harness files

`Manifest.ofTree` reads what a harness file declares out of its tree.  Texts, numbers and
truth values are taken for each other where that makes sense; keys that mean nothing are
passed over.  A `Mismatch` is something else than what is expected, and tells where it stands
if it stands for a single value.
-/

namespace ServiceHarness.Settings

/-- Where a value stands in a tree. -/
inductive Place where
  /-- At a key of a table. -/
  | key (key : String)
  /-- In a list. -/
  | item (index : Nat)
  deriving DecidableEq, Repr

/-- Why a tree is no manifest. -/
inductive Mismatch where
  /-- A single value is expected and something else found. -/
  | value (found expected : String) (places : List Place) (whole : Bool)
  /-- A list or a service is expected and something else found. -/
  | shape (found expected : String)
  /-- A service has no name. -/
  | nameless
  /-- A service is an empty list. -/
  | tooShort
  deriving DecidableEq, Repr

namespace Mismatch

/-- The mismatch told from one place further out. -/
def within (place : Place) : Mismatch → Mismatch
  | .value found expected places whole => .value found expected (place :: places) whole
  | m => m

/-- The text of the places, from the outermost to the innermost. -/
def placesText : List Place → String
  | [] => ""
  | [.key k] => k
  | .key k :: .key l :: rest => k ++ "." ++ placesText (.key l :: rest)
  | .key k :: rest => k ++ placesText rest
  | .item i :: rest => s!"[{i}]" ++ placesText rest

/-- The wording of a mismatch in a file that is called `origin`. -/
def message (origin : String) : Mismatch → String
  | .value found expected places whole =>
    let file := if whole then s!" in {origin}" else ""
    s!"invalid type: {found}, expected {expected} for key `{placesText places}`{file}"
  | .shape found expected => s!"invalid type: {found}, expected {expected}"
  | .nameless => "missing field `name`"
  | .tooShort => "invalid length 0, expected struct ServiceEntry with 3 elements"

end Mismatch

namespace Tree

/-- What is told of a tree that is found instead of a list or a service. -/
def found : Tree → String
  | .nothing => "unit value"
  | .text s => s!"string {Text.quote s}"
  | .integer n => s!"integer `{n}`"
  | .float x =>
    let text := x.text
    let isWhole := text.all fun c => c.isDigit || c == '-'
    let text := if isWhole then text ++ ".0" else text
    s!"floating point `{text}`"
  | .boolean b => s!"boolean `{b}`"
  | .list .. => "sequence"
  | .table .. => "map"

/-- The mismatch of a tree that is found instead of a single value. -/
def mismatch (expected : String) : Tree → Mismatch
  | .nothing => .value "unit value" expected [] false
  | .text s => .value s!"string {Text.quote s}" expected [] true
  | .integer n => .value s!"64-bit integer `{n}`" expected [] true
  | .list whole _ => .value "sequence" expected [] whole
  | .table whole _ => .value "map" expected [] whole
  | t => .value t.found expected [] true

/-- The text of a value. -/
def asText : Tree → Except Mismatch String
  | .text s => .ok s
  | .integer n => .ok (toString n)
  | .float x => .ok x.text
  | .boolean b => .ok (toString b)
  | t => .error (t.mismatch "a string")

/-- The unsigned 64-bit number of a value. -/
def asWord : Tree → Except Mismatch Nat
  | .integer n =>
    if n < 0 then .error ((integer n).mismatch "an unsigned 64 bit or less integer")
    else .ok n.toNat
  | .float x => .ok x.toWord
  | .boolean b => .ok (if b then 1 else 0)
  | .text s =>
    let lower := lowerKey s
    if lower = "true" ∨ lower = "on" ∨ lower = "yes" then .ok 1
    else if lower = "false" ∨ lower = "off" ∨ lower = "no" then .ok 0
    else match Text.word? s with
      | some n => .ok n
      | none => .error ((text s).mismatch "an integer")
  | t => .error (t.mismatch "an integer")

/-- The items of a list, each read by `f`. -/
def asList {α : Type} (f : Tree → Except Mismatch α) : Tree → Except Mismatch (List α)
  | .list _ items =>
    items.zipIdx.mapM fun (t, i) => (f t).mapError (·.within (.item i))
  | t => .error (.shape t.found "a sequence")

/-- A value that may be missing. -/
def optional {α : Type} (f : Tree → Except Mismatch α) :
    Option Tree → Except Mismatch (Option α)
  | none => .ok none
  | some .nothing => .ok none
  | some t => (f t).map some

/-- The value of a key, which may be missing, read by `f`. -/
def field? {α : Type} (f : Tree → Except Mismatch α) (key : String)
    (entries : List (String × Tree)) : Except Mismatch (Option α) :=
  (optional f (entries.lookup key)).mapError (·.within (.key key))

/-- The item of a list, which may be missing, read by `f`. -/
def item? {α : Type} (f : Tree → Except Mismatch α) (index : Nat) (items : List Tree) :
    Except Mismatch (Option α) :=
  (optional f items[index]?).mapError (·.within (.item index))

end Tree

/-- The service that a tree declares: a table with its name and commands, or a list of
them. -/
def declaration : Tree → Except Mismatch Declaration
  | .table _ entries => do
    let build ← Tree.field? (Tree.asList Tree.asText) "build" entries
    let run ← Tree.field? (Tree.asList Tree.asText) "run" entries
    match entries.lookup "name" with
    | none => throw .nameless
    | some t => return ⟨← t.asText.mapError (·.within (.key "name")), build, run⟩
  | .list _ [] => .error .tooShort
  | .list _ (t :: rest) => do
    let name ← t.asText.mapError (·.within (.item 0))
    let build ← Tree.item? (Tree.asList Tree.asText) 1 (t :: rest)
    let run ← Tree.item? (Tree.asList Tree.asText) 2 (t :: rest)
    return ⟨name, build, run⟩
  | t => .error (.shape t.found "struct ServiceEntry")

/-- What a harness file declares. -/
def Manifest.ofTree (t : Tree) : Except Mismatch Manifest := do
  let es := t.entries
  let services ← match es.lookup "services" with
    | some t => (t.asList declaration).mapError (·.within (.key "services"))
    | none => .ok []
  return { services := services
           url := ← Tree.field? Tree.asText "instance_url" es
           confPath := ← Tree.field? Tree.asText "conf_path" es
           confVariable := ← Tree.field? Tree.asText "conf_env_var" es
           interval := ← Tree.field? Tree.asWord "probe_interval_ms" es
           workspaceTest := ← Tree.field? (Tree.asList Tree.asText) "workspace_test" es
           integrationTest := ← Tree.field? (Tree.asList Tree.asText) "integration_test" es }

end ServiceHarness.Settings
