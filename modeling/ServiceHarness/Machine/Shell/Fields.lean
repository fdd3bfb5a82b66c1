import ServiceHarness.Machine.Basic
import ServiceHarness.Machine.Shell.Pattern

/-!
# Fields

A word becomes `Piece`s when it is expanded, and these become the fields that a command is given.
`fields` splits what came from expansions and was not quoted, and `matching` puts the names of
files in place of a pattern that fits some.
-/

namespace ServiceHarness.Shell

/-- How a piece came about. -/
inductive Manner where
  /-- It stood there without quotes. -/
  | plain
  /-- It came from an expansion without quotes. -/
  | expanded
  /-- It is quoted. -/
  | quoted
  deriving DecidableEq, Repr

/-- A piece of an expanded word. -/
inductive Piece where
  /-- A text. -/
  | text (s : String) (manner : Manner)
  /-- A place where one field ends and another begins. -/
  | gap
  deriving DecidableEq, Repr

/-- The text of pieces that are not split, with a separator where fields would end. -/
def Piece.join (separator : String) (ps : List Piece) : String :=
  String.join (ps.map fun
    | .text s _ => s
    | .gap => separator)

/-- The pieces as one field, with a separator where fields would end. -/
def Piece.field (separator : String) (ps : List Piece) : Field :=
  ps.flatMap fun
    | .text s manner => s.toList.map (·, manner == .quoted)
    | .gap => separator.toList.map (·, false)

/-- The fields that are complete, in reverse, and the one that has been begun. -/
structure Splitting where
  /-- The complete fields. -/
  done : List Field := []
  /-- The field that has been begun, in reverse. -/
  current : Option Field := none
  /-- Whether a blank has just ended a field. -/
  afterBlank : Bool := false

/-- The splitting after one more character of the field. -/
def Splitting.push (s : Splitting) (c : Char) (quoted : Bool) : Splitting :=
  { s with current := some ((c, quoted) :: s.current.getD []), afterBlank := false }

/-- The splitting after the field has been ended, if it has been begun. -/
def Splitting.finish (s : Splitting) : Splitting :=
  match s.current with
  | some f => { s with done := f.reverse :: s.done, current := none }
  | none => s

/-- The splitting after a character that may separate fields. -/
def Splitting.separate (separators : String) (s : Splitting) (c : Char) : Splitting :=
  if !separators.contains c then s.push c false
  else if c == ' ' || c == '\t' || c == '\n' then
    if s.current.isSome then { s.finish with afterBlank := true } else s
  else if s.current.isNone && !s.afterBlank then { s with done := [] :: s.done }
  else { s.finish with afterBlank := false }

/-- The splitting after one more piece. -/
def Splitting.add (separators : String) (s : Splitting) : Piece → Splitting
  | .gap => s.finish
  | .text t .expanded => t.toList.foldl (Splitting.separate separators) s
  | .text t manner =>
    let s := if manner == .quoted then { s with current := some (s.current.getD []) } else s
    t.toList.foldl (fun s c => s.push c (manner == .quoted)) s

/-- The fields of the pieces of a word. -/
def fields (separators : String) (ps : List Piece) : List Field :=
  (ps.foldl (Splitting.add separators) {}).finish.done.reverse

/-- The parts of a field between slashes. -/
def pathParts (f : Field) : List Field :=
  let (last, before) := f.foldr
    (fun c acc => if c.1 == '/' then ([], acc.1 :: acc.2) else (c :: acc.1, acc.2))
    (([], []) : Field × List Field)
  last :: before

/-- The paths that fit the parts, each beginning with a text that leads to it. -/
def extend (m : Machine) (directory : String) : List Field → List String → List String
  | [], starts => starts
  | part :: rest, starts =>
    let ending := if rest.isEmpty then "" else "/"
    let extended := starts.flatMap fun start =>
      if Pattern.isPattern part then
        let place := if start = "" then "." else start
        match m.files.resolve directory place with
        | .error _ => []
        | .ok path =>
          let pattern := Pattern.atoms part
          let showsHidden := part.head?.map (·.1) == some '.'
          let names := if showsHidden then "." :: ".." :: m.files.names path else m.files.names path
          (names.filter fun name =>
            Pattern.fits pattern name.toList && (showsHidden || !name.startsWith ".")).map
              fun name => start ++ name ++ ending
      else [start ++ Field.text part ++ ending]
    extend m directory rest extended

/-- The names that fit a field that is a pattern, in ascending order, or the field itself if there
are none. -/
def matching (m : Machine) (pid : Nat) (f : Field) : List String :=
  if !Pattern.isPattern f then [Field.text f]
  else
    let directory := m.directoryOf pid
    let found := (extend m directory (pathParts f) [""]).filter fun path =>
      (m.files.lookupEntry directory path).toOption.isSome
    if found.isEmpty then [Field.text f] else found.mergeSort fun a b => !(b < a)

end ServiceHarness.Shell
