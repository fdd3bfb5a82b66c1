import ServiceHarness.Machine.Account
import ServiceHarness.Machine.Shell.Arithmetic
import ServiceHarness.Machine.Shell.Basic
import ServiceHarness.Machine.Shell.Fields
import ServiceHarness.Machine.Shell.Grammar

/-!
# Expansion

A word is expanded part by part: parameters give their values, commands their output and
expressions their values.  `words` expands words to the fields that a command is given, and `text`
a word to a text that is not split.
-/

namespace ServiceHarness.Shell

/-- Where a script stands among what a process runs. -/
structure Place where
  /-- Whether its status is looked at, so that a failure does not end the shell. -/
  tested : Bool := false
  /-- Whether it is the last thing that the process does. -/
  last : Bool := false
  deriving DecidableEq, Repr

/-- The place of a script after which something else is done. -/
def Place.inner (p : Place) : Place :=
  { p with last := false }

/-- The place of a script whose status is looked at. -/
def Place.test : Place where
  tested := true

/-- The place of a script that is all that a process runs. -/
def Place.whole : Place where
  last := true

/-- What a shell does within words and commands: it runs scripts, expands words and complains. -/
structure Evaluator where
  /-- Runs a script. -/
  run : Place → Script → ShellM Unit
  /-- Expands a word, which may be the value of a variable. -/
  expand : (isValue : Bool) → Word → ShellM (List Piece)
  /-- Complains and gives up what is being done. -/
  fail : String → ShellM Empty

/-- Gives up what is being done. -/
def Evaluator.refuse {α : Type} (e : Evaluator) (text : String) : ShellM α := do
  let never ← e.fail text
  never.elim

/-- Runs the lines of a script one after the other, at most so many, until the shell is on its way
out of something; tells whether there was a command. -/
def runLines (e : Evaluator) (tested : Bool) : Nat → Bool → Reader → ShellM Bool
  | 0, ran, _ => return ran
  | n + 1, ran, r => do
    let s ← Work.get
    match Script.next? { r with aliases := s.aliases } with
    | .error fault =>
      onLine fault.line
      e.refuse s!"Syntax error: {fault.text}"
    | .ok (none, _) => return ran
    | .ok (some (.sequence []), r) => runLines e tested n ran r
    | .ok (some script, r) =>
      e.run { tested } script
      let s ← Work.get
      if s.unwinding = .none then runLines e tested n true r else return true

/-- Runs the script that a text is; it succeeds if there is no command in it. -/
def evaluate (e : Evaluator) (tested : Bool) (text : String) : ShellM Unit := do
  let before ← Work.get
  let ran ← runLines e tested (text.length + 1) false { rest := text.toList }
  if !ran then setStatus 0
  onLine before.line

/-- Exits after the action that is set for it. -/
def finish (e : Evaluator) : ShellM Unit := do
  let s ← Work.get
  match s.traps.lookup 0 with
  | none => Work.exit s.status
  | some action =>
    Work.modify fun s => { s with traps := s.traps.filter fun t => t.1 != 0, unwinding := .none }
    evaluate e false action
    Work.exit s.status

/-- Complains and exits. -/
def abort (e : Evaluator) (text : String) : ShellM Empty := do
  complain text
  Work.modify fun s => { s with status := 2, builtin := none }
  finish e
  Work.exit 2

/-- Begins a process that does something in the state of the shell, and exits. -/
def forkTo (e : Evaluator) (body : ShellM Unit) : ShellM Nat :=
  Work.fork fun s pid =>
    Work.thread
      (do
        body
        finish e
        return 0)
      { s with pid, traps := s.traps.filter fun t => t.1 != 0 && t.2 == "", jobs := [] }

/-- Gives a stream of the process another target, or closes it. -/
def setStream (number : Nat) (target : Option Stream) : ShellM Unit :=
  actAs fun pid m =>
    ((), m.change pid fun p =>
      let others := p.streams.filter fun e => e.1 != number
      { p with streams := (target.map fun t => (number, t)).toList ++ others })

/-- A text without the ends of lines at its end. -/
def dropNewlines (text : String) : String :=
  String.ofList (text.toList.reverse.dropWhile (· == '\n')).reverse

/-- The output of a command. -/
def capture (e : Evaluator) (body : ShellM Unit) : ShellM String := do
  let pipe ← Work.act Machine.newPipe
  let child ← forkTo e do
    setStream 1 (some (.pipe pipe))
    body
  let ending ← Work.wait child false
  let text ← Work.look fun m => m.contents pipe
  Work.modify fun s => { s with substituted := ending.map Ending.status }
  return dropNewlines text

/-- Gives a variable a value, unless it keeps the one it has. -/
def assignTo (e : Evaluator) (name value : String) : ShellM Unit := do
  let s ← Work.get
  if s.isFixed name then e.refuse s!"{name}: is read only"
  Work.modify fun s => s.assign name value

/-! ### Home directories -/

/-- The home directory of a user, or that of the shell for no name. -/
def home? (s : Shell) (user : String) : Option String :=
  let home := if user = "" then s.lookup? "HOME" else (Account.ofName? user).map Account.home
  home.filter (· != "")

/-- The parts of a text that may begin with the home directory of a user. -/
def homeParts (s : Shell) (isValue isLast : Bool) (t : String) : Word :=
  match t.toList with
  | '~' :: cs =>
    let user := cs.takeWhile fun c => c != '/' && !(isValue && c == ':')
    let rest := cs.drop user.length
    match if rest.isEmpty && !isLast then none else home? s (String.ofList user) with
    | some home => [.text home true, .text (String.ofList rest) false]
    | none => [.text t false]
  | _ => [.text t false]

/-- The parts of a text in the value of a variable, where home directories may also follow
colons. -/
def valueParts (s : Shell) (isFirst isLast : Bool) (t : String) : Word :=
  let pieces := t.splitOn ":"
  (pieces.zipIdx.map fun (piece, i) =>
    let colon := if i = 0 then [] else [Part.text ":" false]
    let isEnd := isLast || i + 1 < pieces.length
    colon ++ if i = 0 && !isFirst then [.text piece false] else homeParts s true isEnd piece).flatten

/-- The word with home directories put in. -/
def withHomes (s : Shell) (isValue : Bool) (w : Word) : Word :=
  let last := w.length - 1
  (w.zipIdx.map fun
    | (.text t false, i) =>
      if isValue then valueParts s (i == 0) (i == last) t
      else if i = 0 then homeParts s false (i == last) t else [.text t false]
    | (part, _) => [part]).flatten

/-! ### Parameters -/

/-- How the value of a part without more in it comes about. -/
def mannerOf (quoted : Bool) : Manner :=
  if quoted then .quoted else .expanded

/-- What stands between the parameters where they are one text. -/
def joint (s : Shell) : String :=
  String.ofList (s.separators.toList.take 1)

/-- The pieces of all parameters. -/
def allParameters (s : Shell) (joined quoted : Bool) : List Piece :=
  let manner := mannerOf quoted
  if joined && quoted then [.text ((joint s).intercalate s.parameters) manner]
  else (s.parameters.map fun p => Piece.text p manner).intersperse .gap

/-- Whether a parameter stands for all. -/
def isAll (name : String) : Bool :=
  name == "@" || name == "*"

/-- The pieces of the value of a parameter, if it has one. -/
def parameterPieces? (s : Shell) (name : String) (quoted : Bool) : Option (List Piece) :=
  if isAll name then some (allParameters s (name == "*") quoted)
  else (s.value? name).map fun v => [.text v (mannerOf quoted)]

/-- Pieces in which also what stood there is split. -/
def loosened (quoted : Bool) (ps : List Piece) : List Piece :=
  if quoted then ps
  else ps.map fun
    | .text t .plain => .text t .expanded
    | p => p

/-- The pieces of a parameter that has to have a value if the shell asks for that. -/
def requiredPieces (e : Evaluator) (name : String) (quoted : Bool) : ShellM (List Piece) := do
  let s ← Work.get
  match parameterPieces? s name quoted with
  | some ps => return ps
  | none =>
    if s.has 'u' then e.refuse s!"{name}: parameter not set"
    return if quoted then [.text "" .quoted] else []

/-- The pieces that take the place of a parameter. -/
def expandParameter (e : Evaluator) (isValue : Bool) (name : String) (quoted : Bool) :
    Use → ShellM (List Piece)
  | .unknown => e.refuse "Bad substitution"
  | .plain => requiredPieces e name quoted
  | .length => do
    let s ← Work.get
    let ps ← requiredPieces e name true
    return [.text (toString (Piece.join (joint s) ps).length) (mannerOf quoted)]
  | .fallback kind orEmpty word => do
    let s ← Work.get
    let present := (parameterPieces? s name quoted).filter fun ps =>
      !(orEmpty && Piece.join "" ps == "")
    match kind, present with
    | .alternative, none => return if quoted then [.text "" .quoted] else []
    | .alternative, some _ => return loosened quoted (← e.expand isValue word)
    | _, some ps => return ps
    | .default, none => return loosened quoted (← e.expand isValue word)
    | .assign, none =>
      let value := Piece.join (joint s) (← e.expand isValue word)
      if !isName name then e.refuse s!"{name}: bad variable name"
      assignTo e name value
      return [.text value (mannerOf quoted)]
    | .fail, none =>
      let missing := if orEmpty then "parameter not set or null" else "parameter not set"
      if word.isEmpty then e.refuse s!"{name}: {missing}"
      let text := Piece.join (joint s) (← e.expand isValue word)
      e.refuse s!"{name}: {text}"
  | .trimmed atEnd longest pattern => do
    let s ← Work.get
    let value := Piece.join (joint s) (← requiredPieces e name quoted)
    let atoms := Pattern.atoms (Piece.field (joint s) (← e.expand false pattern))
    let cut := if atEnd then Pattern.dropEnd longest atoms value.toList
      else Pattern.dropStart longest atoms value.toList
    return [.text (String.ofList cut) (mannerOf quoted)]

/-! ### Words -/

/-- The pieces of a part of a word. -/
def expandPart (e : Evaluator) (isValue : Bool) : Part → ShellM (List Piece)
  | .text s quoted => pure [.text s (if quoted then .quoted else .plain)]
  | .parameter name use quoted => expandParameter e isValue name quoted use
  | .output script quoted => do
    let text ← capture e (e.run .whole script)
    return [.text text (mannerOf quoted)]
  | .value expression quoted => do
    let text := Piece.join "" (← e.expand false expression)
    let s ← Work.get
    match Expression.evaluate (fun name => (s.value? name).getD "") text with
    | .ok (n, assigned) =>
      for (name, value) in assigned do
        assignTo e name (toString value)
      return [.text (toString n) (mannerOf quoted)]
    | .error fault => e.refuse (fault.message text)

/-- The pieces of a word. -/
def expandWord (e : Evaluator) (isValue : Bool) (word : Word) : ShellM (List Piece) := do
  let s ← Work.get
  List.flatten <$> (withHomes s isValue word).mapM (expandPart e isValue)

/-- The text of a word, which may be the value of a variable. -/
def textOf (e : Evaluator) (isValue : Bool) (word : Word) : ShellM String := do
  let ps ← e.expand isValue word
  return Piece.join (joint (← Work.get)) ps

/-- The text of a word. -/
def text (e : Evaluator) (word : Word) : ShellM String :=
  textOf e false word

/-- The pattern of a word. -/
def pattern (e : Evaluator) (word : Word) : ShellM (List Pattern.Atom) := do
  let ps ← e.expand false word
  return Pattern.atoms (Piece.field (joint (← Work.get)) ps)

/-- The fields of words. -/
def words (e : Evaluator) (ws : List Word) : ShellM (List String) :=
  List.flatten <$> ws.mapM fun word => do
    let ps ← e.expand false word
    let s ← Work.get
    let split := fields s.separators ps
    if s.has 'f' then return split.map Field.text
    let found ← actAs fun pid m => (split.map (matching m pid), m)
    return found.flatten

end ServiceHarness.Shell
