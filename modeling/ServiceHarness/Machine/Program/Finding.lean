import ServiceHarness.Machine.Program.Batch
import ServiceHarness.Machine.Shell.Pattern
import ServiceHarness.Machine.Utility.Paths

/-!
# Finding files

`find` walks through directories and works out a `Criterion` for everything that it meets; working
one out may have effects.
-/

namespace ServiceHarness.Program

/-- How a number compares with another one. -/
inductive Bound where
  /-- It is the same. -/
  | exactly (n : Nat)
  /-- It is larger. -/
  | above (n : Nat)
  /-- It is smaller. -/
  | below (n : Nat)
  deriving DecidableEq, Repr

/-- Whether a number is within a bound. -/
def Bound.admits (n : Nat) : Bound → Bool
  | exactly m => n == m
  | above m => m < n
  | below m => n < m

/-- What is looked for, and what is done with what is found. -/
inductive Criterion where
  /-- A fixed answer. -/
  | constant (holds : Bool)
  /-- The name, or the whole path, fits a pattern. -/
  | fits (ofPath folds : Bool) (pattern : String)
  /-- It is of one of the kinds with these letters. -/
  | kind (letters : List Char)
  /-- It is an empty file or directory. -/
  | isEmpty
  /-- Its size in units is within a bound. -/
  | size (unit : Nat) (bound : Bound)
  /-- Its permissions are these. -/
  | mode (bits : Nat)
  /-- Its path is put out. -/
  | print (ending : String)
  /-- A format is put out. -/
  | format (text : String)
  /-- A program is run for it. -/
  | run (words : List String)
  /-- A program is run for all of them together. -/
  | gather (words : List String)
  /-- It is removed. -/
  | delete
  /-- What is in it is left out. -/
  | prune
  /-- The search ends. -/
  | quit
  /-- The opposite. -/
  | negation (c : Criterion)
  /-- Both hold. -/
  | both (a b : Criterion)
  /-- One of them holds. -/
  | either (a b : Criterion)
  deriving Repr

/-- Whether a criterion does something with what is found. -/
def Criterion.acts : Criterion → Bool
  | .print _ | .format _ | .run _ | .gather _ | .delete | .quit => true
  | .negation c => c.acts
  | .both a b | .either a b => a.acts || b.acts
  | _ => false

/-- Whether directories come after what is in them. -/
def Criterion.deletes : Criterion → Bool
  | .delete => true
  | .negation c => c.deletes
  | .both a b | .either a b => a.deletes || b.deletes
  | _ => false

/-! ### Reading criteria -/

/-- What is read of the arguments, and what is said about the whole search. -/
structure Search where
  /-- The arguments that have not been read. -/
  rest : List String
  /-- The level down to which is searched. -/
  deepest : Option Nat := none
  /-- The level from which is searched. -/
  first : Nat := 0
  /-- Whether directories come after what is in them. -/
  isDeepFirst : Bool := false

/-- A computation that reads criteria. -/
abbrev SearchReader := StateT Search (Except String)

/-- The next argument, which is not taken. -/
def peekArg : SearchReader (Option String) :=
  return (← get).rest.head?

/-- Takes an argument. -/
def takeArg : SearchReader Unit :=
  modify fun s => { s with rest := s.rest.drop 1 }

/-- The value of a word. -/
def valueOf (word : String) : SearchReader String := do
  match (← get).rest with
  | value :: rest =>
    modify fun s => { s with rest }
    return value
  | [] => throw s!"missing argument to \x60{word}'"

/-- The bound that a text writes. -/
def bound? (text : String) : Option Bound :=
  match text.toList with
  | '+' :: ds => (Text.natural? 10 ds).map .above
  | '-' :: ds => (Text.natural? 10 ds).map .below
  | ds => (Text.natural? 10 ds).map .exactly

/-- The size that a text writes. -/
def sizeBound? (text : String) : Option (Nat × Bound) := do
  let cs := text.toList
  let units := [('c', 1), ('w', 2), ('b', 512), ('k', 1024), ('M', 1048576), ('G', 1073741824)]
  match cs.getLast?.bind fun c => units.lookup c with
  | some unit => return (unit, ← bound? (String.ofList cs.dropLast))
  | none => return (512, ← bound? text)

/-- The level that a word asks for. -/
def level (word : String) : SearchReader Nat := do
  let value ← valueOf word
  match value.toNat? with
  | some n => return n
  | none =>
    throw (s!"Expected a positive decimal integer argument to {word}, but got " ++ Name.quoted value)

/-- The words of a program up to the end of its command. -/
def commandWords (word : String) : SearchReader Criterion := do
  let s ← get
  let words := s.rest.takeWhile (· != ";")
  let gathered := s.rest.takeWhile (· != "+")
  let isGathered := gathered.length < words.length && gathered.getLast? = some "\x7b\x7d"
    && gathered.length < s.rest.length
  let taken := if isGathered then gathered else words
  if taken.isEmpty || taken.length = s.rest.length then throw s!"missing argument to \x60{word}'"
  set { s with rest := s.rest.drop (taken.length + 1) }
  return if isGathered then .gather taken.dropLast else .run taken

mutual

/-- The criterion of a level: alternatives, conjunctions, or one.  So many are nested at most. -/
def criterion : Nat → Nat → SearchReader Criterion
  | 0, _ => return .constant true
  | n + 1, 0 => do
    let first ← criterion n 1
    match ← peekArg with
    | some "-o" | some "-or" =>
      takeArg
      return .either first (← criterion n 0)
    | some "," =>
      takeArg
      return .either (.both first (.constant false)) (← criterion n 0)
    | _ => return first
  | n + 1, 1 => do
    let first ← criterion n 2
    match ← peekArg with
    | none | some "-o" | some "-or" | some ")" | some "," => return first
    | some "-a" | some "-and" =>
      takeArg
      return .both first (← criterion n 1)
    | some _ => return .both first (← criterion n 1)
  | n + 1, _ => do
    match ← peekArg with
    | some word =>
      takeArg
      primary n word
    | none => throw "invalid expression; expected to find an operand"

/-- The criterion that a word begins. -/
def primary (n : Nat) (word : String) : SearchReader Criterion := do
  match word with
  | "(" =>
    let c ← criterion n 0
    match ← peekArg with
    | some ")" =>
      takeArg
      return c
    | _ => throw "invalid expression; I was expecting to find a ')' somewhere but did not see one."
  | "!" | "-not" => return .negation (← criterion n 2)
  | "-name" => return .fits false false (← valueOf word)
  | "-iname" => return .fits false true (← valueOf word)
  | "-path" | "-wholename" => return .fits true false (← valueOf word)
  | "-ipath" | "-iwholename" => return .fits true true (← valueOf word)
  | "-type" =>
    let value ← valueOf word
    let letters := (value.splitOn ",").flatMap String.toList
    match letters.find? fun c => !"fdlcbps".contains c with
    | some c => throw s!"Unknown argument to -type: {c}"
    | none => return .kind letters
  | "-empty" => return .isEmpty
  | "-size" =>
    let value ← valueOf word
    match sizeBound? value with
    | some (unit, bound) => return .size unit bound
    | none => throw s!"invalid -size type \x60{value}'"
  | "-perm" =>
    let value ← valueOf word
    match Text.natural? 8 value.toList with
    | some bits => return .mode bits
    | none => return .constant true
  | "-true" => return .constant true
  | "-false" => return .constant false
  | "-print" => return .print "\n"
  | "-print0" => return .print "\x00"
  | "-printf" => return .format (← valueOf word)
  | "-ls" => return .print "\n"
  | "-exec" | "-execdir" => commandWords word
  | "-delete" => return .delete
  | "-prune" => return .prune
  | "-quit" => return .quit
  | "-maxdepth" =>
    let n ← level word
    modify fun s => { s with deepest := some n }
    return .constant true
  | "-mindepth" =>
    let n ← level word
    modify fun s => { s with first := n }
    return .constant true
  | "-depth" | "-d" =>
    modify fun s => { s with isDeepFirst := true }
    return .constant true
  | "-xdev" | "-mount" | "-follow" | "-daystart" | "-noleaf" => return .constant true
  | "-user" | "-group" | "-newer" | "-mtime" | "-mmin" | "-atime" | "-ctime" | "-cmin"
  | "-amin" | "-links" | "-uid" | "-gid" =>
    let _ ← valueOf word
    return .constant true
  | _ =>
    if word.startsWith "-" then throw s!"unknown predicate \x60{word}'"
    else throw s!"paths must precede expression: \x60{word}'"

end

/-- The criterion of some arguments, with what is said about the whole search. -/
def readSearch (args : List String) : Except String (Criterion × Search) := do
  if args.isEmpty then return (.print "\n", { rest := [] })
  let (c, s) ← (criterion (4 * args.length + 8) 0).run { rest := args }
  match s.rest with
  | [] =>
    let c := if c.acts then c else .both c (.print "\n")
    return (c, { s with isDeepFirst := s.isDeepFirst || c.deletes })
  | ")" :: _ => throw "invalid expression; you have too many ')'"
  | word :: _ => throw s!"paths must precede expression: \x60{word}'"

/-! ### Walking -/

/-- How far a search has come. -/
structure Hunt where
  /-- The process. -/
  pid : Nat
  /-- The name under which is complained. -/
  own : String
  /-- The variables that programs see. -/
  environment : Environment
  /-- The exit code. -/
  code : Nat := 0
  /-- Whether it has ended. -/
  isOver : Bool := false
  /-- Whether what is in the present directory is left out. -/
  isPruned : Bool := false
  /-- The programs that are run for all together, with what they are run for. -/
  gathered : List (List String × List String) := []

/-- Something that is found: its path as it is told and its absolute path, and its level. -/
structure Find where
  /-- The path. -/
  name : String
  /-- The absolute path. -/
  path : String
  /-- The level below the path where the search began. -/
  level : Nat
  /-- The path where the search began. -/
  top : String

/-- The letter of the kind of a node. -/
def kindLetter : Node → Char
  | .directory => 'd'
  | .file .. | .program _ => 'f'
  | .device _ => 'c'
  | .link _ => 'l'

/-- A format with what it asks for about something. -/
def Find.fill (f : Find) (node : Node) : List Char → String
  | '%' :: c :: rest =>
    let value := match c with
      | 'p' => f.name
      | 'f' => Utility.baseName f.name
      | 'h' => Utility.directoryName f.name
      | 'P' => String.ofList ((f.name.toList.drop f.top.length).dropWhile (· == '/'))
      | 'd' => toString f.level
      | 's' => toString (Utility.sizeOf_ node)
      | 'y' => String.ofList [kindLetter node]
      | 'm' => Text.Permission.octal 1 (Utility.accessOf node).1
      | 'l' => match node with
        | .link target => target
        | _ => ""
      | 'u' | 'g' => "root"
      | '%' => "%"
      | c => "%" ++ String.ofList [c]
    value ++ f.fill node rest
  | c :: rest => String.ofList [c] ++ f.fill node rest
  | [] => ""

/-- Puts out a text. -/
def put (text : String) : Work Hunt Unit := do
  let h ← Work.get
  Work.update fun m => m.write h.pid 1 text

/-- Complains. -/
def grumble (text : String) : Work Hunt Unit := do
  let h ← Work.get
  Work.update fun m => m.write h.pid 2 s!"{h.own}: {text}\n"
  Work.modify fun h => { h with code := 1 }

/-- Runs a program and waits for it; tells whether it succeeded. -/
def runWords (execute : Execute) (words : List String) : Work Hunt Bool := do
  let h ← Work.get
  let complaint (fault : PathFault) : String :=
    let shown := Name.quoted (words.headD "")
    s!"{h.own}: {shown}: {fault.text}"
  let child ← Work.fork fun _ pid => becomeOr execute complaint (imageOf h.environment words) pid
  let ending ← Work.wait child false
  return ending == some (.exited 0)

/-- Whether a text fits a pattern. -/
def fitsPattern (folds : Bool) (pattern text : String) : Bool :=
  let fold (s : String) : List Char := if folds then s.toList.map Char.toLower else s.toList
  Shell.Pattern.fits (Shell.Pattern.atoms ((fold pattern).map (·, false))) (fold text)

/-- Works out a criterion for something. -/
def Criterion.holds (execute : Execute) (f : Find) (node : Node) : Criterion → Work Hunt Bool
  | .constant holds => return holds
  | .fits ofPath folds pattern =>
    return fitsPattern folds pattern (if ofPath then f.name else Utility.baseName f.name)
  | .kind letters => return letters.contains (kindLetter node)
  | .isEmpty => do
    match node with
    | .directory => Work.look fun m => (m.files.names f.path).isEmpty
    | .file text _ => return text = ""
    | _ => return false
  | .size unit bound =>
    let size := Utility.sizeOf_ node
    return bound.admits ((size + unit - 1) / unit)
  | .mode bits => return (Utility.accessOf node).1 = bits
  | .print ending => do
    put (f.name ++ ending)
    return true
  | .format text => do
    put (f.fill node (Text.Escape.resolve text).1.toList)
    return true
  | .run words => runWords execute (words.map fun w => f.name.intercalate (w.splitOn "\x7b\x7d"))
  | .gather words => do
    Work.modify fun h =>
      let before := (h.gathered.lookup words).getD []
      { h with gathered := h.gathered.filter (·.1 != words) ++ [(words, before ++ [f.name])] }
    return true
  | .delete => do
    let isFull ← Work.look fun m => node == .directory && !(m.files.names f.path).isEmpty
    if isFull then
      let shown := Name.quoted f.name
      grumble s!"cannot delete {shown}: {PathFault.notEmpty.text}"
      return false
    if f.name ≠ "." then Work.update fun m => { m with files := m.files.erase f.path }
    return true
  | .prune => do
    Work.modify fun h => { h with isPruned := true }
    return true
  | .quit => do
    Work.modify fun h => { h with isOver := true }
    return true
  | .negation c => return !(← c.holds execute f node)
  | .both a b => do if ← a.holds execute f node then b.holds execute f node else return false
  | .either a b => do if ← a.holds execute f node then return true else b.holds execute f node

/-- Works out a criterion for something and for all that is in it, down to so many levels. -/
def visit (execute : Execute) (s : Search) (c : Criterion) : Nat → Find → Work Hunt Unit
  | 0, _ => return
  | n + 1, f => do
    match ← Work.look fun m => m.files.node? f.path with
    | none => return
    | some node =>
      let test : Work Hunt Unit := do
        if s.first ≤ f.level && !(← Work.get).isOver then
          let _ ← c.holds execute f node
      Work.modify fun h => { h with isPruned := false }
      if !s.isDeepFirst then test
      let h ← Work.get
      if node == .directory && !h.isPruned && s.deepest.all (f.level < ·) then
        for name in ← Work.look fun m => m.files.names f.path do
          if !(← Work.get).isOver then
            visit execute s c n
              { f with name := Utility.below f.name name, path := FileTree.child f.path name
                       level := f.level + 1 }
      if s.isDeepFirst then test

/-- The number of levels down to which is searched. -/
def searchDepth : Nat :=
  1000

/-- Searches below some paths. -/
def search (execute : Execute) (s : Search) (c : Criterion) (names : List String) :
    Work Hunt Nat := do
  for name in names do
    let h ← Work.get
    let result ← Work.look fun m => do
      let path ← m.files.entry (m.directoryOf h.pid) name
      if (m.files.node? path).isNone then throw PathFault.missing
      return path
    match (result : Except PathFault String) with
    | .ok path => visit execute s c searchDepth ⟨name, path, 0, name⟩
    | .error fault => do
      let shown := Name.quoted name
      grumble s!"{shown}: {fault.text}"
  for (words, found) in (← Work.get).gathered do
    if !(← runWords execute (words ++ found)) then Work.modify fun h => { h with code := 1 }
  return (← Work.get).code

/-- Finds files. -/
def find (execute : Execute) (image : Image) (pid : Nat) : Thread :=
  let args := image.args.dropWhile fun arg => ["-H", "-L", "-P"].contains arg
  let isPath (arg : String) : Bool :=
    !(arg.startsWith "-" && arg ≠ "-") && arg ≠ "(" && arg ≠ "!"
  let names := args.takeWhile isPath
  match readSearch (args.drop names.length) with
  | .error text => .act fun m => (m.write pid 2 s!"{image.program}: {text}\n", .exit 1)
  | .ok (c, s) =>
    Work.thread (search execute s c (if names.isEmpty then ["."] else names))
      { pid, own := image.program, environment := image.environment }

end ServiceHarness.Program
