import ServiceHarness.Machine.Shell.Builtin

/-!
# Running scripts

`Shell.thread` is what a process does that has become a shell.  Scripts hold further ones, so
`runScript` is given an `Evaluator` for those within it; `evaluator n` serves what is nested no
deeper than `n`.
-/

namespace ServiceHarness.Shell

/-- Whether the shell is on its way out of something. -/
def isUnwinding : ShellM Bool := do
  return (← Work.get).unwinding != .none

/-- Exits if the last command failed and that is to end the shell. -/
def checkFailure (e : Evaluator) (tested : Bool) : ShellM Unit := do
  let s ← Work.get
  if !tested && s.has 'e' && s.status != 0 && s.unwinding = .none then finish e

/-! ### Redirections -/

/-- Opens a file for a stream; tells whether that was possible. -/
def openFor (number : Nat) (how : Machine.Opening) (target : String) : ShellM Bool := do
  let result ← actAs fun pid m =>
    match m.openPath pid target how with
    | .ok (stream, m) => (.ok stream, m)
    | .error fault => (.error fault, m)
  match (result : Except PathFault Stream) with
  | .ok stream =>
    setStream number (some stream)
    return true
  | .error fault =>
    let isRead := how = .read
    let isAbsent := fault = .missing ∨ fault = .notDirectory
    let reason := if !isAbsent then fault.text
      else if isRead then "No such file" else "Directory nonexistent"
    let what := if isRead then "open" else "create"
    complain s!"cannot {what} {target}: {reason}"
    return false

/-- Makes a redirection; tells whether that was possible. -/
def redirect (e : Evaluator) (r : Redirect) : ShellM Bool := do
  let (number, kind, word) := r
  let target ← text e word
  match kind with
  | .input => openFor number .read target
  | .output => openFor number (if (← Work.get).has 'C' then .create else .write) target
  | .force => openFor number .write target
  | .append => openFor number .append target
  | .both => openFor number .update target
  | .text =>
    let stream ← Work.act fun m =>
      let (id, m) := m.newPipe
      (Stream.pipe id, m.fill id target)
    setStream number (some stream)
    return true
  | .duplicate =>
    match target.toList with
    | ['-'] =>
      setStream number none
      return true
    | [c] =>
      if !c.isDigit then e.refuse "Syntax error: Bad fd number"
      match ← actAs fun pid m => (m.stream? pid (c.toNat - '0'.toNat), m) with
      | some stream =>
        setStream number (some stream)
        return true
      | none =>
        complain s!"{target}: {PathFault.closed.text}"
        return false
    | _ => e.refuse "Syntax error: Bad fd number"

/-- Makes redirections up to the first that is not possible. -/
def redirectAll (e : Evaluator) : List Redirect → ShellM Bool
  | [] => pure true
  | r :: rest => do
    if ← redirect e r then redirectAll e rest else return false

/-- Does something with redirected streams, after which they are as before.  A redirection that is
not possible ends the shell where that is asked for. -/
def withRedirects (e : Evaluator) (isFatal : Bool) (rs : List Redirect) (body : ShellM Unit) :
    ShellM Unit := do
  if rs.isEmpty then body
  else
    let before ← actAs fun pid m => (((m.process? pid).map Process.streams).getD [], m)
    Work.modify fun s => { s with keepsStreams := false }
    if ← redirectAll e rs then body
    else
      setStatus 2
      if isFatal then finish e
    let s ← Work.get
    if !s.keepsStreams then
      actAs fun pid m => ((), m.change pid fun p => { p with streams := before })
    Work.modify fun s => { s with keepsStreams := false }

/-! ### Simple commands -/

/-- A simple command with its words expanded. -/
structure Call where
  /-- The variables that get values. -/
  assignments : List (String × Word)
  /-- The redirections. -/
  redirects : List Redirect
  /-- The fields of the words. -/
  fields : List String
  /-- Where the errors went before the redirections. -/
  errors : Option Stream

/-- Gives variables the values of words, and tells these. -/
def assignAll (e : Evaluator) (exports : Bool) :
    List (String × Word) → ShellM (List String)
  | [] => return []
  | (name, word) :: rest => do
    let value ← textOf e true word
    assignTo e name value
    if exports then Work.modify fun s => s.export_ name
    return (name ++ "=" ++ value) :: (← assignAll e exports rest)

/-- Tells a command before it is run, if that is asked for. -/
def trace (c : Call) (assigned : List String) : ShellM Unit := do
  let s ← Work.get
  if s.has 'x' then
    let line := (s.lookup? "PS4").getD "" ++ " ".intercalate (assigned ++ c.fields) ++ "\n"
    match c.errors with
    | some stream => Work.update fun m => m.put stream line
    | none => pure ()

/-- Gives variables their values and tells the command. -/
def prepare (e : Evaluator) (c : Call) (exports : Bool) : ShellM Unit := do
  trace c (← assignAll e exports c.assignments)

/-- Does something with assignments that hold no longer than that. -/
def withAssignments (e : Evaluator) (c : Call) (body : ShellM Unit) : ShellM Unit := do
  let before ← Work.get
  prepare e c true
  body
  Work.modify fun s =>
    { s with bindings := (c.assignments.map (·.1)).foldl
               (fun vs name => restored vs name (before.bindings.get? name)) s.bindings }

/-- Carries out a builtin under its name.  A fault ends the shell where that is asked for, and else
the builtin. -/
def carryOut (e : Evaluator) (isFatal : Bool) (name : String) (body : Evaluator → ShellM Unit) :
    ShellM Unit := do
  let before ← Work.get
  Work.modify fun s => { s with builtin := some name, hasLostOutput := false }
  if isFatal then body e
  else Work.catching fun leave => body { e with fail := fun text => do
      complain text
      setStatus 2
      leave () }
  if (← Work.get).hasLostOutput then
    complain s!"{name}: I/O error"
    setStatus 1
  Work.modify fun s =>
    { s with builtin := before.builtin, hasLostOutput := before.hasLostOutput }

/-- The file that a program of a name is, for a shell. -/
def search (s : Shell) (m : Machine) (name : String) : Except PathFault (String × Node) :=
  if name = "" ∧ ((s.lookup? "PATH").getD "" ≠ "") then .error .denied
  else Image.search m s.pid ⟨name, [], s.environment.insert "PATH" ((s.lookup? "PATH").getD ""), true⟩

/-- How it is told that a program cannot be run. -/
def programFault (name : String) (fault : PathFault) : String :=
  if fault = .missing ∨ fault = .notDirectory then s!"{name}: not found" else s!"{name}: {fault.text}"

/-- The status after a program could not be run. -/
def faultStatus : PathFault → Nat
  | .missing | .notDirectory | .tooManyLinks | .nameTooLong => 127
  | _ => 126

/-- Becomes a program. -/
def becomeProgram (execute : Execute) (e : Evaluator) (name : String) (args : List String) :
    ShellM Unit := do
  let s ← Work.get
  let result ← actAs fun pid m => (execute ⟨name, args, s.environment, true⟩ pid m, m)
  match (result : Except PathFault Thread) with
  | .ok thread => Work.become fun _ => thread
  | .error fault =>
    complain (programFault name fault)
    setStatus (faultStatus fault)
    Work.modify fun s => { s with builtin := none }
    finish e

/-- Waits for a process and takes over its status. -/
def waitFor (pid : Nat) : ShellM Unit := do
  let ending ← Work.wait pid false
  tellEnding ending
  setStatus ((ending.map Ending.status).getD 0)

/-- Runs a function. -/
def call (e : Evaluator) (place : Place) (body : Script) (args : List String) : ShellM Unit := do
  let before ← Work.get
  Work.modify fun s =>
    { s with parameters := args, loops := 0, locals := [], localOptions := none
             calls := s.calls + 1, optionPlace := {} }
  e.run place.inner body
  Work.modify fun s =>
    { s with parameters := before.parameters, loops := before.loops, locals := before.locals
             localOptions := before.localOptions, calls := before.calls
             optionPlace := before.optionPlace
             options := s.localOptions.getD s.options
             bindings := s.locals.foldl (fun vs l => restored vs l.1 l.2) s.bindings
             unwinding := if s.unwinding = .returning then .none else s.unwinding }

/-- The path of the script that a name stands for: the name itself, or a file in one of the
directories of programs. -/
def sourcePath? (s : Shell) (m : Machine) (name : String) : Option String :=
  if name.toList.contains '/' then some name
  else
    let directories := ((s.lookup? "PATH").getD "").splitOn ":"
    let paths := directories.map fun d => if d = "" then name else FileTree.child d name
    paths.find? fun path => match m.files.lookup (m.directoryOf s.pid) path with
      | .ok (.file ..) | .ok (.program _) => true
      | _ => false

/-- Runs the file that a name stands for in the shell itself. -/
def source (e : Evaluator) (args : List String) : ShellM Unit := do
  let (_, args) ← takeOptions e "" args
  match args with
  | [] => setStatus 0
  | name :: _ =>
    let s ← Work.get
    match ← actAs fun _ m => (sourcePath? s m name, m) with
    | none => e.refuse s!"{name}: not found"
    | some path =>
      let contents ← actAs fun pid m => (m.files.read (m.directoryOf pid) path, m)
      match (contents : Except PathFault String) with
      | .ok contents =>
        Work.modify fun s => { s with builtin := some path }
        evaluate e false contents
        Work.modify fun s =>
          { s with builtin := some "."
                   unwinding := if s.unwinding = .returning then .none else s.unwinding }
      | .error _ => e.refuse s!"cannot open {path}: No such file"

/-- What a name stands for, if it is that of a command: with some words or as it could be
written. -/
def describe (e : Evaluator) (verbose : Bool) (s : Shell) (m : Machine) (name : String) :
    Option String :=
  if keywords.contains name then some (if verbose then s!"{name} is a shell keyword" else name)
  else match s.aliases.get? name with
  | some text =>
    some (if verbose then s!"{name} is an alias for {text}" else s!"alias {name}={inQuotes text}")
  | none =>
    if specialBuiltins.contains name then
      some (if verbose then s!"{name} is a special shell builtin" else name)
    else if (s.functions.get? name).isSome then
      some (if verbose then s!"{name} is a shell function" else name)
    else if isBuiltin e name then
      some (if verbose then s!"{name} is a shell builtin" else name)
    else match search s m name with
      | .ok (path, _) =>
        let manner := if s.remembered.contains name then "a tracked alias for " else ""
        some (if verbose then s!"{name} is {manner}{path}" else path)
      | .error _ => none

/-- Tells what names stand for. -/
def describeAll (e : Evaluator) (verbose : Bool) (names : List String) : ShellM Unit := do
  setStatus 0
  for name in names do
    let s ← Work.get
    match ← actAs fun _ m => (describe e verbose s m name, m) with
    | some text =>
      say (text ++ "\n")
      if !name.toList.contains '/' && text.endsWith ("/" ++ name) then
        Work.modify fun s => { s with remembered := name :: s.remembered }
    | none =>
      if verbose then say s!"{name}: not found\n"
      setStatus 127

/-- Runs a program in a process of its own, or in that of the shell where this does nothing else. -/
def runProgram (execute : Execute) (e : Evaluator) (place : Place) (c : Call) (name : String)
    (args : List String) : ShellM Unit :=
  withRedirects e false c.redirects do
    let s ← Work.get
    let isPath := name.toList.contains '/'
    let found ← actAs fun _ m => (search s m name, m)
    match (found : Except PathFault (String × Node)) with
    | .error fault =>
      if isPath then withAssignments e c do
        complain (programFault name fault)
        setStatus (faultStatus fault)
      else
        prepare e { c with assignments := [] } true
        complain (programFault name fault)
        setStatus 127
    | .ok _ =>
      if !isPath && !s.remembered.contains name then
        Work.modify fun s => { s with remembered := name :: s.remembered }
      withAssignments e c do
        if place.last && !s.hasTraps then becomeProgram execute e name args
        else waitFor (← forkTo e (becomeProgram execute e name args))

/-- Runs a builtin that runs other commands. -/
def runRunner (execute : Execute) (e : Evaluator) (place : Place) (name : String)
    (args : List String) : ShellM Unit := do
  match name with
  | "eval" => evaluate e place.tested (" ".intercalate args)
  | "." => source e args
  | "exec" =>
    match args with
    | [] => setStatus 0
    | program :: args => becomeProgram execute e program args
    Work.modify fun s => { s with keepsStreams := true }
  | "type" => describeAll e true args
  | _ =>
    let (letters, names) ← takeOptions e "pvV" args
    if letters.any (·.1 != 'p') then
      describeAll e (letters.any (·.1 == 'V')) (names.take 1)
    else setStatus 0

/-- Runs a builtin, which may be one of those whose assignments stay and whose faults end the
shell. -/
def runBuiltin (execute : Execute) (e : Evaluator) (place : Place) (isSpecial : Bool) (c : Call)
    (name : String) (args : List String) : ShellM Unit :=
  withRedirects e isSpecial c.redirects do
    let body := carryOut e isSpecial name fun e =>
      (builtin? e name args).getD (runRunner execute e place name args)
    if isSpecial then
      prepare e c false
      body
    else withAssignments e c body

/-- The command that follows the word that asks for builtins and programs only. -/
def afterCommand : List String → Option (List String)
  | "-p" :: rest => afterCommand rest
  | "--" :: rest => if rest.isEmpty then none else some rest
  | name :: rest => if name.startsWith "-" ∧ name ≠ "-" then none else some (name :: rest)
  | [] => none

/-- Runs a command that is no function. -/
def runOther (execute : Execute) (e : Evaluator) (place : Place) (c : Call) :
    Nat → List String → ShellM Unit
  | n + 1, name :: args => do
    match if name = "command" then afterCommand args else none with
    | some words => runOther execute e place c n words
    | none =>
      if isBuiltin e name then runBuiltin execute e place false c name args
      else runProgram execute e place c name args
  | _, _ => setStatus 0

/-- Runs a simple command whose words have been expanded. -/
def runCall (execute : Execute) (e : Evaluator) (place : Place) (c : Call) : ShellM Unit := do
  match c.fields with
  | [] =>
    withRedirects e false c.redirects do
      prepare e c false
      let s ← Work.get
      setStatus (s.substituted.getD 0)
  | name :: args =>
    if specialBuiltins.contains name then runBuiltin execute e place true c name args
    else match (← Work.get).functions.get? name with
    | some body =>
      withRedirects e false c.redirects (withAssignments e c (call e place body args))
    | none => runOther execute e place c c.fields.length c.fields

/-- The builtins whose arguments may be assignments. -/
def declarers : List String :=
  ["export", "readonly", "local"]

/-- The fields of the words of a simple command.  After a builtin that declares variables, an
assignment is one field. -/
def callFields (e : Evaluator) : List String → List Word → ShellM (List String)
  | _, [] => return []
  | before, w :: rest => do
    let declares := (before.find? (· != "command")).any declarers.contains
    let found ← match if declares then Grammar.assignment? w else none with
      | some (name, value) => do
        let value ← textOf e true value
        pure [name ++ "=" ++ value]
      | none => words e [w]
    return found ++ (← callFields e (before ++ found) rest)

/-- Runs a simple command. -/
def runSimple (execute : Execute) (e : Evaluator) (place : Place) (line : Nat)
    (assignments : List (String × Word)) (ws : List Word) (rs : List Redirect) :
    ShellM Unit := do
  onLine line
  Work.modify fun s => { s with substituted := none }
  let fields ← callFields e [] ws
  let errors ← actAs fun pid m => (m.stream? pid 2, m)
  runCall execute e place ⟨assignments, rs, fields, errors⟩
  dealWithSignals e
  checkFailure e place.tested

/-! ### Commands that are made of others -/

/-- Runs commands one after the other until the shell is on its way out of something. -/
def runAll (e : Evaluator) (place : Place) : List Script → ShellM Unit
  | [] => pure ()
  | [c] => e.run place c
  | c :: rest => do
    e.run place.inner c
    if !(← isUnwinding) then runAll e place rest

/-- Runs commands of which each reads what the one before it puts out. -/
def runPipeline (e : Evaluator) (place : Place) (source : Option Nat) : List Script → ShellM Unit
  | [] => pure ()
  | c :: rest => do
    let pipe ← if rest.isEmpty then pure none else some <$> Work.act Machine.newPipe
    let child ← forkTo e do
      match source with
      | some id => setStream 0 (some (.pipe id))
      | none => pure ()
      match pipe with
      | some id => setStream 1 (some (.pipe id))
      | none => pure ()
      e.run { place with last := true } c
    waitFor child
    runPipeline e place pipe rest

/-- Runs a command that is not waited for.  It ignores the signals of the keyboard and reads
nothing. -/
def runBackground (e : Evaluator) (c : Script) : ShellM Unit := do
  let child ← forkTo e do
    actAs fun pid m =>
      ((), m.change pid fun p => { p with ignored := Signal.interrupt :: Signal.quit :: p.ignored })
    setStream 0 (some (.device .null))
    e.run .whole c
  Work.modify fun s => { s.addJob child with status := 0 }

/-- The first branch whose condition succeeds, or what is done otherwise. -/
def runConditional (e : Evaluator) (place : Place) (otherwise : Option Script) :
    List (Script × Script) → ShellM Unit
  | [] =>
    match otherwise with
    | some c => e.run place c
    | none => setStatus 0
  | (condition, body) :: rest => do
    e.run .test condition
    let s ← Work.get
    if s.unwinding != .none then return
    if s.status = 0 then e.run place body else runConditional e place otherwise rest

/-- What becomes of a loop after its body: whether it goes on. -/
def afterBody : ShellM Bool := do
  let s ← Work.get
  let (unwinding, goesOn) : Unwinding × Bool := match s.unwinding with
    | .none => (.none, true)
    | .leaving n => (if n ≤ 1 then .none else .leaving (n - 1), false)
    | .continuing n => if n ≤ 1 then (.none, true) else (.continuing (n - 1), false)
    | .returning => (.returning, false)
  Work.modify fun s => { s with unwinding }
  return goesOn

/-- Runs a body while, or until, a condition succeeds, but no more than so often. -/
def runLoop (e : Evaluator) (place : Place) (until_ : Bool) (condition body : Script) (status : Nat) :
    Nat → ShellM Unit
  | 0 => setStatus status
  | n + 1 => do
    e.run .test condition
    let s ← Work.get
    if s.unwinding != .none then
      if ← afterBody then runLoop e place until_ condition body status n
    else if (s.status = 0) = until_ then setStatus status
    else
      e.run place.inner body
      let s ← Work.get
      if ← afterBody then runLoop e place until_ condition body s.status n

/-- The number of times after which a loop is given up. -/
def loopLimit : Nat :=
  1000000

/-- Runs a body once for each value of a variable. -/
def runEach (e : Evaluator) (place : Place) (name : String) (body : Script) :
    List String → ShellM Unit
  | [] => pure ()
  | value :: rest => do
    assignTo e name value
    e.run place.inner body
    if ← afterBody then runEach e place name body rest

/-- Whether one of the patterns fits. -/
def fitsAny (e : Evaluator) (subject : String) : List Word → ShellM Bool
  | [] => pure false
  | p :: rest => do
    if Pattern.fits (← pattern e p) subject.toList then return true
    fitsAny e subject rest

/-- Runs the first branch of whose patterns one fits. -/
def runChoice (e : Evaluator) (place : Place) (subject : String) :
    List (List Word × Script) → ShellM Unit
  | [] => setStatus 0
  | (patterns, body) :: rest => do
    if ← fitsAny e subject patterns then
      match body with
      | .sequence [] => setStatus 0
      | body => e.run place body
    else runChoice e place subject rest

/-- Does something within one more loop. -/
def inLoop (body : ShellM Unit) : ShellM Unit := do
  Work.modify fun s => { s with loops := s.loops + 1 }
  body
  Work.modify fun s => { s with loops := s.loops - 1 }

/-- Runs a script whose options let it be run. -/
def runAllowed (execute : Execute) (e : Evaluator) (place : Place) : Script → ShellM Unit
  | .simple line assignments ws rs => runSimple execute e place line assignments ws rs
  | .redirected line c rs => do
    onLine line
    withRedirects e false rs (e.run place.inner c)
    checkFailure e place.tested
  | .sequence cs => runAll e place cs
  | .pipeline cs => do
    runPipeline e place none cs
    dealWithSignals e
    checkFailure e place.tested
  | .negated c => do
    e.run .test c
    Work.modify fun s => { s with status := if s.status = 0 then 1 else 0 }
  | .both first second => do
    e.run .test first
    let s ← Work.get
    if s.status = 0 ∧ s.unwinding = .none then e.run place second
  | .either first second => do
    e.run .test first
    let s ← Work.get
    if s.status ≠ 0 ∧ s.unwinding = .none then e.run place second
  | .background c => runBackground e c
  | .subshell c => do
    if place.last && !(← Work.get).hasTraps then
      e.run place c
      finish e
    else
      let child ← forkTo e (e.run { place with last := true } c)
      waitFor child
      dealWithSignals e
      checkFailure e place.tested
  | .conditional branches otherwise => runConditional e place otherwise branches
  | .loop until_ condition body =>
    inLoop (runLoop e place until_ condition body 0 loopLimit)
  | .each line name ws body => do
    onLine line
    let values ← match ws with
      | some ws => words e ws
      | none => Shell.parameters <$> Work.get
    if values.isEmpty then setStatus 0
    inLoop (runEach e place name body values)
  | .choice line subject branches => do
    onLine line
    runChoice e place (← text e subject) branches
  | .define name body => do
    Work.modify fun s => { s with functions := s.functions.insert name body }
    setStatus 0

/-- Runs a script. -/
def runScript (execute : Execute) (e : Evaluator) (place : Place) (c : Script) : ShellM Unit := do
  if !(← Work.get).has 'n' then runAllowed execute e place c

/-- The evaluator for what is nested no deeper than `n`. -/
def evaluator (execute : Execute) : Nat → Evaluator
  | 0 => ⟨fun _ _ => Work.exit 2, fun _ _ => Work.exit 2, fun _ => Work.exit 2⟩
  | n + 1 =>
    let inner := evaluator execute n
    ⟨runScript execute inner, expandWord inner, abort inner⟩

/-- The depth of nesting up to which scripts are run. -/
def depthLimit : Nat :=
  1000

/-! ### Becoming a shell -/

/-- What a shell is told to run. -/
inductive Source where
  /-- A text. -/
  | command (text : String)
  /-- A file. -/
  | file (path : String)
  /-- What it reads. -/
  | input
  /-- Nothing, for a reason. -/
  | refused (reason : String)
  deriving DecidableEq, Repr

/-- What the arguments tell a shell. -/
structure Orders where
  /-- The letters of the options that are on. -/
  letters : List Char := []
  /-- Whether it runs a text. -/
  isCommand : Bool := false
  /-- Whether it runs what it reads. -/
  isInput : Bool := false

/-- The orders after the letters of one argument, and the arguments after those that belong to
them. -/
def readLetters (on : Bool) :
    List Char → List String → Orders → Except String (Orders × List String)
  | [], rest, o => .ok (o, rest)
  | 'c' :: letters, rest, o => readLetters on letters rest { o with isCommand := true }
  | 'o' :: letters, name :: rest, o =>
    match optionNames.find? fun n => n.2 == name with
    | some (letter, _) =>
      let others := o.letters.filter (· != letter)
      readLetters on letters rest { o with letters := if on then letter :: others else others }
    | none => .error s!"Illegal option -o {name}"
  | 'o' :: letters, [], o => readLetters on letters [] o
  | c :: letters, rest, o =>
    if (optionNames.lookup c).isNone then .error s!"Illegal option -{c}"
    else
      let others := o.letters.filter (· != c)
      readLetters on letters rest
        { o with letters := if on then c :: others else others, isInput := o.isInput || c == 's' }

/-- The orders that the arguments give a shell after some, and the other arguments; there are at
most so many. -/
def readOrders : Nat → List String → Orders → Except String (Orders × List String)
  | n + 1, arg :: rest, o =>
    match arg.toList with
    | ['-'] | ['-', '-'] => .ok (o, rest)
    | '-' :: letters => do
      let (o, rest) ← readLetters true letters rest o
      readOrders n rest o
    | '+' :: letters => do
      let (o, rest) ← readLetters false letters rest o
      readOrders n rest o
    | _ => .ok (o, arg :: rest)
  | _, args, o => .ok (o, args)

/-- What the arguments tell a shell: the letters of the options, the name, the source and the
parameters. -/
def readArgs (program : String) (args : List String) :
    List Char × String × Source × List String :=
  match readOrders args.length args {} with
  | .error reason => ([], program, .refused reason, [])
  | .ok (o, rest) =>
    if o.isCommand then
      match rest with
      | text :: name :: parameters => (o.letters, name, .command text, parameters)
      | [text] => (o.letters, program, .command text, [])
      | [] => ([], program, .refused "-c requires an argument", [])
    else match rest with
      | path :: parameters =>
        if o.isInput then (o.letters, program, .input, rest)
        else (o.letters, path, .file path, parameters)
      | [] => ('s' :: o.letters.filter (· != 's'), program, .input, [])

/-- The variables that a shell has of its own. -/
def ownVariables (p : Process) : List (String × String) :=
  [("IFS", " \t\n"), ("OPTIND", "1"), ("PS1", "# "), ("PS2", "> "), ("PS4", "+ "),
    ("PPID", toString p.parent)]

/-- The state in which a shell begins. -/
def initial (image : Image) (letters : List Char) (name : String) (parameters : List String)
    (pid : Nat) (p : Process) : Shell :=
  let seen := image.environment.entries.filter fun e => isName e.1
  let bindings := seen.foldl
    (fun vs e => vs.insert e.1 ({ value := some e.2, exported := true } : Variable))
    (KeyMap.empty : KeyMap Variable)
  let s : Shell :=
    { pid, mainPid := pid, name, parameters, bindings, untouchable := p.ignored
      directory := p.directory }
  let s := (ownVariables p).foldl (fun s v => s.assign v.1 v.2) s
  let s := if (s.lookup? "PATH").isNone then s.assign "PATH" Image.ownPath else s
  let s := (s.assign "PWD" p.directory).export_ "PWD"
  letters.reverse.foldl (setOption true) s

/-- Runs what the shell was told to run, and exits. -/
def runSource (e : Evaluator) (program : String) : Source → ShellM Unit
  | .command text => do
    evaluate e false text
    finish e
  | .file path => do
    let contents ← actAs fun pid m => (m.files.read (m.directoryOf pid) path, m)
    match (contents : Except PathFault String) with
    | .ok text =>
      evaluate e false text
      finish e
    | .error .isDirectory => Work.exit 0
    | .error fault => do
      let reason := if fault = .missing ∨ fault = .notDirectory then "No such file" else fault.text
      actAs fun pid m => ((), m.write pid 2 s!"{program}: 0: cannot open {path}: {reason}\n")
      Work.exit 2
  | .input => do
    let text ← actAs fun pid m => m.readAll pid
    evaluate e false (text.toOption.getD "")
    finish e
  | .refused reason => do
    actAs fun pid m => ((), m.write pid 2 s!"{program}: 0: {reason}\n")
    Work.exit 2

/-- What a process does that has become a shell. -/
def thread (execute : Execute) (image : Image) (pid : Nat) : Thread :=
  .act fun m =>
    match m.process? pid with
    | none => (m, .exit 0)
    | some p =>
      let (letters, name, source, parameters) := readArgs image.program image.args
      let e := evaluator execute depthLimit
      (m, Work.thread
        (do
          runSource e image.program source
          return 0)
        (initial image letters name parameters pid p))

end ServiceHarness.Shell
