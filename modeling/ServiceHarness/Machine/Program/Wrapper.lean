import ServiceHarness.Machine.Utility.Numbers

/-!
# Programs that become others

`env`, `nice`, `nohup` and `setsid` change something about their process and become the program that
their arguments name; `timeout` runs it and ends it after a time, and `sleep` only waits.
-/

namespace ServiceHarness

/-- What a program does that reads its arguments at once and then goes on as a thread. -/
def Task.thread (image : Image) (pid : Nat) (body : List String → Task Thread) : Thread :=
  .act fun m =>
    let occupation : Occupation := ⟨pid, image.program, image.environment⟩
    let (result, p) := (body image.args).run occupation |>.run |>.run { machine := m }
    match result with
    | .ok t => (p.machine, t)
    | .error code => (p.machine, .exit code)

namespace Program

/-- The code with which a program exits that cannot become another one. -/
def faultCode : PathFault → Nat
  | .missing => 127
  | _ => 126

/-- Becomes another program; where that is not possible it complains and exits. -/
def becomeOr (execute : Execute) (complaint : PathFault → String) (image : Image) (pid : Nat) :
    Thread :=
  .act fun m =>
    match execute image pid m with
    | .ok thread => (m, thread)
    | .error fault => (m.write pid 2 (complaint fault ++ "\n"), .exit (faultCode fault))

/-- The image that words name: a program and its arguments. -/
def imageOf (environment : Environment) : List String → Image
  | program :: args => ⟨program, args, environment, true⟩
  | [] => ⟨"", [], environment, true⟩

/-! ### Times -/

/-- The microseconds that stand for a time without end. -/
def endless : Nat :=
  Nat.pow 10 18

/-- The microseconds that a text writes, with a letter for the unit. -/
def micros? (text : String) : Option Nat := do
  let cs := text.toList
  if ["inf", "infinity"].contains (text.map Char.toLower) then return endless
  let (digits, unit) := match cs.getLast? with
    | some 's' => (cs.dropLast, 1)
    | some 'm' => (cs.dropLast, 60)
    | some 'h' => (cs.dropLast, 3600)
    | some 'd' => (cs.dropLast, 86400)
    | _ => (cs, 1)
  let digits := if digits.getLast? = some '.' then digits ++ ['0'] else digits
  let n ← Utility.numeral? (String.ofList digits)
  guard (0 ≤ n.value.units && digits.head? != some '-')
  let exponent := n.value.exponent + 6
  let whole := n.value.units.toNat * unit
  let micros :=
    if 0 ≤ exponent then whole * Nat.pow 10 exponent.toNat
    else
      let unit := Nat.pow 10 (-exponent).toNat
      (whole + unit - 1) / unit
  return min micros endless

/-- Sleeps. -/
def sleep (image : Image) (pid : Nat) : Thread :=
  Task.thread image pid fun args => do
  let o ← Task.options [] args
  let operands ← Task.someOperands o
  let times := operands.map fun text => (text, micros? text)
  let bad := (times.filter (·.2.isNone)).map (·.1)
  for text in bad do
    let shown := Name.quoted text
    Task.complain s!"invalid time interval {shown}"
  if !bad.isEmpty then
    let name := (← read).name
    Task.tell s!"Try '{name} --help' for more information."
    Task.quit 1
  return .sleep ((times.filterMap (·.2)).foldl (· + ·) 0) (.exit 0)

/-! ### Surroundings -/

/-- What `env` changes before it becomes a program. -/
structure Changes where
  /-- The variables that the program sees. -/
  entries : List (String × String)
  /-- The signals that are to be ignored, or not. -/
  signals : List (Nat × Bool) := []

/-- The changes with a variable that has a value, at its old place if it had one. -/
def Changes.assign (c : Changes) (name value : String) : Changes :=
  { c with entries :=
      if c.entries.any (·.1 == name) then
        c.entries.map fun e => if e.1 = name then (name, value) else e
      else c.entries ++ [(name, value)] }

/-- The changes of an option about signals; it may name them or mean all. -/
def Changes.signal (c : Changes) (ignores : Bool) (names : String) : Changes :=
  let numbers :=
    if names = "" then Signal.numbers.map (·.2)
    else (names.splitOn ",").filterMap Signal.ofText?
  { c with signals := c.signals ++ numbers.map (·, ignores) }

/-- The changes after an option. -/
def Changes.apply (c : Changes) (word : String) (value : Option String) : Changes :=
  match word with
  | "ignore-environment" => { c with entries := [] }
  | "unset" => { c with entries := c.entries.filter fun e => some e.1 != value }
  | "default-signal" => c.signal false (value.getD "")
  | "ignore-signal" => c.signal true (value.getD "")
  | _ => c

/-- The changes after the assignments at the front of some words, and the other words. -/
def Changes.assignAll : Changes → List String → Changes × List String
  | c, [] => (c, [])
  | c, word :: rest =>
    let name := word.toList.takeWhile (· != '=')
    if name.length < word.length then
      Changes.assignAll (c.assign (String.ofList name) (word.drop (name.length + 1)).toString) rest
    else (c, word :: rest)

/-- The words of a text, in which quotes and backslashes hold characters together; the word that has
been begun comes first, the last character in front. -/
def splitWords (quote : Option Char) : Option (List Char) → List Char → List String
  | word, [] => (word.map fun cs => String.ofList cs.reverse).toList
  | word, c :: rest =>
    let so := word.getD []
    match quote with
    | some q =>
      if c = q then splitWords none (some so) rest
      else splitWords quote (some (c :: so)) rest
    | none =>
      if c = '\'' || c = '"' then splitWords (some c) (some so) rest
      else if c = '\\' then
        match rest with
        | d :: rest => splitWords none (some (d :: so)) rest
        | [] => splitWords none (some so) []
      else if c.isWhitespace then
        (word.map fun cs => String.ofList cs.reverse).toList ++ splitWords none none rest
      else splitWords none (some (c :: so)) rest

/-- The arguments with the words of a text in the place of the option that holds it. -/
def withSplit : List String → List String
  | "-S" :: text :: rest => splitWords none none text.toList ++ rest
  | arg :: rest =>
    if arg.startsWith "-S" then splitWords none none (arg.drop 2).toString.toList ++ rest
    else if arg.startsWith "--split-string=" then
      splitWords none none (arg.drop 15).toString.toList ++ rest
    else if arg.startsWith "-" && arg ≠ "-" && arg ≠ "--" then arg :: withSplit rest
    else arg :: rest
  | [] => []

/-- Changes what a program sees and ignores and becomes it; without a program it puts out the
variables. -/
def env (execute : Execute) (image : Image) (pid : Nat) : Thread :=
  Task.thread image pid fun args => do
  let o ← Task.options
    [.plain 'i' "ignore-environment", .valued 'u' "unset", .plain '0' "null", .valued 'C' "chdir",
      .plain 'v' "debug", .long "default-signal" .optional, .long "ignore-signal" .optional,
      .long "block-signal" .optional, .long "list-signal-handling"] (withSplit args) 125 true
  let c : Changes := ⟨image.environment.entries, []⟩
  let c := o.given.foldl (fun c g => c.apply g.1 g.2) c
  let (c, words) := match o.operands with
    | "-" :: rest => Changes.assignAll (c.apply "ignore-environment" none) rest
    | words => c.assignAll words
  match o.value? "chdir" with
  | none => pure ()
  | some directory =>
    let result ← Task.look fun pid m => do
      let path ← m.files.resolve (m.directoryOf pid) directory
      match m.files.node? path with
      | some .directory => return path
      | some _ => throw .notDirectory
      | none => throw .missing
    match (result : Except PathFault String) with
    | .ok path => Task.update fun m => m.change pid fun p => { p with directory := path }
    | .error fault => do
      let shown := Name.quoted directory
      Task.fail s!"cannot change directory to {shown}: {fault.text}" 125
  if words.isEmpty then
    let ending := if o.has "null" then "\x00" else "\n"
    Task.say (String.join (c.entries.map fun e => e.1 ++ "=" ++ e.2 ++ ending))
    return .exit 0
  if o.has "null" then Task.refuse "cannot specify --null (-0) with command" 125
  let ignored (before : List Nat) : List Nat :=
    c.signals.foldl (fun l s => if s.2 then s.1 :: l else l.filter (· != s.1)) before
  Task.update fun m => m.change pid fun p => { p with ignored := ignored p.ignored }
  let own := image.program
  let complaint (fault : PathFault) : String :=
    let program := words.headD ""
    let shown := Name.quoted program
    let hint := if fault = .missing && program.toList.any Char.isWhitespace then
        s!"\n{own}: use -[v]S to pass options in shebang lines"
      else ""
    s!"{own}: {shown}: {fault.text}{hint}"
  return becomeOr execute complaint (imageOf (KeyMap.ofList c.entries) words) pid

/-- Puts out the values of the variables that the arguments name, and fails if one has none. -/
def printenv (image : Image) (pid : Nat) : Thread :=
  Task.thread image pid fun args => do
  let o ← Task.options [.plain '0' "null"] args 2 true
  let ending := if o.has "null" then "\x00" else "\n"
  if o.operands.isEmpty then
    for e in image.environment.entries do
      Task.say (e.1 ++ "=" ++ e.2 ++ ending)
  for name in o.operands do
    match image.environment.get? name with
    | some value => Task.say (value ++ ending)
    | none => Task.mark 1
  return .exit (← get).code

/-! ### Processes -/

/-- The arguments with a number behind a dash as the value of the switch that it stands for. -/
def withAdjustment : List String → List String
  | arg :: rest =>
    let body := match arg.toList with
      | '-' :: '-' :: cs => '-' :: cs
      | '-' :: '+' :: cs => cs
      | '-' :: cs => cs
      | _ => []
    let digits := if body.head? = some '-' then body.drop 1 else body
    if !digits.isEmpty && digits.all Char.isDigit then
      ("--adjustment=" ++ String.ofList body) :: withAdjustment rest
    else if arg = "-n" then
      match rest with
      | value :: rest => ("--adjustment=" ++ value) :: withAdjustment rest
      | [] => [arg]
    else if arg.startsWith "-" && arg ≠ "--" then arg :: withAdjustment rest
    else arg :: rest
  | [] => []

/-- Lets other processes go first, and becomes a program. -/
def nice (execute : Execute) (image : Image) (pid : Nat) : Thread :=
  Task.thread image pid fun args => do
  let o ← Task.options [.valued 'n' "adjustment"] (withAdjustment args) 125 true
  let adjustment ← match o.value? "adjustment" with
    | none => pure 10
    | some text =>
      match (Utility.numeral? text).filter fun n => n.value.exponent = 0 with
      | some n => pure n.value.units
      | none => do
        let shown := Name.quoted text
        Task.fail s!"invalid adjustment {shown}" 125
  if o.operands.isEmpty then
    if o.has "adjustment" then Task.refuse "a command must be given with an adjustment" 125
    let niceness ← Task.look fun pid m => ((m.process? pid).map Process.niceness).getD 0
    Task.say s!"{niceness}\n"
    return .exit 0
  Task.update fun m => m.change pid fun p =>
    { p with niceness := max (-20) (min 19 (p.niceness + adjustment)) }
  let own := image.program
  let complaint (fault : PathFault) : String :=
    let shown := Name.quoted (o.operands.headD "")
    s!"{own}: {shown}: {fault.text}"
  return becomeOr execute complaint (imageOf image.environment o.operands) pid

/-- What is told of a program that cannot be run. -/
def failedToRun (own program : String) (fault : PathFault) : String :=
  let shown := Name.quoted program
  s!"{own}: failed to run command {shown}: {fault.text}"

/-- Ignores that the operator leaves, and becomes a program. -/
def nohup (execute : Execute) (image : Image) (pid : Nat) : Thread :=
  Task.thread image pid fun args => do
  let o ← Task.options [] args 125 true
  let words ← Task.someOperands o 125
  Task.update fun m => m.change pid fun p => { p with ignored := 1 :: p.ignored }
  return becomeOr execute (failedToRun image.program (words.headD ""))
    (imageOf image.environment words) pid

/-- Becomes a program in a group of its own; a process that has a group of its own already begins
another one for that. -/
def setsid (execute : Execute) (image : Image) (pid : Nat) : Thread :=
  Task.thread image pid fun args => do
  let o ← Task.options [.plain 'c' "ctty", .plain 'f' "fork", .plain 'w' "wait"] args 1 true
  if o.operands.isEmpty then Task.refuse "no command specified"
  let own := image.program
  let complaint (fault : PathFault) : String :=
    let program := o.operands.headD ""
    s!"{own}: failed to execute {program}: {fault.text}"
  let begin_ (pid : Nat) : Thread := .act fun m =>
    (m.change pid fun p => { p with group := pid },
      becomeOr execute complaint (imageOf image.environment o.operands) pid)
  let isLeader ← Task.look fun pid m => (m.process? pid).any fun p => p.group = pid
  if !isLeader && !o.has "fork" then return begin_ pid
  return .fork begin_ fun child =>
    if o.has "wait" then .wait child false fun e => .exit ((e.map Ending.status).getD 0)
    else .exit 0

/-! ### Ending after a time -/

/-- What `timeout` has been told. -/
structure Watch where
  /-- The process of `timeout`. -/
  pid : Nat
  /-- The process that is watched. -/
  child : Nat
  /-- The words of the program. -/
  words : List String
  /-- The signal that ends it. -/
  signal : Nat
  /-- The microseconds after which it is killed then. -/
  killAfter : Option Nat
  /-- Whether only the process itself is ended, and not its group. -/
  isForeground : Bool
  /-- Whether signals are told. -/
  isVerbose : Bool
  /-- Whether the program's own code is told in any case. -/
  keepsCode : Bool
  /-- The time is up. -/
  isOver : Bool := false
  /-- The processes that tell when a time is over. -/
  clocks : List Nat := []

/-- The signal that tells that a time is over. -/
def alarm : Nat :=
  14

/-- Begins a process that tells another one when a time is over. -/
def startClock (micros pid : Nat) (rest : Nat → Thread) : Thread :=
  .fork
    (fun clock => .act fun m =>
      (m.change clock fun p => { p with group := clock, streams := [] },
        .sleep micros (.act fun m => (m.signal pid alarm, .exit 0))))
    rest

/-- The machine after a signal has gone to what is watched. -/
def Watch.send (w : Watch) (n : Nat) (m : Machine) : Machine :=
  let told := if !w.isVerbose then m
    else
      let (name, program) := (Signal.name n, Name.quoted (w.words.headD ""))
      m.write w.pid 2 s!"timeout: sending signal {name} to command {program}\n"
  let m := told.signal w.child n
  if w.isForeground then m
  else
    let m := if n = Signal.kill then m
      else m.change w.pid fun p => { p with ignored := n :: p.ignored }
    (m.signalGroup w.pid n).2

/-- What is done when what is watched has ended. -/
def Watch.finish (w : Watch) (e : Ending) : Thread :=
  .act fun m =>
    let m := w.clocks.foldl (fun m clock => m.signal clock Signal.kill) m
    let own (code : Nat) : Nat := if w.isOver && !w.keepsCode then 124 else code
    match e with
    | .exited code => (m, .exit (own code))
    | .killed n =>
      if !w.isOver then (m.end_ w.pid (.killed n), .exit (128 + n))
      else (m, .exit (if n = Signal.kill then 128 + n else own (128 + n)))

/-- Waits for what is watched, and deals with so many signals at most. -/
def Watch.wait : Nat → Watch → Thread
  | 0, w => .wait w.child false fun e => w.finish (e.getD (.exited 0))
  | n + 1, w => .wait w.child true fun
    | some e => w.finish e
    | none => .act fun m =>
      let pending := ((m.process? w.pid).map Process.pending).getD []
      match pending with
      | [] => (m, Watch.wait 0 w)
      | s :: rest =>
        let m := m.change w.pid fun p => { p with pending := rest }
        let w := if s = alarm then { w with isOver := true } else w
        let sent := if s = alarm then w.signal else s
        match w.killAfter with
        | some micros =>
          let w := { w with killAfter := none, signal := Signal.kill }
          (m, startClock micros w.pid fun clock =>
            .act fun m => (w.send sent m, Watch.wait n { w with clocks := clock :: w.clocks }))
        | none => (w.send sent m, Watch.wait n w)

/-- The signals that `timeout` hands on. -/
def handedOn : List Nat :=
  [1, 2, 3, alarm, 15]

/-- Runs a program and ends it after a time. -/
def timeout (execute : Execute) (image : Image) (pid : Nat) : Thread :=
  Task.thread image pid fun args => do
  let o ← Task.options
    [.valued 'k' "kill-after", .valued 's' "signal", .long "preserve-status", .long "foreground",
      .plain 'v' "verbose"] args 125 true
  let time (text : String) : Task Nat := do
    match micros? text with
    | some n => return n
    | none => do
      let shown := Name.quoted text
      Task.refuse s!"invalid time interval {shown}" 125
  let killAfter ← (o.value? "kill-after").mapM time
  let signal ← match o.value? "signal" with
    | none => pure 15
    | some text =>
      match Signal.ofText? (text.map Char.toUpper) with
      | some n => pure n
      | none => do
        let shown := Name.quoted text
        Task.refuse s!"{shown}: invalid signal" 125
  match o.operands with
  | duration :: program :: rest =>
    let micros ← time duration
    let words := program :: rest
    let isForeground := o.has "foreground"
    Task.update fun m => m.change pid fun p =>
      { p with group := if isForeground then p.group else pid, caught := handedOn
               ignored := p.ignored.filter fun n => !handedOn.contains n || n = 1 }
    let child := becomeOr execute (failedToRun image.program program)
      (imageOf image.environment words)
    return .fork child fun child =>
      let w : Watch :=
        { pid, child, words, signal, isForeground
          killAfter := killAfter.filter (· != 0)
          isVerbose := o.has "verbose", keepsCode := o.has "preserve-status" }
      if micros = 0 then w.wait 100
      else startClock micros pid fun clock => { w with clocks := [clock] }.wait 100
  | _ => do
    let name := image.program
    Task.tell s!"Try '{name} --help' for more information."
    Task.quit 125

/-! ### Writing without end -/

/-- The number of lines that are written before nobody reads any further. -/
def lineCount : Nat :=
  5000

/-- Writes a line again and again. -/
def yes (image : Image) (pid : Nat) : Thread :=
  Task.thread image pid fun args => do
  let words := if args.head? = some "--" then args.drop 1 else args
  let line := (if words.isEmpty then "y" else " ".intercalate words) ++ "\n"
  let forever : Thread := .sleep endless (.exit 0)
  match ← Task.look fun pid m => m.stream? pid 1 with
  | some (.pipe _) =>
    Task.say (String.join (List.replicate lineCount line))
    return .act fun m => (m.end_ pid (.killed Signal.pipe), forever)
  | some (.file _) =>
    Task.say (String.join (List.replicate lineCount line))
    return forever
  | some (.device .full) | none =>
    let fault := if (← Task.look fun pid m => (m.stream? pid 1).isNone) then PathFault.closed.text
      else "No space left on device"
    Task.fail s!"standard output: {fault}"
  | _ => return forever

end Program

end ServiceHarness
