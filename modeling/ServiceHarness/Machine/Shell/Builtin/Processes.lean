import ServiceHarness.Machine.Shell.Builtin.Arguments

/-!
# Builtins on processes

The builtins that say what is done on signals, send signals, wait for processes, and end loops,
functions and the shell.
-/

namespace ServiceHarness.Shell

/-! ### Signals -/

/-- Runs the action of the first signal that was caught, if one was. -/
def dealWithSignals (e : Evaluator) : ShellM Unit := do
  let caught ← actAs fun pid m =>
    match ((m.process? pid).map Process.pending).getD [] with
    | n :: _ => (some n, m.change pid fun p => { p with pending := p.pending.drop 1 })
    | [] => (none, m)
  let s ← Work.get
  match caught.bind fun n => s.traps.lookup n with
  | none => pure ()
  | some action =>
    evaluate e false action
    let after ← Work.get
    if after.unwinding = .none then setStatus s.status

/-- The name of a signal, or of the exit for zero. -/
def signalName (n : Nat) : String :=
  if n = 0 then "EXIT" else Signal.name n

/-- The signal of a number or a name, without regard to capital letters; the exit is zero. -/
def signal? (s : String) : Option Nat :=
  if s ≠ "" ∧ s.toList.all Char.isDigit then s.toNat?.filter (· < Signal.count)
  else
    let name := String.ofList (s.toList.map Char.toUpper)
    (List.range Signal.count).find? fun n => signalName n == name

/-- Sets what is done on a signal: nothing, an action, or what is done of old. -/
def trapOne (action : Option String) (n : Nat) : ShellM Unit := do
  let s ← Work.get
  if s.untouchable.contains n then return
  Work.modify fun s =>
    let others := s.traps.filter fun t => t.1 != n
    { s with traps := match action with
      | some a => (n, a) :: others
      | none => others }
  actAs fun pid m =>
    ((), m.change pid fun p =>
      let ignored := p.ignored.filter (· != n)
      let caught := p.caught.filter (· != n)
      match action with
      | none => { p with ignored, caught }
      | some "" => { p with ignored := n :: ignored, caught }
      | some _ => { p with ignored, caught := n :: caught })

/-- Sets what is done on some signals, up to one that there is not. -/
def trapAll (action : Option String) : List String → ShellM Unit
  | [] => setStatus 0
  | name :: rest => do
    match signal? name with
    | some n =>
      trapOne action n
      trapAll action rest
    | none =>
      actAs fun pid m => ((), m.write pid 2 s!"trap: {name}: bad trap\n")
      setStatus 1

/-- Sets what is done on signals, or tells it. -/
def trap (e : Evaluator) (args : List String) : ShellM Unit := do
  let (_, args) ← takeOptions e "" args
  match args with
  | [] =>
    let s ← Work.get
    for n in List.range Signal.count do
      match s.traps.lookup n with
      | some action => say s!"trap -- {inQuotes action} {signalName n}\n"
      | none => pure ()
    setStatus 0
  | [name] => trapAll none [name]
  | first :: names =>
    if first ≠ "" ∧ first.toList.all Char.isDigit ∧ (signal? first).isSome then
      trapAll none (first :: names)
    else trapAll (if first = "-" then none else some first) names

/-! ### Jobs -/

/-- The process that an argument means: one by its number or that of its job. -/
def processOf (e : Evaluator) (arg : String) : ShellM (Option Nat) := do
  let s ← Work.get
  if arg.startsWith "%" then
    let name := (arg.drop 1).toString
    let found := if name = "" ∨ name = "%" ∨ name = "+" then s.jobs.getLast?
      else s.jobs.find? fun j => some j.1 == name.toNat?
    match found with
    | some j => return some j.2
    | none => e.refuse s!"No such job: {arg}"
  else
    let pid ← number e arg
    return if s.jobs.any (·.2 == pid) then some pid else none

/-- Tells what a signal has done to a process, unless an operator or a reader wanted it to end. -/
def tellEnding : Option Ending → ShellM Unit
  | some (.killed n) =>
    if n = Signal.interrupt || n = Signal.pipe then pure ()
    else actAs fun pid m => ((), m.write pid 2 (Signal.description n ++ "\n"))
  | _ => pure ()

/-- Waits for a process that was not waited for; gives its status, or that of a signal that came
first. -/
def awaitChild (tells : Bool) (pid : Nat) : ShellM (Option Nat) := do
  let ending ← Work.wait pid true
  if tells then tellEnding ending
  match ending with
  | some e =>
    Work.modify fun s => { s with jobs := s.jobs.filter (·.2 != pid) }
    return some e.status
  | none =>
    let signal ← actAs fun self m => (((m.process? self).map Process.pending).bind List.head?, m)
    return signal.map (128 + ·)

/-- Waits for processes one after the other, but not beyond a signal. -/
def awaitAll (e : Evaluator) : List Nat → ShellM Unit
  | [] => setStatus 0
  | pid :: rest => do
    let status ← awaitChild false pid
    let s ← Work.get
    if status.isSome && s.jobs.any (·.2 == pid) then
      setStatus (status.getD 0)
      dealWithSignals e
    else awaitAll e rest

/-- Waits for processes that were not waited for. -/
def wait (e : Evaluator) (args : List String) : ShellM Unit := do
  let (_, args) ← takeOptions e "" args
  let s ← Work.get
  if args.isEmpty then awaitAll e (s.jobs.map (·.2))
  else
    for arg in args do
      match ← processOf e arg with
      | some pid =>
        setStatus ((← awaitChild true pid).getD 127)
        dealWithSignals e
      | none => setStatus 127

/-- Tells the processes that were not waited for. -/
def tellJobs : ShellM Unit := do
  let s ← Work.get
  let last := s.jobs.getLast?.map (·.1)
  let before := s.jobs.dropLast.getLast?.map (·.1)
  let rows ← actAs fun _ m =>
    (s.jobs.map fun (n, pid) =>
      let mark := if some n == last then "+" else if some n == before then "-" else " "
      let state := match (m.process? pid).bind Process.ending with
        | none => "Running"
        | some (.exited 0) => "Done"
        | some (.exited code) => s!"Done({code})"
        | some (.killed n) => Signal.description n
      let row := s!"[{n}] {mark} {state}"
      row ++ String.ofList (List.replicate (33 - row.length) ' ') ++ "\n", m)
  say (String.join rows)
  let ended ← actAs fun _ m =>
    (s.jobs.filter fun j => ((m.process? j.2).bind Process.ending).isSome, m)
  for (_, pid) in ended do
    let _ ← awaitChild false pid
  setStatus 0

/-! ### Sending signals -/

/-- How signals are sent. -/
def killUsage : String :=
  "Usage: kill [-s sigspec | -signum | -sigspec] [pid | job]... or\nkill -l [exitstatus]"

/-- Tells the names of signals. -/
def listSignals (e : Evaluator) : List String → ShellM Unit
  | [] => do
    let names := (List.range Signal.count).map Signal.name
    say (String.join (names.map (· ++ "\n")))
    setStatus 0
  | arg :: _ => do
    let n ← number e arg
    let n := if 128 < n then n - 128 else n
    if n = 0 || Signal.count ≤ n then
      e.refuse s!"invalid signal number or exit status: {arg}"
    say (Signal.name n ++ "\n")
    setStatus 0

/-- Sends a signal to a target: a process, a group for a negative number and the own group for
zero. -/
def sendTo (e : Evaluator) (n : Nat) (target : String) : ShellM Unit := do
  let isGroup := target.startsWith "-"
  let other ← if target.startsWith "%" then (·.getD 0) <$> processOf e target
    else number e (if isGroup then (target.drop 1).toString else target)
  let found ← actAs fun pid m =>
    if other = 0 then
      (true, (m.signalGroup (((m.process? pid).map Process.group).getD 0) n).2)
    else if isGroup then m.signalGroup other n
    else ((m.process? other).isSome, m.signal other n)
  if !found then
    complain "No such process\n"
    setStatus 1

/-- Sends a signal to processes. -/
def kill (e : Evaluator) (args : List String) : ShellM Unit := do
  if args.isEmpty then e.refuse killUsage
  let first := args.headD ""
  let bare := if first.startsWith "-" then (signal? (first.drop 1).toString).filter fun n =>
      n ≠ 0 || first == "-0"
    else none
  let (signal, lists, targets) ← match bare with
    | some n => pure (some n, false, args.drop 1)
    | none => do
      let (letters, targets) ← takeOptions e "ls:" args
      let signal ← match (letters.filter (·.1 == 's')).getLast? with
        | none => pure none
        | some (_, name) => match signal? name with
          | some n => pure (some n)
          | none => e.refuse s!"invalid signal number or name: {name}"
      pure (signal, letters.any (·.1 == 'l'), targets)
  if lists then listSignals e targets
  else
    if targets.isEmpty then e.refuse killUsage
    setStatus 0
    for target in targets do
      sendTo e (signal.getD 15) target

/-! ### Endings -/

/-- Exits with a status. -/
def exit (e : Evaluator) (args : List String) : ShellM Unit := do
  let n ← firstNumber e (← Work.get).status args
  setStatus (n % 256)
  finish e

/-- Leaves a function. -/
def return_ (e : Evaluator) (args : List String) : ShellM Unit := do
  let n ← firstNumber e (← Work.get).status args
  Work.modify fun s => { s with status := n, unwinding := .returning }

/-- Leaves so many loops, or those that there are. -/
def unwind (e : Evaluator) (u : Nat → Unwinding) (args : List String) : ShellM Unit := do
  let n ← firstNumber e 1 args
  if n = 0 then e.refuse "Illegal number: 0"
  setStatus 0
  Work.modify fun s =>
    let loops := min s.loops n
    if loops = 0 then s else { s with unwinding := u loops }

end ServiceHarness.Shell
