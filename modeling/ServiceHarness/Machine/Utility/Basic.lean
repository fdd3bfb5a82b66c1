import ServiceHarness.Machine.Utility.Condition
import ServiceHarness.Machine.Utility.Options
import ServiceHarness.Text.Format

/-!
# Small utilities

They write texts, test conditions and send signals.
-/

namespace ServiceHarness.Utility

/-- Succeeds or fails, and does nothing else. -/
def constant (code : Nat) : Utility := fun _ _ m =>
  (code, m)

/-- Whether an argument has letters of options only, of which there is one at least. -/
def isEchoOption (arg : String) : Bool :=
  match arg.toList with
  | '-' :: c :: cs => (c :: cs).all fun c => "neE".contains c
  | _ => false

/-- Puts out the arguments with a space between each two.  Where escapes are resolved, one of
them may end the text. -/
def echo : Utility := Task.utility fun args => do
  let options := args.takeWhile isEchoOption
  let letters := String.ofList (options.flatMap (·.toList))
  let ending := if letters.contains 'n' then "" else "\n"
  let escapes := (letters.toList.reverse.find? fun c => c == 'e' || c == 'E') == some 'e'
  let text := " ".intercalate (args.drop options.length)
  let (shown, isWhole) := if escapes then Text.Escape.resolve text true else (text, true)
  Task.say (shown ++ if isWhole then ending else "")

/-- Puts out a format with the arguments put in. -/
def printf : Utility := Task.utility fun args => do
  match if args.head? = some "--" then args.drop 1 else args with
  | [] => Task.refuse "missing operand"
  | format :: rest =>
    let filled := Text.Format.fill format rest
    Task.say filled.text
    for fault in filled.faults.reverse ++ filled.refusal.toList do
      Task.complain fault

/-- Tells by the exit code whether a condition holds. -/
def decideCondition (args : List String) : Task Unit := do
  match ← Task.look fun pid m => Condition.holds m pid args with
  | .ok true => pure ()
  | .ok false => Task.mark 1
  | .error text => Task.complain text 2

/-- Tests a condition. -/
def test : Utility := Task.utility decideCondition

/-- Tests a condition in brackets. -/
def bracket : Utility := Task.utility fun args => do
  if args.getLast? = some "]" then decideCondition args.dropLast
  else Task.complain "missing ']'" 2

/-- The signal that the options ask for, and the targets. -/
def signalAndTargets : List String → Option (Nat × List String)
  | "--" :: targets => some (15, targets)
  | "-s" :: name :: targets | "-n" :: name :: targets =>
    (Signal.ofText? name).map (·, targets)
  | first :: targets =>
    match first.toList with
    | '-' :: name =>
      (Signal.ofText? (String.ofList name)).map
        (·, if targets.head? = some "--" then targets.drop 1 else targets)
    | _ => some (15, first :: targets)
  | [] => none

/-- Sends a signal to a target: a process, a group for a negative number and the own group for
zero. -/
def sendTo (n : Nat) (target : String) : Task Unit := do
  let fail : Task Unit := do
    let shown := Name.quoted target
    Task.complain s!"({shown}) - No such process"
  match Condition.integer? target with
  | none => Task.complain s!"failed to parse argument: '{target}'"
  | some 0 =>
    Task.act fun pid m =>
      ((), (m.signalGroup (((m.process? pid).map Process.group).getD 0) n).2)
  | some (.ofNat other) =>
    if ← Task.look fun _ m => (m.process? other).isSome then Task.update fun m => m.signal other n
    else fail
  | some (.negSucc other) =>
    if !(← Task.act fun _ m => m.signalGroup (other + 1) n) then fail

/-- Sends a signal to processes. -/
def kill : Utility := Task.utility fun args => do
  match signalAndTargets args with
  | some (n, targets) =>
    if targets.isEmpty then Task.fail "not enough arguments" 1
    for target in targets do
      sendTo n target
  | none => Task.fail "unknown signal" 1

end ServiceHarness.Utility
