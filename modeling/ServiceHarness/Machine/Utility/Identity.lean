import ServiceHarness.Machine.Account
import ServiceHarness.Machine.Utility.Options

/-!
# Utilities on identity

They tell as whom a process runs, and on what.
-/

namespace ServiceHarness.Utility

/-- Puts out a fixed text. -/
def announce (text : String) : Utility := Task.utility fun args => do
  let o ← Task.options [] args
  match o.operands with
  | [] => Task.say (text ++ "\n")
  | extra :: _ => do
    let shown := Name.quoted extra
    Task.refuse s!"extra operand {shown}"

/-- Tells as whom a process runs, or who another user is. -/
def id : Utility := Task.utility fun args => do
  let o ← Task.options
    [.plain 'u' "user", .plain 'g' "group", .plain 'G' "groups", .plain 'n' "name",
      .plain 'r' "real", .plain 'z' "zero", .plain 'a' "a"] args
  let account ← match o.operands with
    | [] => pure Account.root
    | name :: _ =>
      match Account.ofName? name with
      | some account => pure account
      | none => do
        let shown := Name.quoted name
        Task.fail s!"{shown}: no such user"
  let isName := o.has "name"
  if o.has "user" then
    Task.say ((if isName then account.name else toString account.id) ++ "\n")
  else if o.has "group" || o.has "groups" then
    Task.say ((if isName then account.name else toString account.group) ++ "\n")
  else if isName then Task.fail "cannot print only names or real IDs in default format"
  else
    let (name, user, group) := (account.name, account.id, account.group)
    Task.say s!"uid={user}({name}) gid={group}({name}) groups={group}({name})\n"

/-- The parts of what the system tells of itself, by the words of their switches. -/
def systemParts : List (String × String) :=
  [("kernel-name", "Linux"), ("nodename", "localhost"), ("kernel-release", "6.1.0"),
    ("kernel-version", "#1 SMP"), ("machine", "x86_64"), ("processor", "unknown"),
    ("hardware-platform", "unknown"), ("operating-system", "GNU/Linux")]

/-- Tells on what system a process runs. -/
def uname : Utility := Task.utility fun args => do
  let o ← Task.options
    [.plain 'a' "all", .plain 's' "kernel-name", .plain 'n' "nodename",
      .plain 'r' "kernel-release", .plain 'v' "kernel-version", .plain 'm' "machine",
      .plain 'p' "processor", .plain 'i' "hardware-platform", .plain 'o' "operating-system"] args
  match o.operands with
  | extra :: _ => do
    let shown := Name.quoted extra
    Task.refuse s!"extra operand {shown}"
  | [] => pure ()
  let isAsked (part : String × String) : Bool :=
    if o.has "all" then part.2 ≠ "unknown"
    else o.has part.1 || (o.given.isEmpty && part.1 = "kernel-name")
  Task.say (" ".intercalate ((systemParts.filter isAsked).map (·.2)) ++ "\n")

/-- Tells that the input is no terminal. -/
def tty : Utility := Task.utility fun args => do
  let o ← Task.options [.plain 's' "quiet", .long "silent"] args 2
  if !(o.has "quiet" || o.has "silent") then Task.say "not a tty\n"
  Task.mark 1

/-- Tells that nobody has logged in. -/
def logname : Utility := Task.utility fun args => do
  let _ ← Task.options [] args
  Task.fail "no login name"

/-- The utilities that tell something fixed, by name. -/
def announcements : List (String × Utility) :=
  [("whoami", announce "root"), ("arch", announce "x86_64"), ("nproc", announce "1"),
    ("hostid", announce "00000000"), ("groups", announce "root"),
    ("hostname", announce "localhost")]

end ServiceHarness.Utility
