import ServiceHarness.Command

/-!
# Services

A `Service` has a name and the commands that build and run it; `Service.named` makes one
and refuses a blank name, and `Service.cargo` is a package of the workspace.  A `Handle`
stands for a launched service.
-/

namespace ServiceHarness

/-- A service to be built and launched. -/
structure Service where
  /-- The name of the service. -/
  name : String
  /-- The command that builds it. -/
  build : Command
  /-- The command that runs it. -/
  run : Command
  deriving DecidableEq, Repr

/-- The service with the given commands, if its name is not blank. -/
def Service.named (name : String) (build run : Command) : Except Defect Service :=
  if Text.isBlankText name then .error (.broken .serviceNamed) else .ok ⟨name, build, run⟩

/-- The package `name` of the workspace. -/
def Service.cargo (name : String) : Service where
  name := name
  build := Command.cargo ["build", "-p", name]
  run := Command.cargo ["run", "-p", name]

/-- A service as it is written down: a command that is not given is the one of the
package of that name. -/
structure Declaration where
  /-- The name of the service. -/
  name : String
  /-- The words of the command that builds it. -/
  build : Option (List String) := none
  /-- The words of the command that runs it. -/
  run : Option (List String) := none
  deriving DecidableEq, Repr

/-- The command of `argv` if it is given and `default` if not. -/
def Declaration.commandOr (owner : String) (default : Command) :
    Option (List String) → Except Defect Command
  | none => .ok default
  | some argv => Command.ofArgv owner argv

/-- The service that a declaration describes.  Of several defects the one of the build
command comes first, then the one of the run command, then the name. -/
def Declaration.service (d : Declaration) : Except Defect Service := do
  let build ← commandOr d.name (Service.cargo d.name).build d.build
  let run ← commandOr d.name (Service.cargo d.name).run d.run
  Service.named d.name build run

/-- A launched service: its name and the process that leads its group. -/
structure Handle where
  /-- The name of the service. -/
  name : String
  /-- The process that leads its group. -/
  pid : Nat
  deriving DecidableEq, Repr

/-- What a signal found. -/
inductive SignalOutcome where
  /-- The signal was delivered to the group. -/
  | delivered
  /-- Nothing of the group was left. -/
  | alreadyExited
  deriving DecidableEq, Repr

end ServiceHarness
