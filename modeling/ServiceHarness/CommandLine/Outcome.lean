import ServiceHarness.CommandLine.Help
import ServiceHarness.Run.Basic
import ServiceHarness.Settings.Expansion
import ServiceHarness.Settings.HarnessFile

/-!
# The program

An invocation of the program reads its arguments, loads the harness file if one is named,
resolves the plan, makes the ports for it and performs one run of it.  `execute` does all this, and
its `Outcome` tells how far it came; `Outcome.exitStatus` is the exit status.
-/

namespace ServiceHarness.CommandLine

/-- Where the program is invoked. -/
structure Site where
  /-- The variables that it sees. -/
  environment : Environment
  /-- The files that it sees. -/
  files : FileTree
  /-- Its directory. -/
  directory : String
  /-- The home directory of the user, if there is one. -/
  userHome : Option String
  /-- Why its directory cannot be told, if it cannot. -/
  directoryFault : Option String := none

/-- The place where the plan is made. -/
def Site.settings (site : Site) : Settings.Site where
  expand := Settings.expandPath site.environment site.userHome
  directory := match site.directoryFault with
    | none => .ok site.directory
    | some reason => .error reason

/-- The manifest that arguments name, which declares nothing if they name none. -/
def Arguments.manifest (a : Arguments) (site : Site) : Except Settings.Fault Settings.Manifest :=
  match a.config with
  | some path => Settings.load site.files site.directory path
  | none => .ok {}

/-- The plan of arguments, with what the harness file declares. -/
def Arguments.plan (a : Arguments) (site : Site) : Except Settings.Fault Plan := do
  Settings.resolve site.settings a.flags (← a.manifest site)

/-- How an invocation of the program ends. -/
inductive Outcome (σ : Type) where
  /-- The arguments make it stop. -/
  | halted (halt : Halt)
  /-- There is no plan. -/
  | refused (fault : Settings.Fault)
  /-- There is a plan, but nothing to probe the instance with, for the given reason. -/
  | unequipped (plan : Plan) (reason : String)
  /-- A run of a plan was begun. -/
  | ended (plan : Plan) (result : Run.Result σ)

variable {σ : Type}

/-- Invokes the program with arguments.  The ports are made for the plan, which may fail for want of
a client for the probes; the run is performed on them, in the given state when it begins. -/
def execute (P : Plan → Except String (Ports σ)) (c : Controls) (runId : String) (site : Site)
    (args : List String) (ports : σ) : Outcome σ :=
  match parse site.environment args with
  | .error halt => .halted halt
  | .ok a =>
    match a.plan site with
    | .error fault => .refused fault
    | .ok plan =>
      match P plan with
      | .error reason => .unequipped plan reason
      | .ok P => .ended plan (Run.perform P c plan runId ports)

namespace Outcome

/-- The exit status of the program where nothing was begun. -/
def setupFailure : Nat :=
  2

/-- The exit status of a program that panics. -/
def panicStatus : Nat :=
  101

/-- The exit status for a code, which has to be a byte. -/
def statusOf (code : Nat) : Nat :=
  if code < UInt8.size then code else 1

/-- The exit status of the program. -/
def exitStatus : Outcome σ → Nat
  | .halted halt => halt.exitStatus
  | .refused _ => setupFailure
  | .unequipped .. => setupFailure
  | .ended _ result =>
    match result.verdict with
    | .passed _ => 0
    | .failed fault => statusOf fault.exitStatus
    | .cut _ => panicStatus

/-- What the log is told where nothing was begun. -/
def failure : Outcome σ → Option String
  | .refused fault => some fault.message
  | .unequipped _ reason => some s!"Failed to build the readiness probe client: {reason}"
  | _ => none

/-- The last line that the program puts out. -/
def closing : Outcome σ → Option String
  | .ended _ ⟨.passed summary, _⟩ =>
    some s!"All tests passed ({summary.teardown.signals} services stopped)\n"
  | _ => none

/-- The line that the program puts out as an error. -/
def complaint : Outcome σ → Option String
  | .ended plan ⟨.failed fault, _⟩ => some (fault.banner plan.output.isStreamed ++ "\n")
  | _ => none

end Outcome

end ServiceHarness.CommandLine
