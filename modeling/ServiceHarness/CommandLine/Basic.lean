import ServiceHarness.CommandLine.Token
import ServiceHarness.Settings.Basic
import ServiceHarness.Text.Numeral

/-!
# The command line

`parse` reads the arguments of the program into `Arguments`, with the variables of the
environment for two of the options, or tells why it stops: it was asked for its help or its
version, or the arguments are refused.  An option that takes a value is pending until the
next option or the end, and only then is its value looked at.
-/

namespace ServiceHarness.CommandLine

/-- An option that takes a value. -/
inductive Key where
  /-- The URL of the instance. -/
  | url
  /-- The name of a service; it may be given many times. -/
  | service
  /-- The path of the configuration that the services are given. -/
  | conf
  /-- The path of the harness file. -/
  | config
  /-- The directory in which every command runs. -/
  | directory
  /-- The milliseconds between two probes. -/
  | interval
  deriving DecidableEq, Repr

/-- An option that takes no value. -/
inductive Switch where
  /-- The output of commands is shown. -/
  | logs
  /-- The workspace tests are left out. -/
  | noWorkspace
  /-- The program tells how it is used. -/
  | help
  /-- The program tells its version. -/
  | version
  deriving DecidableEq, Repr

/-- An option. -/
inductive Opt where
  /-- It takes a value. -/
  | key (key : Key)
  /-- It takes none. -/
  | switch (switch : Switch)
  deriving DecidableEq, Repr

/-- The name of a key, after its two dashes. -/
def Key.name : Key → String
  | .url => "instance-url"
  | .service => "service"
  | .conf => "conf"
  | .config => "config"
  | .directory => "workdir"
  | .interval => "probe-interval-ms"

/-- The name of a switch, after its two dashes. -/
def Switch.name : Switch → String
  | .logs => "logs"
  | .noWorkspace => "no-workspace"
  | .help => "help"
  | .version => "version"

/-- The name of an option, after its two dashes. -/
def Opt.name : Opt → String
  | .key k => k.name
  | .switch s => s.name

/-- The options. -/
def Opt.all : List Opt :=
  [.switch .logs, .switch .noWorkspace, .key .url, .key .service, .key .conf, .key .config,
    .key .directory, .key .interval, .switch .help, .switch .version]

/-- The option of a name. -/
def Opt.ofName? (name : String) : Option Opt :=
  Opt.all.find? fun o => o.name == name

/-- The short options. -/
def Switch.ofShort? : Char → Option Switch
  | 'h' => some .help
  | 'V' => some .version
  | _ => none

/-- What the command line gives. -/
structure Arguments where
  /-- The values for the plan. -/
  flags : Settings.Flags := {}
  /-- The path of the harness file. -/
  config : Option String := none
  deriving DecidableEq, Repr

/-- Why arguments are refused. -/
inductive Refusal where
  /-- No option or value is expected there. -/
  | unknown
  /-- An option that is given once is given again. -/
  | repeated
  /-- A switch has a value. -/
  | superfluousValue
  /-- A key has no value, or an empty one that it does not admit. -/
  | missingValue
  /-- The value is no number of milliseconds. -/
  | unreadableValue
  deriving DecidableEq, Repr

/-- Why the arguments are read no further. -/
inductive Halt where
  /-- The help is asked for. -/
  | help
  /-- The version is asked for. -/
  | version
  /-- The arguments are refused. -/
  | refused (refusal : Refusal)
  deriving DecidableEq, Repr

/-- The exit status of the program after it has stopped. -/
def Halt.exitStatus : Halt → Nat
  | .refused _ => 2
  | _ => 0

/-- A value that is given for the first time. -/
def once {α : Type} (current : Option α) (value : α) : Except Halt (Option α) :=
  if current.isSome then .error (.refused .repeated) else .ok (some value)

namespace Arguments

/-- The arguments with a value for a key. -/
def assign (a : Arguments) (k : Key) (value : String) : Except Halt Arguments :=
  match k with
  | .url => return { a with flags.url := ← once a.flags.url value }
  | .service => return { a with flags.services := a.flags.services ++ [value] }
  | .conf => return { a with flags.conf := ← once a.flags.conf value }
  | .config => do
    let config ← once a.config value
    if value.isEmpty then throw (.refused .missingValue)
    return { a with config := config }
  | .directory => return { a with flags.directory := ← once a.flags.directory value }
  | .interval => do
    if a.flags.interval.isSome then throw (.refused .repeated)
    match Text.word? value with
    | some millis => return { a with flags.interval := some millis }
    | none => throw (.refused .unreadableValue)

/-- The arguments with a switch. -/
def turnOn (a : Arguments) : Switch → Except Halt Arguments
  | .logs =>
    if a.flags.logs then .error (.refused .repeated) else .ok { a with flags.logs := true }
  | .noWorkspace =>
    if a.flags.noWorkspace then .error (.refused .repeated)
    else .ok { a with flags.noWorkspace := true }
  | .help => .error .help
  | .version => .error .version

end Arguments

/-- What is known after some of the arguments. -/
structure State where
  /-- What has been given. -/
  given : Arguments := {}
  /-- A key whose value has not been looked at, with the value if it has come. -/
  pending : Option (Key × Option String) := none

namespace State

/-- What has been given once the value of a pending key has been looked at. -/
def settle (s : State) : Except Halt Arguments :=
  match s.pending with
  | none => .ok s.given
  | some (_, none) => .error (.refused .missingValue)
  | some (k, some value) => s.given.assign k value

/-- What is known after one more token. -/
def step (s : State) : Token → Except Halt State
  | .terminator => .ok s
  | .long name value =>
    match Opt.ofName? name, value with
    | none, _ => .error (.refused .unknown)
    | some (.switch _), some _ => .error (.refused .superfluousValue)
    | some (.switch w), none => return { given := ← (← s.settle).turnOn w }
    | some (.key k), some value => return { given := ← (← s.settle).assign k value }
    | some (.key k), none => return { given := ← s.settle, pending := some (k, none) }
  | .cluster first =>
    match Switch.ofShort? first with
    | some w => return { given := ← (← s.settle).turnOn w }
    | none => .error (.refused .unknown)
  | .word text =>
    match s.pending with
    | some (k, none) => .ok { s with pending := some (k, some text) }
    | _ => .error (.refused .unknown)

end State

/-- Reads the arguments.  Nothing may follow the terminator. -/
def read : State → List String → Except Halt Arguments
  | s, [] => s.settle
  | s, argument :: rest =>
    match Token.ofArgument argument with
    | .terminator => if rest.isEmpty then s.settle else .error (.refused .unknown)
    | t => do read (← s.step t) rest

/-- The variable that stands in for the option of the URL. -/
def urlVariable : String :=
  "INSTANCE_URL"

/-- The variable that stands in for the option of the harness file. -/
def configVariable : String :=
  "TESTBED_CONFIG"

/-- The arguments with the variables of the environment where an option is not given. -/
def Arguments.withEnvironment (a : Arguments) (env : Environment) : Except Halt Arguments := do
  let a := { a with flags.url := a.flags.url <|> env.get? urlVariable }
  match a.config, env.get? configVariable with
  | none, some path => a.assign .config path
  | _, _ => return a

/-- Reads the arguments of the program in an environment. -/
def parse (env : Environment) (arguments : List String) : Except Halt Arguments := do
  (← read {} arguments).withEnvironment env

end ServiceHarness.CommandLine
