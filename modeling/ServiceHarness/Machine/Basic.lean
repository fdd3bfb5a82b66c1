import ServiceHarness.Ending
import ServiceHarness.FileTree

/-!
# The machine

A `Machine` is what processes share: the files, the time and a table of the processes with
their groups, the signals that they ignore or catch, and their streams.  `signal` sends a signal
to a process and `signalGroup` to a group, `end_` ends a process, and `reap` takes one that has
ended out of the table; `write` and `take` let a process use its streams.
-/

namespace ServiceHarness

namespace Signal

/-- The signals by name. -/
def numbers : List (String × Nat) :=
  [("HUP", 1), ("INT", 2), ("QUIT", 3), ("ILL", 4), ("TRAP", 5), ("ABRT", 6), ("BUS", 7),
    ("FPE", 8), ("KILL", 9), ("USR1", 10), ("SEGV", 11), ("USR2", 12), ("PIPE", 13),
    ("ALRM", 14), ("TERM", 15), ("STKFLT", 16), ("CHLD", 17), ("CONT", 18), ("STOP", 19),
    ("TSTP", 20), ("TTIN", 21), ("TTOU", 22), ("URG", 23), ("XCPU", 24), ("XFSZ", 25),
    ("VTALRM", 26), ("PROF", 27), ("WINCH", 28), ("IO", 29), ("PWR", 30), ("SYS", 31)]

/-- The signal by which the operator interrupts. -/
def interrupt : Nat :=
  2

/-- The signal that the keyboard sends to quit. -/
def quit : Nat :=
  3

/-- The signal that a process gets when nobody reads what it writes. -/
def pipe : Nat :=
  13

/-- The signal that no process survives. -/
def kill : Nat :=
  9

/-- The signals that do nothing to a process that does not catch them. -/
def harmless : List Nat :=
  [0, 17, 18, 19, 20, 21, 22, 23, 28]

/-- The number of signals, the one that is none counted as one. -/
def count : Nat :=
  65

/-- The name of a signal; those beyond the table are named by their distance from its ends. -/
def name (n : Nat) : String :=
  if n = 34 then "RTMIN"
  else if n = 64 then "RTMAX"
  else if 34 < n ∧ n < 50 then s!"RTMIN+{n - 34}"
  else if 50 ≤ n ∧ n < 64 then s!"RTMAX-{64 - n}"
  else if n = 16 then "16"
  else ((numbers.find? fun e => e.2 = n).map (·.1)).getD (toString n)

/-- What is told of a process by the signal that has ended it. -/
def descriptions : List (Nat × String) :=
  [(1, "Hangup"), (2, "Interrupt"), (3, "Quit"), (4, "Illegal instruction"),
    (5, "Trace/breakpoint trap"), (6, "Aborted"), (7, "Bus error"),
    (8, "Floating point exception"), (9, "Killed"), (10, "User defined signal 1"),
    (11, "Segmentation fault"), (12, "User defined signal 2"), (13, "Broken pipe"),
    (14, "Alarm clock"), (15, "Terminated"), (16, "Stack fault"),
    (24, "CPU time limit exceeded"), (25, "File size limit exceeded"),
    (26, "Virtual timer expired"), (27, "Profiling timer expired"), (29, "I/O possible"),
    (30, "Power failure"), (31, "Bad system call")]

/-- What is told of a process that a signal has ended. -/
def description (n : Nat) : String :=
  (descriptions.lookup n).getD (if 34 ≤ n then s!"Real-time signal {n - 34}"
    else s!"Unknown signal {n}")

/-- The signal of a name, with or without its first syllable, or of a number. -/
def ofText? (s : String) : Option Nat :=
  let name := if s.startsWith "SIG" then (s.drop 3).toString else s
  match numbers.lookup name with
  | some n => some n
  | none => s.toNat?.filter (· < 65)

end Signal

/-- Where the output of a process goes, or its input comes from. -/
inductive Stream where
  /-- A device. -/
  | device (device : Device)
  /-- The output of the harness, or where its errors go. -/
  | console (isError : Bool)
  /-- A file that has been opened. -/
  | file (id : Nat)
  /-- A pipe. -/
  | pipe (id : Nat)
  deriving DecidableEq, Repr

/-- A file that has been opened. -/
structure OpenFile where
  /-- Its absolute path. -/
  path : String
  /-- How many characters are before the place at which it is read and written. -/
  position : Nat := 0
  /-- Whether it is written at its end. -/
  appends : Bool := false
  /-- Whether it is read. -/
  readable : Bool := false
  /-- Whether it is written. -/
  writable : Bool := false
  deriving DecidableEq, Repr

/-- A process. -/
structure Process where
  /-- The process that waits for it; the first process reaps those that it is left. -/
  parent : Nat
  /-- Its group. -/
  group : Nat
  /-- How it ended, if it has ended. -/
  ending : Option Ending := none
  /-- The signals that it ignores. -/
  ignored : List Nat := []
  /-- The signals that it catches. -/
  caught : List Nat := []
  /-- The signals that it has caught and not dealt with. -/
  pending : List Nat := []
  /-- Its directory. -/
  directory : String
  /-- Its streams by number. -/
  streams : List (Nat × Stream)
  /-- How much it lets others go first. -/
  niceness : Int := 0
  deriving Repr

/-- What processes share. -/
structure Machine where
  /-- The files. -/
  files : FileTree
  /-- The processes by number, in the order of their beginning. -/
  processes : List (Nat × Process) := []
  /-- What is in the pipes. -/
  pipes : List (Nat × String) := []
  /-- The files that have been opened. -/
  opened : List (Nat × OpenFile) := []
  /-- The time in microseconds. -/
  now : Nat := 0
  /-- The number of the next process, pipe or opened file. -/
  next : Nat := 4001
  /-- What the harness has put out. -/
  output : String := ""
  /-- What the harness has put out as errors. -/
  errors : String := ""

/-- The process that reaps those that nobody waits for. -/
def firstProcess : Nat :=
  1

/-- The process of the harness. -/
def harnessProcess : Nat :=
  2

namespace Machine

/-- The process of a number. -/
def process? (m : Machine) (pid : Nat) : Option Process :=
  m.processes.lookup pid

/-- The machine with a process changed. -/
def change (m : Machine) (pid : Nat) (f : Process → Process) : Machine :=
  { m with processes := m.processes.map fun e => if e.1 = pid then (pid, f e.2) else e }

/-- Whether a process has not ended. -/
def isAlive (m : Machine) (pid : Nat) : Bool :=
  match m.process? pid with
  | some p => p.ending.isNone
  | none => false

/-- The machine without a process. -/
def reap (m : Machine) (pid : Nat) : Machine :=
  { m with processes := m.processes.filter fun e => e.1 != pid }

/-- The machine after a process has ended.  Its children are left to the first process; those
that have ended go at once. -/
def end_ (m : Machine) (pid : Nat) (ending : Ending) : Machine :=
  let m := m.change pid fun p => { p with ending := some ending }
  let processes := m.processes.map fun e =>
    if e.2.parent = pid then (e.1, { e.2 with parent := firstProcess }) else e
  { m with
    processes := processes.filter fun e => !(e.2.parent == firstProcess && e.2.ending.isSome) }

/-- The machine after a signal has reached a process. -/
def signal (m : Machine) (pid n : Nat) : Machine :=
  match m.process? pid with
  | none => m
  | some p =>
    if p.ending.isSome then m
    else if n = Signal.kill then m.end_ pid (.killed n)
    else if p.ignored.contains n then m
    else if p.caught.contains n then m.change pid fun p => { p with pending := p.pending ++ [n] }
    else if Signal.harmless.contains n then m
    else m.end_ pid (.killed n)

/-- The processes of a group. -/
def members (m : Machine) (group : Nat) : List Nat :=
  (m.processes.filter fun e => e.2.group == group).map (·.1)

/-- The machine after a signal has reached every process of a group, and whether there was
one. -/
def signalGroup (m : Machine) (group n : Nat) : Bool × Machine :=
  let pids := m.members group
  (!pids.isEmpty, pids.foldl (fun m pid => m.signal pid n) m)

/-- The machine with one more process, and its number. -/
def begin (m : Machine) (p : Process) : Nat × Machine :=
  (m.next, { m with processes := m.processes ++ [(m.next, p)], next := m.next + 1 })

/-- The machine with an empty pipe, and its number. -/
def newPipe (m : Machine) : Nat × Machine :=
  (m.next, { m with pipes := (m.next, "") :: m.pipes, next := m.next + 1 })

/-- The machine with a file that has been opened, and its number. -/
def newFile (m : Machine) (f : OpenFile) : Nat × Machine :=
  (m.next, { m with opened := (m.next, f) :: m.opened, next := m.next + 1 })

/-- What is in a pipe. -/
def contents (m : Machine) (pipe : Nat) : String :=
  (m.pipes.lookup pipe).getD ""

/-- The machine with something in a pipe in place of what was there. -/
def fill (m : Machine) (pipe : Nat) (text : String) : Machine :=
  { m with pipes := m.pipes.map fun e => if e.1 = pipe then (pipe, text) else e }

/-- The machine with an opened file at another place. -/
def moveTo (m : Machine) (id position : Nat) : Machine :=
  { m with opened := m.opened.map fun e =>
      if e.1 = id then (id, { e.2 with position }) else e }

/-! ### Streams -/

/-- The stream of a process by number, if it has one. -/
def stream? (m : Machine) (pid number : Nat) : Option Stream :=
  (m.process? pid).bind fun p => p.streams.lookup number

/-- Whether a stream takes what is written to it. -/
def takes (m : Machine) : Stream → Bool
  | .device d => d != .full
  | .file id => ((m.opened.lookup id).map OpenFile.writable).getD false
  | _ => true

/-- Whether a process can write to one of its streams. -/
def canWrite (m : Machine) (pid number : Nat) : Bool :=
  (m.stream? pid number).any m.takes

/-- A text with another one put over it from a place on. -/
def overwritten (old : String) (position : Nat) (text : String) : String :=
  let before := old.toList.take position
  let gap := List.replicate (position - before.length) '\x00'
  String.ofList (before ++ gap ++ text.toList ++ old.toList.drop (position + text.length))

/-- The machine after a text has gone to a stream. -/
def put (m : Machine) (s : Stream) (text : String) : Machine :=
  match s with
  | .device _ => m
  | .console false => { m with output := m.output ++ text }
  | .console true => { m with errors := m.errors ++ text }
  | .pipe id => m.fill id (m.contents id ++ text)
  | .file id =>
    match m.opened.lookup id with
    | none => m
    | some f =>
      match m.files.get? f.path with
      | some (.file old x) =>
        if !f.writable then m
        else if f.appends then
          { m with files := m.files.insert f.path (.file (old ++ text) x) }.moveTo id
            (old.length + text.length)
        else
          { m with files := m.files.insert f.path
                     (.file (overwritten old f.position text) x) }.moveTo id
            (f.position + text.length)
      | _ => m

/-- The machine after a process has written to one of its streams. -/
def write (m : Machine) (pid number : Nat) (text : String) : Machine :=
  match m.stream? pid number with
  | some s => m.put s text
  | none => m

/-- The directory of a process. -/
def directoryOf (m : Machine) (pid : Nat) : String :=
  ((m.process? pid).map Process.directory).getD "/"

/-- What still can be read from a stream. -/
def available (m : Machine) : Stream → Except PathFault String
  | .pipe id => .ok (m.contents id)
  | .file id =>
    match m.opened.lookup id with
    | none => .ok ""
    | some f =>
      if !f.readable then .error .closed
      else match m.files.node? f.path with
        | some (.file text _) => .ok (text.drop f.position).toString
        | some .directory => .error .isDirectory
        | _ => .ok ""
  | _ => .ok ""

/-- The machine after so many characters have been read from a stream. -/
def skip (m : Machine) (s : Stream) (n : Nat) : Machine :=
  match s with
  | .pipe id => m.fill id ((m.contents id).drop n).toString
  | .file id => m.moveTo id (((m.opened.lookup id).map OpenFile.position).getD 0 + n)
  | _ => m

/-- What a process reads from one of its streams, if it takes a part of what there is, and the
machine after that. -/
def take (m : Machine) (pid number : Nat) (part : String → String) :
    Except PathFault String × Machine :=
  match m.stream? pid number with
  | none => (.error .closed, m)
  | some s =>
    match m.available s with
    | .error fault => (.error fault, m)
    | .ok text =>
      let taken := part text
      (.ok taken, m.skip s taken.length)

/-- What a process still can read, and the machine after it has read it. -/
def readAll (m : Machine) (pid : Nat) : Except PathFault String × Machine :=
  m.take pid 0 id

/-- The stream that a path among the streams of processes means. -/
def streamAt? (m : Machine) (pid : Nat) (path : String) : Option (Option Stream) :=
  let of (owner : Nat) (number : String) : Option (Option Stream) :=
    number.toNat?.map fun n => m.stream? owner n
  match path.splitOn "/" with
  | ["", "dev", "stdin"] => some (m.stream? pid 0)
  | ["", "dev", "stdout"] => some (m.stream? pid 1)
  | ["", "dev", "stderr"] => some (m.stream? pid 2)
  | ["", "dev", "fd", number] => of pid number
  | ["", "proc", "self", "fd", number] => of pid number
  | ["", "proc", owner, "fd", number] => owner.toNat?.bind fun owner => of owner number
  | _ => none

/-- The link of a stream among the streams of a process, by the path of the link. -/
def streamLink? (m : Machine) (pid : Nat) (path : String) : Option String := do
  match ← (← m.streamAt? pid path) with
  | .device .null => return "/dev/null"
  | .device .zero => return "/dev/zero"
  | .device .full => return "/dev/full"
  | .file id => (m.opened.lookup id).map OpenFile.path
  | .console isError => return if isError then "pipe:[2]" else "pipe:[1]"
  | .pipe id => return s!"pipe:[{id}]"

/-- How a file is opened. -/
inductive Opening where
  /-- To be read. -/
  | read
  /-- To be written from its beginning. -/
  | write
  /-- To be written from its beginning, unless there is one already. -/
  | create
  /-- To be written at its end. -/
  | append
  /-- To be read and written. -/
  | update
  deriving DecidableEq, Repr

/-- The stream that a process gets when it opens a path; a file is made if it is to be written and
there is none. -/
def openPath (m : Machine) (pid : Nat) (path : String) (how : Opening) :
    Except PathFault (Stream × Machine) := do
  let opened (whole : String) (m : Machine) : Stream × Machine :=
    let (id, m) := m.newFile
      { path := whole, appends := how == .append
        readable := how == .read || how == .update, writable := how != .read }
    (.file id, m)
  match m.streamAt? pid path with
  | some (some (.file id)) =>
    match m.opened.lookup id with
    | some f =>
      match m.files.node? f.path, how with
      | some (.file _ x), .write =>
        return opened f.path { m with files := m.files.insert f.path (.file "" x) }
      | _, _ => return opened f.path m
    | none => throw .missing
  | some (some s) => return (s, m)
  | some none => throw .missing
  | none =>
    let whole ← m.files.resolve (m.directoryOf pid) path
    match m.files.node? whole with
    | some .directory => if how = .read then return opened whole m else throw .isDirectory
    | some (.device d) => return (.device d, m)
    | some (.file _ x) =>
      match how with
      | .create => throw .occupied
      | .write => return opened whole { m with files := m.files.insert whole (.file "" x) }
      | _ => return opened whole m
    | some _ => return opened whole m
    | none =>
      match m.files.node? (FileTree.parent whole) with
      | some .directory =>
        if how = .read then throw .missing
        return opened whole { m with files := m.files.insert whole (.file "" false) }
      | some _ => throw .notDirectory
      | none => throw .missing

end Machine

end ServiceHarness
