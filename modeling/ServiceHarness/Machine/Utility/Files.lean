import ServiceHarness.Machine.Utility.Options
import ServiceHarness.Text.Numeral
import ServiceHarness.Text.Permission

/-!
# Utilities that change the file tree

They make, remove, copy, move and link files and directories.
-/

namespace ServiceHarness.Utility

/-- A path as it was given, the absolute path that it stands for, and what stands there. -/
structure Spot where
  /-- The path as it was given. -/
  name : String
  /-- The absolute path. -/
  path : String
  /-- What stands there. -/
  node : Option Node

/-- The spot of a path; a link at its end may stand for itself. -/
def spot (followsLast : Bool) (name : String) : Task (Except PathFault Spot) :=
  Task.look fun pid m => do
    let path ← m.files.follow followsLast (m.directoryOf pid) name
    return ⟨name, path, m.files.node? path⟩

/-- The absolute path and the node of what is there under a name. -/
def found (followsLast : Bool) (name : String) : Task (Except PathFault (String × Node)) := do
  match ← spot followsLast name with
  | .error fault => return .error fault
  | .ok ⟨_, _, none⟩ => return .error .missing
  | .ok ⟨_, path, some node⟩ => return .ok (path, node)

/-- Whether a name stands for a directory, or for a link to one. -/
def isDirectory (name : String) : Task Bool := do
  match ← found true name with
  | .ok (_, .directory) => return true
  | _ => return false

/-- Why nothing can be made at a spot, if there is nothing yet. -/
def obstacle? (s : Spot) : Task (Option PathFault) :=
  Task.look fun _ m => match m.files.node? (FileTree.parent s.path) with
    | some .directory =>
      if s.node.isNone && s.name.endsWith "/" then some .notDirectory else none
    | some _ => some .notDirectory
    | none => some .missing

/-- A path without the slashes at its end. -/
def dropSlashes (path : String) : String :=
  String.ofList (path.toList.reverse.dropWhile (· == '/')).reverse

/-- The last part of a path. -/
def baseName (path : String) : String :=
  let whole := dropSlashes path
  if whole = "" ∧ path ≠ "" then "/" else FileTree.name whole

/-- The path of a name below another path. -/
def below (path name : String) : String :=
  if path.endsWith "/" then path ++ name else path ++ "/" ++ name

/-! ### Making and removing -/

/-- Makes files that are not there. -/
def touch : Utility := Task.utility fun args => do
  let o ← Task.options
    [.plain 'c' "no-create", .plain 'a' "access", .plain 'm' "modification", .plain 'f' "f",
      .plain 'h' "no-dereference", .valued 'd' "date", .valued 'r' "reference", .valued 't' "t"]
    args
  if o.operands.isEmpty then Task.refuse "missing file operand"
  for name in o.operands do
    match ← spot true name with
    | .error fault =>
      if !(o.has "no-create" && fault = .missing) then
        let shown := Name.quoted name
        if name.endsWith "/" && fault = .missing then
          Task.complain s!"setting times of {shown}: {fault.text}"
        else Task.complain s!"cannot touch {shown}: {fault.text}"
    | .ok s =>
      if s.node.isNone && !o.has "no-create" then
        match ← obstacle? s with
        | some fault => do
          let shown := Name.quoted name
          Task.complain s!"cannot touch {shown}: {fault.text}"
        | none => Task.updateFiles (·.insert s.path (.file "" false))

/-- Makes a directory, and those above it. -/
def makeAll (isTold : Bool) (name : String) : Task Unit := do
  let parts := (name.splitOn "/").filter (· != "")
  let root := if name.startsWith "/" then "/" else ""
  let mut way := root
  for (part, i) in parts.zipIdx do
    way := if i = 0 then root ++ part else below way part
    let shown := Name.quoted way
    match ← spot true way with
    | .error fault => return ← Task.complain s!"cannot create directory {shown}: {fault.text}"
    | .ok ⟨_, path, none⟩ =>
      Task.updateFiles (·.insert path .directory)
      if isTold then Task.say s!"mkdir: created directory {shown}\n"
    | .ok ⟨_, _, some .directory⟩ => pure ()
    | .ok _ =>
      let fault := if i + 1 = parts.length then PathFault.occupied else .notDirectory
      return ← Task.complain s!"cannot create directory {shown}: {fault.text}"

/-- Makes directories, and those above them if asked to. -/
def mkdir : Utility := Task.utility fun args => do
  let o ← Task.options
    [.plain 'p' "parents", .plain 'v' "verbose", .valued 'm' "mode", .plain 'Z' "Z"] args
  for name in ← Task.someOperands o do
    if o.has "parents" then makeAll (o.has "verbose") name
    else
      let shown := Name.quoted name
      match ← spot true (dropSlashes name) with
      | .error fault => Task.complain s!"cannot create directory {shown}: {fault.text}"
      | .ok s =>
        match s.node, ← obstacle? s with
        | some _, _ =>
          Task.complain s!"cannot create directory {shown}: {PathFault.occupied.text}"
        | none, some fault => Task.complain s!"cannot create directory {shown}: {fault.text}"
        | none, none =>
          Task.updateFiles (·.insert s.path .directory)
          if o.has "verbose" then Task.say s!"mkdir: created directory {shown}\n"

/-- Removes an empty directory; tells whether that was possible. -/
def removeDirectory (o : Options) (name : String) : Task Bool := do
  let shown := Name.quoted name
  if o.has "verbose" then Task.say s!"rmdir: removing directory, {shown}\n"
  let fail (fault : PathFault) : Task Bool := do
    if !(fault = .notEmpty && o.has "ignore-fail-on-non-empty") then
      Task.complain s!"failed to remove {shown}: {fault.text}"
    return false
  match ← found false name with
  | .error fault => fail fault
  | .ok (path, .directory) =>
    if baseName name = "." then fail .invalid
    else if (← Task.look fun _ m => (m.files.names path).isEmpty) then
      Task.updateFiles (·.erase path)
      return true
    else fail .notEmpty
  | .ok _ => fail .notDirectory

/-- The paths above a relative path, the nearest first, for the number of its parts. -/
def ancestors (name : String) : Nat → List String
  | 0 => []
  | n + 1 =>
    let above := dropSlashes
      (String.ofList ((dropSlashes name).toList.reverse.dropWhile (· != '/')).reverse)
    if above = "" then [] else above :: ancestors above n

/-- Removes empty directories, and those above them if asked to. -/
def rmdir : Utility := Task.utility fun args => do
  let o ← Task.options
    [.plain 'p' "parents", .plain 'v' "verbose", .long "ignore-fail-on-non-empty"] args
  for name in ← Task.someOperands o do
    let mut isGone ← removeDirectory o name
    if o.has "parents" then
      for above in ancestors name name.length do
        if isGone then isGone := ← removeDirectory o above

/-- The absolute paths at and below a path, in ascending order. -/
def pathsWithin (t : FileTree) (path : String) : List String :=
  (t.entries.filter fun e => FileTree.isWithin path e.1).map (·.1)

/-- Tells that something has been removed. -/
def tellRemoved (name : String) (node : Option Node) : Task Unit :=
  let shown := Name.quoted name
  Task.say (if node = some .directory then s!"removed directory {shown}\n"
    else s!"removed {shown}\n")

/-- Removes a directory and all that is in it. -/
def removeAll (isTold : Bool) (name path : String) : Task Unit := do
  if isTold then
    for p in (← Task.look fun _ m => pathsWithin m.files path).reverse do
      let node ← Task.look fun _ m => m.files.node? p
      tellRemoved (dropSlashes name ++ (p.drop path.length).toString) node
  Task.updateFiles (·.prune path)

/-- Removes files, and directories with all that is in them if asked to. -/
def rm : Utility := Task.utility fun args => do
  let o ← Task.options
    [.plain 'f' "force", .plain 'r' "recursive", .plain 'R' "R", .plain 'd' "dir",
      .plain 'v' "verbose", .plain 'i' "i", .plain 'I' "I", .long "interactive" .optional,
      .long "no-preserve-root", .long "preserve-root" .optional, .long "one-file-system"] args
  if o.operands.isEmpty && !o.has "force" then Task.refuse "missing operand"
  let isDeep := o.has "recursive" || o.has "R"
  for name in o.operands do
    let shown := Name.quoted name
    let fail (fault : PathFault) : Task Unit :=
      Task.complain s!"cannot remove {shown}: {fault.text}"
    match ← found false name with
    | .error fault =>
      if !(o.has "force" && (fault = .missing || fault = .notDirectory)) then fail fault
    | .ok (path, .directory) =>
      if isDeep && path = "/" then
        Task.complain s!"it is dangerous to operate recursively on {shown}"
        Task.tell "rm: use --no-preserve-root to override this failsafe"
      else if isDeep && [".", ".."].contains (baseName name) then
        Task.complain s!"refusing to remove '.' or '..' directory: skipping {shown}"
      else if isDeep then removeAll (o.has "verbose") name path
      else if !o.has "dir" then fail .isDirectory
      else if (← Task.look fun _ m => (m.files.names path).isEmpty) then
        removeAll (o.has "verbose") name path
      else fail .notEmpty
    | .ok (path, _) =>
      Task.updateFiles (·.erase path)
      if o.has "verbose" then tellRemoved name none

/-- Removes a file. -/
def unlink : Utility := Task.utility fun args => do
  let o ← Task.options [] args
  match ← Task.someOperands o with
  | [name] =>
    let shown := Name.quoted name
    match ← found false name with
    | .error fault => Task.complain s!"cannot unlink {shown}: {fault.text}"
    | .ok (_, .directory) => Task.complain s!"cannot unlink {shown}: {PathFault.isDirectory.text}"
    | .ok (path, _) => Task.updateFiles (·.erase path)
  | names => do
    let shown := Name.quoted (names.getD 1 "")
    Task.refuse s!"extra operand {shown}"

/-! ### Copying, moving and linking -/

/-- How files are brought to another place. -/
inductive Transfer where
  /-- They are copied. -/
  | copy
  /-- They are moved. -/
  | move
  deriving DecidableEq, Repr

/-- The sources and where each of them goes, by the last operand or by an option. -/
def destinations (o : Options) : Task (List (String × String)) := do
  let inside (target : String) (names : List String) : List (String × String) :=
    names.map fun name => (name, below target (baseName name))
  match o.value? "target-directory", o.operands.reverse with
  | _, [] => Task.refuse "missing file operand"
  | some target, _ =>
    match ← found true target with
    | .ok (_, .directory) => return inside target o.operands
    | result =>
      let fault := match result with
        | .error fault => fault
        | .ok _ => .notDirectory
      let shown := Name.quoted target
      Task.fail s!"target directory {shown}: {fault.text}"
  | none, [name] => do
    let shown := Name.quoted name
    Task.refuse s!"missing destination file operand after {shown}"
  | none, [target, name] =>
    if !o.has "no-target-directory" && (← isDirectory target) then return inside target [name]
    else return [(name, target)]
  | none, target :: names =>
    let shown := Name.quoted target
    match ← found true target with
    | .ok (_, .directory) => return inside target names.reverse
    | .ok _ => Task.fail s!"target {shown}: {PathFault.notDirectory.text}"
    | .error fault => Task.fail s!"target {shown}: {fault.text}"

/-- The tree in which also `target` has what a path has; what is there already is kept where it is a
directory. -/
def copied (t : FileTree) (path target : String) : FileTree :=
  (pathsWithin t path).foldl
    (fun after p =>
      match t.node? p with
      | some node => after.insert (target ++ (p.drop path.length).toString) node
      | none => after)
    t

/-- What is told when something is brought from a name to another. -/
def arrow (source target : String) : String :=
  let (a, b) := (Name.quoted source, Name.quoted target)
  s!"{a} -> {b}"

/-- Brings what is at a spot to another one. -/
def carry (how : Transfer) (o : Options) (source : String) (path : String) (node : Node)
    (target : Spot) : Task Unit := do
  let t := target.path
  let isTold := o.has "verbose"
  match how with
  | .move =>
    Task.updateFiles fun f => (f.prune t |>.graft path t).prune path
    if isTold then Task.say ("renamed " ++ arrow source target.name ++ "\n")
  | .copy =>
    if isTold then
      for p in ← Task.look fun _ m => pathsWithin m.files path do
        let rest := (p.drop path.length).toString
        Task.say (arrow (source ++ rest) (target.name ++ rest) ++ "\n")
    let node : Node := match node, target.node with
      | .file text _, some (.file _ x) => .file text x
      | .program _, some (.file _ x) => .file "" x
      | node, _ => node
    if node = .directory then Task.updateFiles fun f => copied f path t
    else match target.node, node with
      | some (.device _), _ => pure ()
      | _, .device _ => Task.updateFiles (·.insert t (.file "" false))
      | _, node => Task.updateFiles (·.insert t node)

/-- Brings what a name stands for to a spot, if nothing is in the way. -/
def transferOne (how : Transfer) (o : Options) (source destination : String) : Task Unit := do
  let isDeep := o.has "recursive" || o.has "R" || o.has "archive"
  let keepsLinks := how = .move || o.has "archive" || o.has "d" || o.has "no-dereference"
    || (isDeep && !o.has "dereference" && !o.has "H")
  let (a, b) := (Name.quoted source, Name.quoted destination)
  match ← found (!keepsLinks) source with
  | .error fault => Task.complain s!"cannot stat {a}: {fault.text}"
  | .ok (path, node) =>
    let isTree := node = .directory
    if isTree && how = .copy && !isDeep then
      return ← Task.complain s!"-r not specified; omitting directory {a}"
    let isPresent ← Task.look fun _ m => isTree && m.files.node? path == some .directory
    let name := if isPresent then dropSlashes destination else destination
    match ← spot (how = .copy && !keepsLinks) name with
    | .error fault =>
      Task.complain (if how = .move then s!"cannot move {a} to {b}: {fault.text}"
        else if isTree then s!"cannot create directory {b}: {fault.text}"
        else if fault = .missing && destination.endsWith "/" then
          s!"cannot create regular file {b}: {PathFault.notDirectory.text}"
        else s!"cannot create regular file {b}: {fault.text}")
    | .ok target =>
      let fault? ← if target.node.isSome then pure none else obstacle? target
      if o.last? ["no-clobber", "force", "interactive"] = some "no-clobber"
          && target.node.isSome then
        if how = .copy then
          let name := (← read).name
          Task.tell
            (s!"{name}: warning: behavior of -n is non-portable and may change in future; "
              ++ "use --update=none instead")
        return
      if isTree && target.path ≠ path && FileTree.isWithin path target.path then
        return ← Task.complain
          (if how = .move then s!"cannot move {a} to a subdirectory of itself, {b}"
            else s!"cannot copy a directory, {a}, into itself, {b}")
      if target.path = path then
        return ← Task.complain s!"{a} and {b} are the same file"
      match target.node, fault? with
      | some .directory, _ =>
        if !isTree then Task.complain s!"cannot overwrite directory {b} with non-directory"
        else if how = .move
            && !(← Task.look fun _ m => (m.files.names target.path).isEmpty) then
          Task.complain s!"cannot overwrite {b}: {PathFault.notEmpty.text}"
        else carry how o source path node target
      | some _, _ =>
        if isTree then Task.complain s!"cannot overwrite non-directory {b} with directory {a}"
        else carry how o source path node target
      | none, some fault =>
        Task.complain (if how = .move then s!"cannot move {a} to {b}: {fault.text}"
          else if isTree then s!"cannot create directory {b}: {fault.text}"
          else s!"cannot create regular file {b}: {fault.text}")
      | none, none => carry how o source path node target

/-- The switches of the utilities that bring files to another place. -/
def transferSwitches : List Switch :=
  [.plain 'f' "force", .plain 'i' "interactive", .plain 'n' "no-clobber", .plain 'v' "verbose",
    .plain 'u' "update", .plain 'T' "no-target-directory", .valued 't' "target-directory",
    .plain 'b' "b", .long "backup" .optional, .valued 'S' "suffix",
    .long "strip-trailing-slashes"]

/-- Copies files. -/
def cp : Utility := Task.utility fun args => do
  let o ← Task.options
    (transferSwitches ++ [.plain 'r' "recursive", .plain 'R' "R", .plain 'a' "archive",
      .plain 'd' "d", .plain 'P' "no-dereference", .plain 'L' "dereference", .plain 'H' "H",
      .plain 'p' "p", .long "preserve" .optional, .plain 'l' "link", .plain 's' "symbolic-link",
      .plain 'x' "one-file-system", .long "parents", .long "sparse" .required])
    args
  for (source, target) in ← destinations o do
    transferOne .copy o source target

/-- Moves files. -/
def mv : Utility := Task.utility fun args => do
  let o ← Task.options transferSwitches args
  for (source, target) in ← destinations o do
    transferOne .move o source target

/-- The names to be linked to, and the name of each link. -/
def linkPlaces (o : Options) : Task (List (String × String)) := do
  match o.value? "target-directory", o.operands with
  | _, [] => Task.refuse "missing file operand"
  | none, [name] => return [(name, baseName name)]
  | _, _ =>
    if o.operands.length = 2 && o.has "no-dereference" then
      match ← found false (o.operands.getD 1 "") with
      | .ok (_, .link _) => return [(o.operands.headD "", o.operands.getD 1 "")]
      | _ => destinations o
    else destinations o

/-- Makes a link at a spot. -/
def linkAt (o : Options) (name destination : String) (node : Node) (place : Spot) :
    Task Unit := do
  let kind := if o.has "symbolic" then "symbolic" else "hard"
  let (a, b) := (Name.quoted name, Name.quoted destination)
  let fail (fault : PathFault) : Task Unit :=
    if o.has "symbolic" then Task.complain s!"failed to create {kind} link {b}: {fault.text}"
    else if fault = .occupied then
      Task.complain s!"failed to create {kind} link {b}: {fault.text}"
    else Task.complain s!"failed to create {kind} link {b} => {a}: {fault.text}"
  match place.node, ← obstacle? place with
  | some .directory, _ =>
    if o.has "force" then Task.complain s!"{destination}: cannot overwrite directory"
    else fail .occupied
  | some _, _ =>
    if o.has "force" then Task.updateFiles (·.insert place.path node) else fail .occupied
  | none, some fault => fail (if fault = .notDirectory then .missing else fault)
  | none, none => Task.updateFiles (·.insert place.path node)
  let isMade ← Task.look fun _ m => m.files.node? place.path == some node
  if isMade && o.has "verbose" then
    Task.say (if o.has "symbolic" then s!"{b} -> {a}\n" else s!"{b} => {a}\n")

/-- Makes links. -/
def ln : Utility := Task.utility fun args => do
  let o ← Task.options
    [.plain 's' "symbolic", .plain 'f' "force", .plain 'n' "no-dereference", .plain 'v' "verbose",
      .plain 'T' "no-target-directory", .valued 't' "target-directory", .plain 'i' "interactive",
      .plain 'r' "relative", .plain 'b' "b", .plain 'L' "logical", .plain 'P' "physical"]
    args
  for (name, destination) in ← linkPlaces o do
    let b := Name.quoted destination
    match ← spot false destination with
    | .error fault => Task.complain s!"failed to create symbolic link {b}: {fault.text}"
    | .ok place =>
      if o.has "symbolic" then linkAt o name destination (.link name) place
      else
        let a := Name.quoted name
        match ← found false name with
        | .error fault => Task.complain s!"failed to access {a}: {fault.text}"
        | .ok (_, .directory) => Task.complain s!"{name}: hard link not allowed for directory"
        | .ok (_, node) => linkAt o name destination node place

/-! ### Modes, lengths and names -/

/-- The permissions of a file that may be executed or not. -/
def modeOf (isExecutable : Bool) : Nat :=
  if isExecutable then 493 else 420

/-- Makes files executable or takes that away. -/
def chmod : Utility := Task.utility fun args => do
  let isMode (arg : String) : Bool := match arg.toList with
    | '-' :: c :: _ => "rwxXst".contains c
    | _ => false
  let o ← Task.options
    [.plain 'R' "recursive", .plain 'v' "verbose", .plain 'c' "changes", .plain 'f' "silent",
      .long "quiet"]
    (if args.any isMode && !args.contains "--" then "--" :: args else args)
  match ← Task.someOperands o with
  | [mode] => do
    let shown := Name.quoted mode
    Task.refuse s!"missing operand after {shown}"
  | mode :: names =>
    let change? (isExecutable : Bool) : Option Bool :=
      let bits? := if mode.toList.all Char.isDigit then Text.natural? 8 mode.toList
        else Text.Permission.change? mode (modeOf isExecutable)
      bits?.map fun bits => Nat.testBit bits 0 || Nat.testBit bits 3 || Nat.testBit bits 6
    if (change? false).isNone then
      let shown := Name.quoted mode
      Task.refuse s!"invalid mode: {shown}"
    for name in names do
      match ← found true name with
      | .error fault =>
        let shown := Name.quoted name
        if o.has "silent" || o.has "quiet" then Task.mark 1
        else Task.complain s!"cannot access {shown}: {fault.text}"
      | .ok (path, _) =>
        let paths ← if o.has "recursive" then Task.look fun _ m => pathsWithin m.files path
          else pure [path]
        for p in paths do
          match ← Task.look fun _ m => m.files.node? p with
          | some (.file text x) =>
            Task.updateFiles (·.insert p (.file text ((change? x).getD x)))
          | _ => pure ()
  | [] => pure ()

/-- The factor of a suffix of a size. -/
def sizeUnit? : List Char → Option Nat
  | [] => some 1
  | ['b'] => some 512
  | letter :: rest => do
    let exponent ← [('k', 1), ('K', 1), ('M', 2), ('m', 2), ('G', 3), ('T', 4)].lookup letter
    match rest with
    | [] | ['i', 'B'] => some (Nat.pow 1024 exponent)
    | ['B'] => some (Nat.pow 1000 exponent)
    | _ => none

/-- The number that a size writes. -/
def size? (text : String) : Option Nat := do
  let cs := text.toList
  let digits := cs.takeWhile Char.isDigit
  let n ← Text.natural? 10 digits
  return n * (← sizeUnit? (cs.drop digits.length))

/-- A text cut or filled with zeros to a length. -/
def resized (text : String) (n : Nat) : String :=
  String.ofList (text.toList.take n ++ List.replicate (n - text.length) '\x00')

/-- Gives files a length. -/
def truncate : Utility := Task.utility fun args => do
  let o ← Task.options
    [.valued 's' "size", .valued 'r' "reference", .plain 'c' "no-create", .plain 'o' "io-blocks"]
    args
  let size ← match o.value? "size" with
    | some size => pure size
    | none => Task.refuse "you must specify either '--size' or '--reference'"
  let cs := size.toList.dropWhile (· == ' ')
  let sign := if "+-<>/%".contains (cs.headD '0') then cs.headD '0' else '='
  let digits := String.ofList (if sign = '=' then cs else cs.drop 1)
  let n ← match size? digits with
    | some n => pure n
    | none => do
      let shown := Name.quoted size
      Task.fail s!"Invalid number: {shown}"
  if o.operands.isEmpty then Task.refuse "missing file operand"
  for name in o.operands do
    let shown := Name.quoted name
    let fail (fault : PathFault) : Task Unit :=
      Task.complain s!"cannot open {shown} for writing: {fault.text}"
    match ← spot true name with
    | .error fault => fail fault
    | .ok s =>
      let length (old : Nat) : Nat := match sign with
        | '+' => old + n
        | '-' => old - n
        | '<' => min old n
        | '>' => max old n
        | '/' => old / n * n
        | '%' => (old + n - 1) / n * n
        | _ => n
      match s.node, ← obstacle? s with
      | some .directory, _ => fail .isDirectory
      | some (.file text x), _ =>
        Task.updateFiles (·.insert s.path (.file (resized text (length text.length)) x))
      | some _, _ => pure ()
      | none, some fault => fail fault
      | none, none =>
        if !o.has "no-create" then
          Task.updateFiles (·.insert s.path (.file (resized "" (length 0)) false))

/-- The characters that stand in the names of new files. -/
def nameLetters : List Char :=
  "0123456789abcdefghijklmnopqrstuvwxyzABCDEFGHIJKLMNOPQRSTUVWXYZ".toList

/-- So many characters that depend on a number. -/
def letters : (count : Nat) → (seed : Nat) → List Char
  | 0, _ => []
  | n + 1, seed =>
    let next := (seed * 1103515245 + 12345) % 2147483648
    nameLetters.getD (next / 65536 % nameLetters.length) 'x' :: letters n next

/-- A template with other characters for the last places that are marked for that, and the number
of these. -/
def filledTemplate (template : String) (seed : Nat) : String × Nat :=
  let reversed := template.toList.reverse
  let after := reversed.takeWhile (· != 'X')
  let marks := (reversed.drop after.length).takeWhile (· == 'X')
  let before := reversed.drop (after.length + marks.length)
  (String.ofList (before.reverse ++ letters marks.length seed ++ after.reverse), marks.length)

/-- Makes a file or a directory with a name that is new. -/
def mktemp : Utility := Task.utility fun args => do
  let o ← Task.options
    [.plain 'd' "directory", .plain 'u' "dry-run", .plain 'q' "quiet", .plain 't' "t",
      .valued 'p' "p", .long "tmpdir" .optional, .long "suffix" .required] args
  let given := o.operands.head?
  let template := given.getD "tmp.XXXXXXXXXX" ++ (o.value? "suffix").getD ""
  let isBelow := given.isNone || o.has "t" || o.has "p" || o.has "tmpdir"
  let directory := (o.value? "p").getD ((o.value? "tmpdir").getD "/tmp")
  let whole := if isBelow then below directory template else template
  let seed ← Task.act fun _ m => (m.next, { m with next := m.next + 1 })
  let (name, marks) := filledTemplate whole seed
  if marks < 3 then
    let shown := Name.quoted template
    Task.fail s!"too few X's in template {shown}"
  if !o.has "dry-run" then
    let what := if o.has "directory" then "directory" else "file"
    let fail (fault : PathFault) : Task Unit :=
      let shown := Name.quoted whole
      if o.has "quiet" then Task.quit 1
      else Task.fail s!"failed to create {what} via template {shown}: {fault.text}"
    match ← spot true name with
    | .error fault => fail fault
    | .ok s =>
      match ← obstacle? s with
      | some fault => fail fault
      | none =>
        Task.updateFiles
          (·.insert s.path (if o.has "directory" then .directory else .file "" false))
  Task.say (name ++ "\n")

end ServiceHarness.Utility
