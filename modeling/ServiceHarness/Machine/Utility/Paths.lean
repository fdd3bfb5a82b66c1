import ServiceHarness.Machine.Utility.Files

/-!
# Utilities on paths

They take paths apart, resolve them, and tell what stands at them and in directories.
-/

namespace ServiceHarness.Utility

/-- The end of what is told, which is a zero where that is asked for. -/
def ending (o : Options) : String :=
  if o.has "zero" then "\x00" else "\n"

/-- Puts out the last parts of paths, without an ending. -/
def basename : Utility := Task.utility fun args => do
  let o ← Task.options
    [.plain 'a' "multiple", .valued 's' "suffix", .plain 'z' "zero"] args 1 true
  let names ← Task.someOperands o
  let isMany := o.has "multiple" || o.has "suffix"
  if !isMany && names.length > 2 then
    let shown := Name.quoted (names.getD 2 "")
    Task.refuse s!"extra operand {shown}"
  let suffix := if isMany then (o.value? "suffix").getD "" else names.getD 1 ""
  for path in if isMany then names else names.take 1 do
    let name := baseName path
    let cut := if suffix ≠ "" ∧ name ≠ suffix ∧ name.endsWith suffix then
        (name.take (name.length - suffix.length)).toString
      else name
    Task.say (cut ++ ending o)

/-- A path without its last part. -/
def directoryName (path : String) : String :=
  let whole := dropSlashes path
  let above := String.ofList (whole.toList.reverse.dropWhile (· != '/')).reverse
  if whole = "" ∧ path ≠ "" then "/"
  else if above = "" then "."
  else if dropSlashes above = "" then "/" else dropSlashes above

/-- Puts out paths without their last parts. -/
def dirname : Utility := Task.utility fun args => do
  let o ← Task.options [.plain 'z' "zero"] args
  for path in ← Task.someOperands o do
    Task.say (directoryName path ++ ending o)

/-- Puts out the directory. -/
def pwd : Utility := Task.utility fun args => do
  let _ ← Task.options [.plain 'L' "logical", .plain 'P' "physical"] args
  Task.say ((← Task.look fun pid m => m.directoryOf pid) ++ "\n")

/-- What has to be there of a path that is resolved. -/
inductive Presence where
  /-- All of it. -/
  | whole
  /-- All but its last part. -/
  | directory
  /-- Nothing. -/
  | nothing
  deriving DecidableEq, Repr

/-- The absolute path that a path stands for. -/
def canonical (p : Presence) (name : String) : Task (Except PathFault String) :=
  Task.look fun pid m =>
    match m.streamLink? pid name with
    | some target => .ok target
    | none =>
      match m.files.resolve (m.directoryOf pid) name with
      | .ok path =>
        if p = .whole && (m.files.node? path).isNone then .error .missing else .ok path
      | .error fault =>
        if p = .nothing && name ≠ "" then .ok (FileTree.normal (m.directoryOf pid) name)
        else .error fault

/-- What an option says has to be there of a path. -/
def presence (o : Options) : Presence :=
  match o.last? ["canonicalize-existing", "canonicalize-missing", "canonicalize"] with
  | some "canonicalize-existing" => .whole
  | some "canonicalize-missing" => .nothing
  | _ => .directory

/-- Tells what links stand for. -/
def readlink : Utility := Task.utility fun args => do
  let o ← Task.options
    [.plain 'f' "canonicalize", .plain 'e' "canonicalize-existing",
      .plain 'm' "canonicalize-missing", .plain 'n' "no-newline", .plain 'q' "quiet",
      .plain 's' "silent", .plain 'v' "verbose", .plain 'z' "zero"] args
  let names ← Task.someOperands o
  let isWhole := o.has "canonicalize" || o.has "canonicalize-existing"
    || o.has "canonicalize-missing"
  let ending := if o.has "no-newline" && names.length = 1 then "" else ending o
  for name in names do
    let result ← if isWhole then canonical (presence o) name
      else do
        match ← Task.look fun pid m => m.streamLink? pid name, ← found false name with
        | some target, _ => pure (.ok target)
        | none, .ok (_, .link target) => pure (.ok target)
        | none, .ok _ => pure (.error .invalid)
        | none, .error fault => pure (.error fault)
    match result with
    | .ok target => Task.say (target ++ ending)
    | .error fault =>
      if o.has "verbose" then
        let shown := Name.shown name
        Task.complain s!"{shown}: {fault.text}"
      else Task.mark 1

/-- Tells the absolute paths for which paths stand. -/
def realpath : Utility := Task.utility fun args => do
  let o ← Task.options
    [.plain 'e' "canonicalize-existing", .plain 'm' "canonicalize-missing", .plain 'q' "quiet",
      .plain 's' "strip", .long "no-symlinks", .plain 'L' "logical", .plain 'P' "physical",
      .plain 'z' "zero"] args
  for name in ← Task.someOperands o do
    let result ← if o.has "strip" || o.has "no-symlinks" then
        Task.look fun pid m => .ok (FileTree.normal (m.directoryOf pid) name)
      else canonical (presence o) name
    match (result : Except PathFault String) with
    | .ok path => Task.say (path ++ ending o)
    | .error fault =>
      let shown := Name.shown name
      if o.has "quiet" then Task.mark 1 else Task.complain s!"{shown}: {fault.text}"

/-! ### Listing -/

/-- The sign behind the name of a node. -/
def sign (o : Options) (node : Option Node) : String :=
  match node with
  | some .directory => if o.has "classify" || o.has "p" then "/" else ""
  | some (.link _) => if o.has "classify" then "@" else ""
  | some (.file _ true) | some (.program _) => if o.has "classify" then "*" else ""
  | _ => ""

/-- The names of a directory that are listed, in their order. -/
def listed (o : Options) (m : Machine) (path : String) : List String :=
  let isShown (name : String) : Bool :=
    o.has "all" || o.has "almost-all" || !name.startsWith "."
  let names := (if o.has "all" then [".", ".."] else []) ++ (m.files.names path).filter isShown
  if o.has "reverse" then names.reverse else names

/-- The text of some names, each with its sign. -/
def layout (o : Options) (names : List String) : String :=
  match o.last? ["one", "m", "across", "columns"] with
  | some "m" => if names.isEmpty then "" else ", ".intercalate names ++ "\n"
  | some "across" | some "columns" =>
    if names.isEmpty then "" else "  ".intercalate names ++ "\n"
  | _ => String.join (names.map (· ++ "\n"))

/-- Lists a directory, and those in it for as many levels as there are. -/
def listDirectory (o : Options) (heading : Bool) : Nat → String → String → Task Unit
  | 0, _, _ => pure ()
  | n + 1, name, path => do
    let names ← Task.look fun _ m => listed o m path
    let nodeOf (m : Machine) (entry : String) : Option Node :=
      if [".", ".."].contains entry then some .directory
      else m.files.node? (FileTree.child path entry)
    let shown ← Task.look fun _ m => names.map fun entry => entry ++ sign o (nodeOf m entry)
    if heading then Task.say (name ++ ":\n")
    Task.say (layout o shown)
    if o.has "recursive" then
      for entry in names do
        if !([".", ".."].contains entry)
            && (← Task.look fun _ m => nodeOf m entry == some .directory) then
          Task.say "\n"
          listDirectory o true n (below name entry) (FileTree.child path entry)

/-- The number of levels down to which directories are listed. -/
def levelLimit : Nat :=
  1000

/-- Lists files, and what is in directories. -/
def ls : Utility := Task.utility fun args => do
  let o ← Task.options
    [.plain 'a' "all", .plain 'A' "almost-all", .plain '1' "one", .plain 'd' "directory",
      .plain 'R' "recursive", .plain 'r' "reverse", .plain 'F' "classify", .plain 'p' "p",
      .plain 'm' "m", .plain 'x' "across", .plain 'C' "columns", .plain 'l' "l", .plain 't' "t",
      .plain 'S' "S", .plain 'U' "U", .plain 'f' "f", .plain 'h' "human-readable",
      .plain 'i' "inode", .plain 's' "size", .plain 'L' "dereference", .plain 'H' "H",
      .plain 'n' "numeric-uid-gid", .plain 'g' "g", .plain 'o' "o", .plain 'G' "no-group",
      .plain 'q' "q", .plain 'Q' "quote-name", .plain 'N' "literal", .plain 'b' "escape",
      .plain 'c' "c", .plain 'u' "u", .plain 'v' "v", .plain 'X' "X", .plain 'k' "kibibytes",
      .plain 'B' "ignore-backups", .plain 'Z' "context", .valued 'w' "width",
      .long "color" .optional, .long "full-time", .long "sort" .required,
      .long "time" .required, .long "group-directories-first"]
    args 2
  let mut files := []
  let mut directories := []
  let operands := if o.operands.isEmpty then ["."] else o.operands.mergeSort fun a b => a ≤ b
  for name in if o.has "reverse" then operands.reverse else operands do
    match ← found (!o.has "directory") name, ← found false name with
    | .ok (path, .directory), _ =>
      if o.has "directory" then files := (name ++ sign o (some .directory)) :: files
      else directories := (name, path) :: directories
    | .ok (_, node), _ => files := (name ++ sign o (some node)) :: files
    | .error _, .ok (_, node) => files := (name ++ sign o (some node)) :: files
    | .error fault, .error _ => do
      let shown := Name.quoted name
      Task.complain s!"cannot access {shown}: {fault.text}" 2
  Task.say (layout o files.reverse)
  let isMany := operands.length > 1 || o.has "recursive"
  for ((name, path), i) in directories.reverse.zipIdx do
    if i > 0 || !files.isEmpty then Task.say "\n"
    listDirectory o isMany levelLimit name path

/-! ### Looking up -/

/-- Tells the files that programs are. -/
def which : Utility := Task.utility fun args => do
  let o ← Task.options [.plain 'a' "all", .plain 's' "silent"] args 2 true
  if o.operands.isEmpty then Task.mark 1
  let environment := (← read).environment
  for name in o.operands do
    let image : Image := ⟨name, [], environment, true⟩
    match ← Task.look fun pid m => image.search m pid with
    | .ok (path, _) => if !o.has "silent" then Task.say (path ++ "\n")
    | .error _ => Task.mark 1

/-- What a node is called. -/
def kindOf : Node → String
  | .directory => "directory"
  | .file "" _ => "regular empty file"
  | .file .. | .program _ => "regular file"
  | .device _ => "character special file"
  | .link _ => "symbolic link"

/-- The permissions at a node, and the letter of its kind. -/
def accessOf : Node → Nat × Char
  | .directory => (493, 'd')
  | .file _ x => (modeOf x, '-')
  | .program _ => (493, '-')
  | .device _ => (438, 'c')
  | .link _ => (511, 'l')

/-- The permissions with a letter or a dash for each. -/
def accessText (node : Node) : String :=
  let (mode, kind) := accessOf node
  let one (shift : Nat) (letter : Char) : Char :=
    if Nat.testBit mode shift then letter else '-'
  String.ofList (kind :: [one 8 'r', one 7 'w', one 6 'x', one 5 'r', one 4 'w', one 3 'x',
    one 2 'r', one 1 'w', one 0 'x'])

/-- The number of bytes of a node. -/
def sizeOf_ : Node → Nat
  | .directory => 4096
  | .file text _ => text.utf8ByteSize
  | .link target => target.utf8ByteSize
  | _ => 0

/-- A format with what it asks for about a node. -/
def described (name : String) (node : Node) : List Char → String
  | '%' :: c :: rest =>
    let value := match c with
      | 'n' => name
      | 'N' => match node with
        | .link target => arrow name target
        | _ => Name.quoted name
      | 's' => toString (sizeOf_ node)
      | 'F' => kindOf node
      | 'a' => Text.Permission.octal 1 (accessOf node).1
      | 'A' => accessText node
      | 'u' | 'g' => "0"
      | 'U' | 'G' => "root"
      | 'h' => if node = .directory then "2" else "1"
      | '%' => "%"
      | _ => "?"
    value ++ described name node rest
  | c :: rest => String.ofList [c] ++ described name node rest
  | [] => ""

/-- Tells about files. -/
def stat : Utility := Task.utility fun args => do
  let o ← Task.options
    [.valued 'c' "format", .long "printf" .required, .plain 'L' "dereference", .plain 't' "terse",
      .plain 'f' "file-system"] args
  for name in ← Task.someOperands o do
    match ← found (o.has "dereference") name with
    | .error fault =>
      let shown := Name.quoted name
      Task.complain s!"cannot statx {shown}: {fault.text}"
    | .ok (_, node) =>
      match o.value? "format", o.value? "printf" with
      | some format, _ => Task.say (described name node format.toList ++ "\n")
      | none, some format => Task.say (described name node format.toList)
      | none, none =>
        let (size, kind) := (sizeOf_ node, kindOf node)
        Task.say s!"  File: {name}\n  Size: {size}\t{kind}\n"

end ServiceHarness.Utility
