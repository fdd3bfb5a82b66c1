import ServiceHarness.KeyMap

/-!
# File trees

A `FileTree` gives absolute paths their nodes.  `resolve` walks a path from a directory, by
way of `.`, `..` and links, to the absolute path that it stands for, and `read` gives the contents
of a file.  A `PathFault` tells why a path leads nowhere.
-/

namespace ServiceHarness

/-- A device. -/
inductive Device where
  /-- It takes everything and gives nothing. -/
  | null
  /-- It gives zeros without end. -/
  | zero
  /-- It takes nothing. -/
  | full
  deriving DecidableEq, Repr

/-- What stands at a path. -/
inductive Node where
  /-- A directory. -/
  | directory
  /-- A file with its contents, and whether it may be executed. -/
  | file (contents : String) (executable : Bool)
  /-- A device. -/
  | device (device : Device)
  /-- A program that is not a script. -/
  | program (name : String)
  /-- A link to another path. -/
  | link (target : String)
  deriving DecidableEq, Repr

/-- Why a path cannot be used. -/
inductive PathFault where
  /-- There is nothing. -/
  | missing
  /-- A part of the path is no directory. -/
  | notDirectory
  /-- The use is not permitted. -/
  | denied
  /-- The path is a directory. -/
  | isDirectory
  /-- There is something already. -/
  | occupied
  /-- The directory is not empty. -/
  | notEmpty
  /-- The file is no program. -/
  | badFormat
  /-- A name in the path has too many bytes. -/
  | nameTooLong
  /-- The path leads from link to link too often. -/
  | tooManyLinks
  /-- The stream is closed. -/
  | closed
  /-- The use makes no sense for what is there. -/
  | invalid
  deriving DecidableEq, Repr

namespace PathFault

/-- The wording of the system. -/
def text : PathFault → String
  | .missing => "No such file or directory"
  | .notDirectory => "Not a directory"
  | .denied => "Permission denied"
  | .isDirectory => "Is a directory"
  | .occupied => "File exists"
  | .notEmpty => "Directory not empty"
  | .badFormat => "Exec format error"
  | .nameTooLong => "File name too long"
  | .tooManyLinks => "Too many levels of symbolic links"
  | .closed => "Bad file descriptor"
  | .invalid => "Invalid argument"

/-- The number of the system for it. -/
def number : PathFault → Nat
  | .missing => 2
  | .notDirectory => 20
  | .denied => 13
  | .isDirectory => 21
  | .occupied => 17
  | .notEmpty => 39
  | .badFormat => 8
  | .nameTooLong => 36
  | .tooManyLinks => 40
  | .closed => 9
  | .invalid => 22

/-- The wording with the number. -/
def message (f : PathFault) : String :=
  s!"{f.text} (os error {f.number})"

end PathFault

/-- The nodes at absolute paths; the root directory is always there. -/
abbrev FileTree := KeyMap Node

namespace FileTree

/-- The path of a name in a directory. -/
def child (directory name : String) : String :=
  if directory = "/" then "/" ++ name else directory ++ "/" ++ name

/-- The path of the directory that holds an absolute path. -/
def parent (path : String) : String :=
  let kept := (path.toList.reverse.dropWhile (· != '/')).drop 1
  if kept.isEmpty then "/" else String.ofList kept.reverse

/-- The name of an absolute path in its directory. -/
def name (path : String) : String :=
  String.ofList (path.toList.reverse.takeWhile (· != '/')).reverse

/-- The node at an absolute path. -/
def node? (t : FileTree) (path : String) : Option Node :=
  if path = "/" then some .directory else t.get? path

/-- The number of bytes that a name may have. -/
def nameLimit : Nat :=
  255

/-- The number of bytes that a path may have. -/
def pathLimit : Nat :=
  4095

/-- The number of links by way of which a path may lead. -/
def linkLimit : Nat :=
  40

/-- The absolute path to which the parts of a path lead from a directory, by way of so many links
at most.  Every part but the last has to be a directory, or a link to one; a link that is the last
part may stand for itself. -/
def walk (t : FileTree) (followsLast : Bool) (links : Nat) (here : String) :
    List String → Except PathFault String
  | [] => .ok here
  | part :: rest =>
    match t.node? here with
    | none => .error .missing
    | some .directory =>
      if part = "" ∨ part = "." then walk t followsLast links here rest
      else if part = ".." then walk t followsLast links (parent here) rest
      else if nameLimit < part.utf8ByteSize then .error .nameTooLong
      else
        let next := child here part
        match t.node? next with
        | some (.link target) =>
          if rest.isEmpty && !followsLast then .ok next
          else match links with
            | 0 => .error .tooManyLinks
            | links + 1 =>
              walk t followsLast links (if target.startsWith "/" then "/" else here)
                (target.splitOn "/" ++ rest)
        | _ => walk t followsLast links next rest
    | some _ => .error .notDirectory
  termination_by parts => (links, parts.length)

/-- The absolute path to which a path leads from a directory; a link at its end may stand for
itself. -/
def follow (t : FileTree) (followsLast : Bool) (directory path : String) :
    Except PathFault String :=
  if path = "" then .error .missing
  else if pathLimit < path.utf8ByteSize then .error .nameTooLong
  else
    t.walk followsLast linkLimit (if path.startsWith "/" then "/" else directory)
      (path.splitOn "/")

/-- The absolute path that a path stands for in a directory. -/
def resolve (t : FileTree) (directory path : String) : Except PathFault String :=
  t.follow true directory path

/-- The absolute path that a path stands for in a directory, where a link at its end stands for
itself. -/
def entry (t : FileTree) (directory path : String) : Except PathFault String :=
  t.follow false directory path

/-- The node to which a path leads from a directory. -/
def lookup (t : FileTree) (directory path : String) : Except PathFault Node := do
  match t.node? (← t.resolve directory path) with
  | some n => return n
  | none => throw .missing

/-- The contents of the file to which a path leads. -/
def read (t : FileTree) (directory path : String) : Except PathFault String := do
  match ← t.lookup directory path with
  | .file contents _ => return contents
  | .directory => throw .isDirectory
  | _ => return ""

/-- The absolute path that a path would stand for in a directory if everything on the way were
a directory. -/
def normal (directory path : String) : String :=
  (path.splitOn "/").foldl
    (fun here part =>
      if part = "" ∨ part = "." then here
      else if part = ".." then parent here
      else child here part)
    (if path.startsWith "/" then "/" else directory)

/-- The tree with a directory at an absolute path, and with all directories above it. -/
def makeDirectories (t : FileTree) (path : String) : FileTree :=
  ((path.splitOn "/").filter (· != "")).foldl
    (fun acc part =>
      let here := child acc.1 part
      (here, if acc.2.node? here = none then acc.2.insert here .directory else acc.2))
    ("/", t) |>.2

/-- The tree with a node at an absolute path, in directories that are made if need be. -/
def place (t : FileTree) (path : String) (n : Node) : FileTree :=
  (t.makeDirectories (parent path)).insert path n

/-- The node at the path that a path stands for in a directory, where a link at its end stands for
itself. -/
def lookupEntry (t : FileTree) (directory path : String) : Except PathFault Node := do
  match t.node? (← t.entry directory path) with
  | some n => return n
  | none => throw .missing

/-- The names in a directory, in ascending order. -/
def names (t : FileTree) (directory : String) : List String :=
  t.entries.filterMap fun e => if parent e.1 = directory then some (name e.1) else none

/-- Whether an absolute path is another one or lies below it. -/
def isWithin (above path : String) : Bool :=
  path = above || path.startsWith (child above "")

/-- The tree without an absolute path and all that lies below it. -/
def prune (t : FileTree) (path : String) : FileTree :=
  (t.entries.filter fun e => isWithin path e.1).foldl (fun t e => t.erase e.1) t

/-- The tree in which also `target` has what an absolute path has. -/
def graft (t : FileTree) (path target : String) : FileTree :=
  (t.entries.filter fun e => isWithin path e.1).foldl
    (fun t e => t.insert (target ++ (e.1.drop path.length).toString) e.2) t

end FileTree

end ServiceHarness
