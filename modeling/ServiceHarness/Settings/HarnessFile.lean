import ServiceHarness.FileTree
import ServiceHarness.Settings.Manifest
import ServiceHarness.Toml.MomentTable

/-!
# Harness files

`load` finds the harness file of a path among the files, reads it as TOML and takes the
manifest out of it.  A path that names no file stands for that path with `.toml` behind it; a
path that names one has to end in `.toml`.
-/

namespace ServiceHarness.Settings

/-- The extension of a path: what follows the last dot of its last name, unless the name
begins with that dot. -/
def extension? (path : String) : Option String :=
  let name := FileTree.name path
  let back := name.toList.reverse
  match back.dropWhile (· != '.') with
  | _ :: _ :: _ => some (String.ofList (back.takeWhile (· != '.')).reverse)
  | _ => none

/-- The path with an ending in place of what follows its last name; a path without a name has
no such path. -/
def withEnding (path ending : String) : Option String :=
  let parts := ((path.splitOn "/").reverse.dropWhile fun p => p = "" ∨ p = ".").reverse
  match parts.getLast? with
  | none => none
  | some ".." => none
  | some _ => some ("/".intercalate parts ++ ending)

/-- The absolute form of a path in a directory. -/
def absolute (directory path : String) : String :=
  if path.startsWith "/" then path else FileTree.child directory path

/-- The path as it is seen from a directory. -/
def relativeTo (directory path : String) : String :=
  let parts (p : String) := (p.splitOn "/").filter fun part => part ≠ "" ∧ part ≠ "."
  let rec diff : List String → List String → List String
    | a :: as, b :: bs => if a = b then diff as bs else ((a :: as).map fun _ => "..") ++ b :: bs
    | [], bs => bs
    | as, [] => as.map fun _ => ".."
  "/".intercalate (diff (parts directory) (parts path))

/-- Whether there is a file at a path. -/
def isFile (files : FileTree) (directory path : String) : Bool :=
  match files.lookup directory path with
  | .ok (.file ..) => true
  | _ => false

/-- The harness file of a path, or why there is none. -/
def locate (files : FileTree) (directory path : String) : Except String String :=
  let whole := absolute directory path
  if isFile files directory whole then
    if extension? whole = some "toml" then .ok whole
    else .error s!"configuration file \"{whole}\" is not of a registered file format"
  else
    match (withEnding whole ".toml").filter (isFile files directory) with
    | some found => .ok found
    | none => .error s!"configuration file \"{path}\" not found"

/-- Why a file called `origin` that holds a mere text is none. -/
def noTable (s origin : String) : String :=
  s!"invalid type: string {Text.quote s}, expected a map in {origin} in {origin}"

/-- The manifest of the harness file of a path. -/
def load (files : FileTree) (directory path : String) : Except Fault Manifest := do
  let found ← (locate files directory path).mapError fun e => .unreadable path (some e)
  let contents ← (files.read directory found).mapError fun e =>
    .unreadable path (some e.message)
  let origin := relativeTo directory found
  match Toml.entries? contents >>= Toml.settledTable? .headed with
  | some (.table _ document) =>
    (Manifest.ofTree (Tree.ofEntries document)).mapError fun m => .invalid path (m.message origin)
  | some (.moment s) => throw (.unreadable path (some (noTable s origin)))
  | _ => throw (.unreadable path none)

end ServiceHarness.Settings
