import ServiceHarness.Environment
import ServiceHarness.Text.Alphanumeric

/-!
# Paths with variables

A path may refer to variables and begin with `~`.  `pieces` takes it apart into its text and
its references, `Piece.value` is what an environment makes of a piece, and `expandPath` puts
the values together, with the home directory for `~`.
-/

namespace ServiceHarness.Settings

/-- A part of a path with variables. -/
inductive Piece where
  /-- Text that stands for itself. -/
  | literal (text : List Char)
  /-- The value of a variable, or of the fallback where the variable is not set. -/
  | reference (name : List Char) (fallback : Option (List Char))
  deriving DecidableEq, Repr

/-- The characters of the name of a variable. -/
def isNameChar (c : Char) : Bool :=
  Text.isAlphanumeric c || c == '_'

/-- What stands before and after the first `:-`, if there is one. -/
def cutFallback : List Char → Option (List Char × List Char)
  | ':' :: '-' :: rest => some ([], rest)
  | c :: rest => (cutFallback rest).map fun p => (c :: p.1, p.2)
  | [] => none

/-- The reference that is written as `inside` between braces.  A fallback follows the first
`:-`, unless that would leave no name. -/
def bracedReference (inside : List Char) : Piece :=
  match cutFallback inside with
  | some (c :: name, fallback) => .reference (c :: name) (some fallback)
  | _ => .reference inside none

theorem length_dropWhile_le {α : Type} (p : α → Bool) (l : List α) :
  (l.dropWhile p).length ≤ l.length
  := by
  induction l with
  | nil => exact Nat.le_refl 0
  | cons a l ih =>
    rw [List.dropWhile_cons]
    split
    · exact Nat.le_succ_of_le ih
    · exact Nat.le_refl _

/-- The parts of a path.  `$$` is a dollar sign, `$NAME` and `${NAME}` refer to a variable,
and any other dollar sign stands for itself. -/
def pieces : List Char → List Piece
  | [] => []
  | '$' :: '{' :: rest =>
    match h : rest.dropWhile (· != '}') with
    | _ :: after =>
      have : after.length < rest.length + 2 := by
        have := length_dropWhile_le (· != '}') rest
        rw [h] at this
        simp at this
        omega
      bracedReference (rest.takeWhile (· != '}')) :: pieces after
    | [] => .literal ['$', '{'] :: pieces rest
  | '$' :: '$' :: rest => .literal ['$'] :: pieces rest
  | '$' :: c :: rest =>
    if isNameChar c then
      have : (rest.dropWhile isNameChar).length < rest.length + 2 := by
        have := length_dropWhile_le isNameChar rest
        omega
      .reference (c :: rest.takeWhile isNameChar) none :: pieces (rest.dropWhile isNameChar)
    else .literal ['$'] :: pieces (c :: rest)
  | c :: rest => .literal [c] :: pieces rest
termination_by path => path.length

/-- What an environment makes of a piece; a variable without value and fallback is told. -/
def Piece.value (env : Environment) : Piece → Except String (List Char)
  | .literal text => .ok text
  | .reference name fallback =>
    match env.get? (String.ofList name), fallback with
    | some value, _ => .ok value.toList
    | none, some text => .ok text
    | none, none => .error (String.ofList name)

/-- The home directory: the value of `HOME` unless that is empty, and else the one of the user, if
there is one. -/
def home (env : Environment) (userHome : Option String) : Option String :=
  (env.get? "HOME").filter (!·.isEmpty) <|> userHome

/-- A path with the home directory, if there is one, in place of a leading `~` that is alone or has
a `/` behind it. -/
def expandHome (home : Option String) : List Char → List Char
  | '~' :: rest =>
    match home with
    | some dir =>
      if rest.isEmpty || rest.head? = some '/' then dir.toList ++ rest else '~' :: rest
    | none => '~' :: rest
  | path => path

/-- The path with the values of its variables and the home directory put in; the first
variable that has no value is told.  A `~` that comes out of a variable stands for
itself. -/
def expandPath (env : Environment) (userHome : Option String) (path : String) :
    Except String String := do
  let parts ← (pieces path.toList).mapM (Piece.value env)
  let expanded := parts.flatten
  return String.ofList <|
    if path.toList.head? = some '~' then expandHome (home env userHome) expanded else expanded

end ServiceHarness.Settings
