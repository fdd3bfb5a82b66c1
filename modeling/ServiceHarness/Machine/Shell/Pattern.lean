import ServiceHarness.Text.CharacterClass

/-!
# Patterns

A pattern is read from characters of which each is quoted or not: an asterisk that is not quoted
stands for any text, a question mark for any character, and brackets for one of the characters in
them, which may be classes by name.  `Pattern.fits` tells whether a text fits.
-/

namespace ServiceHarness.Shell

/-- Characters, each with whether it is quoted. -/
abbrev Field := List (Char × Bool)

/-- The text of a field. -/
def Field.text (f : Field) : String :=
  String.ofList (f.map (·.1))

namespace Pattern

open Text (Member)

/-- For what a part of a pattern stands. -/
inductive Atom where
  /-- Any text. -/
  | many
  /-- Any character. -/
  | one
  /-- The character itself. -/
  | just (c : Char)
  /-- A character within, or outside of, what brackets hold. -/
  | oneOf (outside : Bool) (members : List Member)
  deriving DecidableEq, Repr

/-- A field without the backslash that takes away the meaning of its first character. -/
def unescaped : Field → Field
  | ('\\', false) :: (c, _) :: rest => (c, true) :: rest
  | f => f

/-- What brackets hold and what follows them, in a field of so many characters; a bracket that
comes first does not close. -/
def members : Nat → Bool → Field → Option (List Member × Field)
  | 0, _, _ => none
  | n + 1, isFirst, f =>
    let go (m : Member) (rest : Field) : Option (List Member × Field) :=
      (members n false rest).map fun (ms, after) => (m :: ms, after)
    match f with
    | [] => none
    | (']', false) :: rest =>
      if isFirst then go (.range ']' ']') rest else some ([], rest)
    | ('[', false) :: rest =>
      match Text.CharacterClass.read? (rest.map (·.1)) with
      | some (k, after) => go (.ofClass k) (rest.drop (rest.length - after.length))
      | none => ranged go '[' rest
    | f =>
      match unescaped f with
      | (c, _) :: rest => ranged go c rest
      | [] => none
where
  /-- What a character begins in brackets: a range or the character alone. -/
  ranged (go : Member → Field → Option (List Member × Field)) (c : Char) :
      Field → Option (List Member × Field)
    | ('-', false) :: (d, q) :: rest =>
      if d = ']' ∧ q = false then go (.range c c) (('-', true) :: (d, q) :: rest)
      else match unescaped ((d, q) :: rest) with
        | (d, _) :: rest => go (.range c d) rest
        | [] => none
    | rest => go (.range c c) rest

/-- What stands in brackets and what follows them. -/
def bracket (f : Field) : Option (Atom × Field) :=
  match f with
  | ('!', false) :: rest =>
    (members (f.length + 1) true rest).map fun (ms, after) => (.oneOf true ms, after)
  | _ => (members (f.length + 1) true f).map fun (ms, after) => (.oneOf false ms, after)

/-- The atoms of a field, no more than so many. -/
def atomsUpTo : Nat → Field → List Atom
  | 0, _ => []
  | _, [] => []
  | n + 1, ('*', false) :: rest => .many :: atomsUpTo n rest
  | n + 1, ('?', false) :: rest => .one :: atomsUpTo n rest
  | n + 1, ('[', false) :: rest =>
    match bracket rest with
    | some (atom, after) => atom :: atomsUpTo n after
    | none => .just '[' :: atomsUpTo n rest
  | n + 1, f =>
    match unescaped f with
    | (c, _) :: rest => .just c :: atomsUpTo n rest
    | [] => []

/-- The pattern that a field writes. -/
def atoms (f : Field) : List Atom :=
  atomsUpTo f.length f

/-- Whether a character fits an atom. -/
def Atom.admits (c : Char) : Atom → Bool
  | .many => true
  | .one => true
  | .just d => c == d
  | .oneOf outside members => outside != members.any (Member.admits c)

/-- The list and what remains of it when elements are taken off its front. -/
def suffixes {α : Type} : List α → List (List α)
  | [] => [[]]
  | a :: rest => (a :: rest) :: suffixes rest

/-- Whether a text fits a pattern. -/
def fits : List Atom → List Char → Bool
  | [], cs => cs.isEmpty
  | .many :: rest, cs => (suffixes cs).any (fits rest)
  | _ :: _, [] => false
  | a :: rest, c :: cs => a.admits c && fits rest cs

/-- Whether a field is more than a text. -/
def isPattern (f : Field) : Bool :=
  (atoms f).any fun
    | .just _ => false
    | _ => true

/-- The text without the shortest or longest beginning that fits. -/
def dropStart (longest : Bool) (p : List Atom) (cs : List Char) : List Char :=
  let lengths := (List.range (cs.length + 1)).filter fun n => fits p (cs.take n)
  match if longest then lengths.getLast? else lengths.head? with
  | some n => cs.drop n
  | none => cs

/-- The text without the shortest or longest end that fits. -/
def dropEnd (longest : Bool) (p : List Atom) (cs : List Char) : List Char :=
  let lengths := (List.range (cs.length + 1)).filter fun n => fits p (cs.drop n)
  match if longest then lengths.head? else lengths.getLast? with
  | some n => cs.take n
  | none => cs

end Pattern

end ServiceHarness.Shell
