/-!
# Scanning

A `Scan α` takes an `α` off the front of the remaining characters, or fails.  Alternatives
written with `<|>` begin at the same place.
-/

namespace ServiceHarness

/-- A computation that takes something off the front of the remaining characters. -/
abbrev Scan := StateT (List Char) Option

namespace Scan

variable {α : Type}

/-- The next character, if it is of the class. -/
def one (p : Char → Bool) : Scan Char := do
  match ← get with
  | c :: rest =>
    guard (p c)
    set rest
    return c
  | [] => failure

/-- The character `c`. -/
def char (c : Char) : Scan Unit := do
  let _ ← one (· == c)

/-- The characters of a text, one after the other. -/
def exactly (s : String) : Scan Unit :=
  s.toList.forM char

/-- As many characters of the class as there are. -/
def span (p : Char → Bool) : Scan (List Char) :=
  modifyGet fun cs => (cs.takeWhile p, cs.dropWhile p)

/-- Just so many characters of the class. -/
def exactlyMany (n : Nat) (p : Char → Bool) : Scan (List Char) :=
  (List.replicate n p).mapM one

/-- What `s` takes, if it succeeds. -/
def opt (s : Scan α) : Scan (Option α) :=
  some <$> s <|> pure none

/-- Whether `s` would succeed. -/
def sees (s : Scan α) : Scan Bool :=
  return (s.run (← get)).isSome

/-- The end of the characters. -/
def atEnd : Scan Unit := do
  guard (← get).isEmpty

/-- What `s` takes again and again until it fails, at most so many times. -/
def upTo (s : Scan α) : Nat → Scan (List α)
  | 0 => pure []
  | n + 1 => do
    match ← opt s with
    | some a => return a :: (← upTo s n)
    | none => return []

/-- What `s`, which takes a character at least, takes again and again until it fails. -/
def many (s : Scan α) : Scan (List α) := do
  upTo s (← get).length

/-- What `s` takes again and again, with `separator` between each two. -/
def separated (s : Scan α) (separator : Scan Unit) : Scan (List α) := do
  let first ← s
  let rest ← many do
    separator
    s
  return first :: rest

end Scan

end ServiceHarness
