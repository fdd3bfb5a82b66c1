import ServiceHarness.Machine.Shell.Lexicon

/-!
# The grammar of the shell

`Script.next?` reads the commands on the next line of a script, and `Script.parse?` all that
there are.  Scripts and words hold further ones; `within n` reads what is nested no deeper than
`n`.
-/

namespace ServiceHarness.Shell

open Reading Lexicon

namespace Grammar

/-- Requires that a token is a given one. -/
def require (t expected : Token) : Reading Unit :=
  if t.name = expected.name then pure () else unexpected t (some expected)

/-- Which commands make a list. -/
inductive ListKind where
  /-- Those on a line. -/
  | line
  /-- Those of a command, one at least. -/
  | body
  /-- Those in something else, perhaps none. -/
  | open_
  deriving DecidableEq, Repr

/-- What reads the things within a command. -/
structure Inner where
  /-- Reads what is within words. -/
  words : Within
  /-- Reads a list of commands, if there is one. -/
  list : ListKind → Reading (Option Script)

namespace Inner

/-- Reads the commands of a command. -/
def body (i : Inner) : Reading Script :=
  (·.getD default) <$> i.list .body

/-- The next token. -/
def token (i : Inner) (expected : Expected := {}) : Reading Token :=
  Lexicon.token i.words expected

end Inner

/-- The tokens before which a list ends. -/
def endsList : Token → Bool
  | .keyword s => ["do", "done", "elif", "else", "esac", "fi", "then", "\x7d"].contains s
  | .operator s => s == ")" || s == ";;"
  | _ => false

/-! ### Redirections -/

/-- The redirection that a token begins, if it begins one. -/
def redirect? (i : Inner) (t : Token) : Reading (Option Redirect) := do
  match t with
  | .redirect number kind =>
    match ← i.token with
    | .word word => return some (number, kind, word)
    | other => unexpected other
  | .document number dropsTabs => return some (number, .text, ← document i.words dropsTabs)
  | _ => return none

/-- The redirections that follow a command. -/
def redirects (i : Inner) : Reading (List Redirect) :=
  many do
    let t ← i.token ⟨false, true, true⟩
    match ← redirect? i t with
    | some r => return some r
    | none =>
      putBack t
      return none

/-- The command with redirections, if there are any. -/
def redirected (line : Nat) (c : Script) (rs : List Redirect) : Script :=
  if rs.isEmpty then c else .redirected line c rs

/-! ### Simple commands -/

/-- The assignment that a word is, if it is one. -/
def assignment? (w : Word) : Option (String × Word) :=
  match w with
  | .text s false :: rest =>
    let name := String.ofList (s.toList.takeWhile (· != '='))
    if isName name && name.length < s.length then
      some (name, .text (s.drop (name.length + 1)).toString false :: rest)
    else none
  | _ => none

/-- What a simple command consists of, as far as it has been read. -/
structure Elements where
  /-- The assignments, the last one first. -/
  assignments : List (String × Word) := []
  /-- The words, the last one first. -/
  words : List Word := []
  /-- The redirections, the last one first. -/
  redirects : List Redirect := []

/-- The simple command, or the definition of a function if a bracket shows that it is one, after
some elements of it; there are at most so many more. -/
def simpleFrom (i : Inner) (command : Expected → Reading Script) (line : Nat) :
    Nat → Elements → Reading Script
  | 0, _ => fault "too long"
  | n + 1, e => do
    let t ← i.token ⟨false, false, e.words.isEmpty⟩
    let whole : Script :=
      .simple line e.assignments.reverse e.words.reverse e.redirects.reverse
    match t with
    | .word w =>
      match if e.words.isEmpty then assignment? w else none with
      | some a => simpleFrom i command line n { e with assignments := a :: e.assignments }
      | none => simpleFrom i command line n { e with words := w :: e.words }
    | .operator "(" =>
      match e with
      | ⟨[], [name], []⟩ =>
        require (← i.token) (.operator ")")
        match Word.literal? name with
        | some f =>
          if !isName f || specialBuiltins.contains f then fault "Bad function name"
          return .define f (← command .later)
        | none => fault "Bad function name"
      | _ =>
        putBack t
        return whole
    | _ =>
      match ← redirect? i t with
      | some r => simpleFrom i command line n { e with redirects := r :: e.redirects }
      | none =>
        putBack t
        return whole

/-! ### Commands that are made of others -/

/-- What follows a condition: the branch for it, and the other branches. -/
def branchesFrom (i : Inner) :
    Nat → Reading (List (Script × Script) × Option Script)
  | 0 => fault "too long"
  | n + 1 => do
    let condition ← i.body
    require (← i.token) (.keyword "then")
    let branch := (condition, ← i.body)
    let t ← i.token
    if t.isKeyword "elif" then
      let (branches, otherwise) ← branchesFrom i n
      return (branch :: branches, otherwise)
    else if t.isKeyword "else" then return ([branch], some (← i.body))
    else
      putBack t
      return ([branch], none)

/-- A conditional command, after its first word. -/
def conditional (i : Inner) : Reading Script := do
  let (branches, otherwise) ← branchesFrom i limit
  require (← i.token) (.keyword "fi")
  return .conditional branches otherwise

/-- A loop with a condition, after its first word. -/
def loop (i : Inner) (until_ : Bool) : Reading Script := do
  let condition ← i.body
  require (← i.token) (.keyword "do")
  let body ← i.body
  require (← i.token) (.keyword "done")
  return .loop until_ condition body

/-- The words that follow, and the token after them. -/
def wordsFrom (i : Inner) : Nat → Reading (List Word × Token)
  | 0 => fault "too long"
  | n + 1 => do
    match ← i.token with
    | .word w =>
      let (ws, t) ← wordsFrom i n
      return (w :: ws, t)
    | t => return ([], t)

/-- A loop over words, after its first word. -/
def each (i : Inner) (line : Nat) : Reading Script := do
  let name ← match ← i.token with
    | .word w => pure ((Word.literal? w).getD "")
    | _ => pure ""
  if !isName name then fault "Bad for loop variable"
  let t ← i.token .later
  let words ← if t.isKeyword "in" then do
      let (ws, t) ← wordsFrom i limit
      match t with
      | .newline => pure ()
      | t => if !t.isOperator ";" then unexpected t
      pure (some ws)
    else do
      if !t.isOperator ";" then putBack t
      pure none
  require (← i.token .later) (.keyword "do")
  let body ← i.body
  require (← i.token) (.keyword "done")
  return .each line name words body

/-- The word that a token is where a pattern is expected. -/
def patternOf : Token → Word
  | .word w => w
  | .keyword s => [.text s false]
  | _ => []

/-- The patterns from a token on, and the token after them. -/
def patternsFrom (i : Inner) (first : Token) : Nat → Reading (List Word × Token)
  | 0 => fault "too long"
  | n + 1 => do
    let t ← i.token
    if t.isOperator "|" then
      let (ps, t) ← patternsFrom i (← i.token) n
      return (patternOf first :: ps, t)
    else return ([patternOf first], t)

/-- The branches of a choice, up to the word that ends it. -/
def choicesFrom (i : Inner) : Nat → Reading (List (List Word × Script))
  | 0 => fault "too long"
  | n + 1 => do
    let t ← i.token ⟨true, true, false⟩
    if t.isKeyword "esac" then return []
    let first ← if t.isOperator "(" then i.token else pure t
    let (patterns, t) ← patternsFrom i first limit
    require t (.operator ")")
    let body := (← i.list .open_).getD default
    let t ← i.token ⟨true, true, false⟩
    if t.isKeyword "esac" then return [(patterns, body)]
    require t (.operator ";;")
    return (patterns, body) :: (← choicesFrom i n)

/-- A choice by patterns, after its first word. -/
def choice (i : Inner) (line : Nat) : Reading Script := do
  match ← i.token with
  | .word subject =>
    require (← i.token .later) (.keyword "in")
    return .choice line subject (← choicesFrom i limit)
  | t => unexpected t (some (.word []))

/-- A command in which definitions are nested at most so deep. -/
def command (i : Inner) : Nat → Expected → Reading Script
  | 0, _ => fault "too deep"
  | n + 1, expected => do
    let t ← i.token expected
    let line := (← get).line
    let enclosed (f : Script → Script) (close : Token) : Reading Script := do
      let c ← i.body
      require (← i.token) close
      return f c
    let c ← match t with
      | .keyword "if" => some <$> conditional i
      | .keyword "while" => some <$> loop i false
      | .keyword "until" => some <$> loop i true
      | .keyword "for" => some <$> each i line
      | .keyword "case" => some <$> choice i line
      | .keyword "\x7b" => some <$> enclosed id (.keyword "\x7d")
      | .operator "(" => some <$> enclosed .subshell (.operator ")")
      | .word _ | .redirect .. | .document .. =>
        putBack t
        pure none
      | _ => unexpected t
    match c with
    | some c => return redirected line c (← redirects i)
    | none => simpleFrom i (command i n) line limit {}

/-! ### Lists -/

/-- A command. -/
def anyCommand (i : Inner) (expected : Expected) : Reading Script :=
  command i limit expected

/-- Commands of which each reads what the one before it puts out. -/
def pipeline (i : Inner) (expected : Expected) : Reading Script := do
  let t ← i.token expected
  let negated := t.isKeyword "!"
  if !negated then putBack t
  let first ← anyCommand i (if negated then ⟨false, true, true⟩ else {})
  let more ← many do
    let t ← i.token
    if t.isOperator "|" then return some (← anyCommand i .later)
    putBack t
    return none
  let c := if more.isEmpty then first else .pipeline (first :: more)
  return if negated then .negated c else c

/-- Commands that depend on how the one before them ends. -/
def andOr (i : Inner) : Reading Script := do
  let first ← pipeline i {}
  let rest ← many do
    let t ← i.token
    if t.isOperator "&&" then return some (true, ← pipeline i .later)
    else if t.isOperator "||" then return some (false, ← pipeline i .later)
    putBack t
    return none
  return rest.foldl (fun c next => if next.1 then .both c next.2 else .either c next.2) first

/-- The commands of a list after some, the last one first; there are at most so many more. -/
def listFrom (i : Inner) (kind : ListKind) : Nat → List Script → Reading (Option Script)
  | 0, _ => fault "too long"
  | n + 1, before => do
    let ended (cs : List Script) : Option Script := some (.sequence cs.reverse)
    let t ← i.token ⟨kind != .line, true, true⟩
    match t with
    | .newline => return ended before
    | .ending =>
      putBack t
      return if before.isEmpty && kind == .line then none else ended before
    | _ =>
      putBack t
      let mayEnd := kind == .open_ || (kind == .body && !before.isEmpty)
      if mayEnd && endsList t then return ended before
      let c ← andOr i
      let t ← i.token
      match t with
      | .operator "&" => listFrom i kind n (.background c :: before)
      | .operator ";" => listFrom i kind n (c :: before)
      | .newline | .ending =>
        putBack t
        listFrom i kind n (c :: before)
      | _ =>
        if kind == .line then unexpected t
        putBack t
        return ended (c :: before)

/-- What reads the things that are nested no deeper than `n`. -/
def within : Nat → Inner
  | 0 =>
    let none_ {α : Type} : Reading α := fault "too deep"
    ⟨⟨fun _ => none_, none_, none_⟩, fun _ => none_⟩
  | n + 1 =>
    let inner := within n
    let script := (·.getD default) <$> inner.list .open_
    let bracketed : Reading Script := do
      let c ← script
      require (← inner.token) (.operator ")")
      return c
    let words : Within := ⟨Lexicon.parts inner.words, script, bracketed⟩
    ⟨words, fun kind => listFrom ⟨words, inner.list⟩ kind limit []⟩

/-- The depth of nesting up to which scripts are read. -/
def depthLimit : Nat :=
  200

end Grammar

/-- Reads the commands on the next line of a script, unless it is at its end, and goes on behind
them. -/
def Script.next? (r : Reader) : Except SyntaxFault (Option Script × Reader) :=
  ((Grammar.within Grammar.depthLimit).list .line).run r

end ServiceHarness.Shell
