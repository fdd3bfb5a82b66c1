import ServiceHarness.Machine.Utility.Search

/-!
# Editing

`sed` edits lines by a script.  A `Step` of a script has a `Command` and a `Selection` that tells for
which lines it is carried out; `Script.parse` reads the steps, and `Desk.run` takes them for one line
after the other.
-/

namespace ServiceHarness.Editing

open Text (Regex)
open Utility (plainLines)

/-- An expression, and whether capital letters count as small ones in it; none stands for the last
one that has been used. -/
abbrev Pattern := Option (Regex × Bool)

/-- Which lines are meant. -/
inductive Address where
  /-- The line of a number. -/
  | line (n : Nat)
  /-- The last line. -/
  | last
  /-- Every line in which an expression occurs. -/
  | fits (pattern : Pattern)
  /-- A line and those that follow it by a step. -/
  | every (first step : Nat)

/-- Where a range of lines ends. -/
inductive RangeEnd where
  /-- At a line that is meant. -/
  | at_ (address : Address)
  /-- So many lines further. -/
  | further (n : Nat)
  /-- At a multiple of a number. -/
  | multiple (n : Nat)

/-- For which lines a command is carried out. -/
structure Selection where
  /-- The lines, or the beginning of ranges. -/
  first : Option Address := none
  /-- The end of ranges. -/
  finish : Option RangeEnd := none
  /-- Whether the other lines are meant. -/
  isNegated : Bool := false

/-- A part of what takes the place of something. -/
inductive Piece where
  /-- A character. -/
  | char (c : Char)
  /-- What is remembered under a number, or the whole for zero. -/
  | group (n : Nat)
  /-- A change of the letters that follow. -/
  | letters (kind : Char)

/-- What is put in the place of something. -/
structure Substitution where
  /-- What is looked for. -/
  pattern : Pattern
  /-- What takes its place. -/
  pieces : List Piece
  /-- The number of the first occurrence that counts. -/
  occurrence : Nat := 1
  /-- Whether all further ones count too. -/
  isGlobal : Bool := false
  /-- How often the line is put out if there was one. -/
  prints : Nat := 0
  /-- The file to which the line is written if there was one. -/
  file : Option String := none

/-- What is done with a line. -/
inductive Command where
  /-- A block begins. -/
  | opens
  /-- A block ends. -/
  | closes
  /-- Something is put in the place of something. -/
  | substitute (s : Substitution)
  /-- Characters are put in the place of others. -/
  | transliterate (pairs : List (Char × Char))
  /-- A text is put out after the line, before it, or in its place. -/
  | text (kind : Char) (text : String)
  /-- A file is put out after the line, or the line is written to it. -/
  | file (kind : Char) (name : String)
  /-- The script goes on at a label, if something has been substituted or not. -/
  | jump (kind : Char) (label : String)
  /-- A label. -/
  | label (name : String)
  /-- The script ends. -/
  | quit (prints : Bool) (code : Nat)
  /-- Something without more in it. -/
  | plain (kind : Char)

/-- A command and the lines for which it is carried out. -/
structure Step where
  /-- The lines. -/
  selection : Selection
  /-- The command. -/
  command : Command

/-! ### Reading scripts -/

/-- What is read of a script, and what is told of a fault at the place where it was found. -/
structure Source where
  /-- The characters that have been read. -/
  taken : Nat := 0
  /-- The others. -/
  rest : List Char
  /-- Whether expressions are in the extended notation. -/
  isExtended : Bool

/-- A computation that reads a script. -/
abbrev Reading := StateT Source (Except (Nat × String))

/-- Fails. -/
def bad {α : Type} (text : String) : Reading α := do
  throw ((← get).taken, text)

/-- The next character, if there is one. -/
def next? : Reading (Option Char) := do
  let s ← get
  match s.rest with
  | c :: rest =>
    set { s with taken := s.taken + 1, rest }
    return some c
  | [] => return none

/-- The next character, which is not taken. -/
def peek? : Reading (Option Char) :=
  return (← get).rest.head?

/-- The characters of a class that come next. -/
def span (p : Char → Bool) : Reading (List Char) := do
  let s ← get
  let taken := s.rest.takeWhile p
  set { s with taken := s.taken + taken.length, rest := s.rest.drop taken.length }
  return taken

/-- Whether a character makes room within a line. -/
def isGap (c : Char) : Bool :=
  c == ' ' || c == '\t'

/-- The number that comes next, if there is one. -/
def number? : Reading (Option Nat) := do
  return Text.natural? 10 (← span Char.isDigit)

/-- The characters up to a delimiter, of so many at most, if it is there.  Behind a backslash the
delimiter stands for itself, and so does all in brackets of an expression. -/
def delimited? (delimiter : Char) (isExpression : Bool) :
    Nat → (inSet : Bool) → List Char → Option (List Char × List Char)
  | 0, _, _ | _, _, [] => none
  | n + 1, inSet, c :: rest =>
    let more (taken : List Char) (inSet : Bool) (rest : List Char) :=
      (delimited? delimiter isExpression n inSet rest).map fun (cs, after) => (taken ++ cs, after)
    if inSet then more [c] (c != ']') rest
    else if c = delimiter then some ([], rest)
    else if c = '\\' then
      match rest with
      | d :: rest =>
        if d = delimiter then more [d] false rest
        else if d = 'n' && isExpression then more ['\n'] false rest
        else more ['\\', d] false rest
      | [] => none
    else if c = '\n' && isExpression then none
    else if c = '[' && isExpression then
      let front := if rest.head? = some '^' then ['^'] else []
      let rest' := rest.drop front.length
      let front := front ++ if rest'.head? = some ']' then [']'] else []
      more ('[' :: front) true (rest.drop front.length)
    else more [c] false rest

/-- The characters up to a delimiter; without it there is a fault. -/
def delimited (delimiter : Char) (isExpression : Bool) (fault : String) : Reading (List Char) := do
  let s ← get
  match delimited? delimiter isExpression (s.rest.length + 1) false s.rest with
  | some (cs, rest) =>
    set { s with taken := s.taken + (s.rest.length - rest.length), rest }
    return cs
  | none =>
    set { s with taken := s.taken + s.rest.length, rest := [] }
    bad fault

/-- The expression that some characters write. -/
def expression (cs : List Char) (folds : Bool) : Reading Pattern := do
  if cs.isEmpty then return none
  match Regex.parse (← get).isExtended cs with
  | .ok r => return some (r, folds)
  | .error fault => bad fault.text

/-- The address that comes next, if there is one. -/
def address? : Reading (Option Address) := do
  match ← peek? with
  | some '$' =>
    let _ ← next?
    return some .last
  | some c =>
    if c.isDigit then
      let n := (← number?).getD 0
      if (← peek?) = some '~' then
        let _ ← next?
        return some (.every n ((← number?).getD 0))
      return some (.line n)
    else if c = '/' || c = '\\' then
      let _ ← next?
      let delimiter ← if c = '\\' then (·.getD '/') <$> next? else pure '/'
      let cs ← delimited delimiter true "unterminated address regex"
      let flags ← span fun c => c == 'I' || c == 'M'
      return some (.fits (← expression cs (flags.contains 'I')))
    else return none
  | none => return none

/-- The selection that comes next. -/
def selection : Reading Selection := do
  let first ← address?
  let _ ← span isGap
  let finish ← if first.isSome && (← peek?) = some ',' then do
      let _ ← next?
      let _ ← span isGap
      match ← peek? with
      | some '+' =>
        let _ ← next?
        pure (some (RangeEnd.further ((← number?).getD 0)))
      | some '~' =>
        let _ ← next?
        pure (some (RangeEnd.multiple ((← number?).getD 0)))
      | _ => match ← address? with
        | some a => pure (some (RangeEnd.at_ a))
        | none => bad "unexpected \x60,'"
    else pure none
  let _ ← span isGap
  let marks ← span fun c => c == '!' || isGap c
  return { first, finish, isNegated := marks.contains '!' }

/-- The pieces of what takes the place of something, of so many characters at most. -/
def pieces : List Char → List Piece
  | '\\' :: c :: rest =>
    let piece : Piece :=
      if c.isDigit then .group (c.toNat - '0'.toNat)
      else if "ULEul".contains c then .letters c
      else .char (([('n', '\n'), ('t', '\t'), ('r', '\r'), ('a', '\x07'), ('f', '\x0c'),
        ('v', '\x0b')].lookup c).getD c)
    piece :: pieces rest
  | '&' :: rest => .group 0 :: pieces rest
  | c :: rest => .char c :: pieces rest
  | [] => []

/-- The characters up to the end of the line. -/
def restOfLine : Reading String := do
  let _ ← span isGap
  return String.ofList (← span (· != '\n'))

/-- The flags of a substitution, of so many at most. -/
def flags : Nat → (Substitution × Bool) → Reading (Substitution × Bool)
  | 0, s => return s
  | n + 1, (s, folds) => do
    match ← peek? with
    | some 'g' =>
      let _ ← next?
      if s.isGlobal then bad "multiple \x60g' options to \x60s' command"
      flags n ({ s with isGlobal := true }, folds)
    | some 'p' =>
      let _ ← next?
      flags n ({ s with prints := s.prints + 1 }, folds)
    | some 'i' | some 'I' =>
      let _ ← next?
      flags n (s, true)
    | some 'm' | some 'M' | some 'e' =>
      let _ ← next?
      flags n (s, folds)
    | some 'w' =>
      let _ ← next?
      return ({ s with file := some (← restOfLine) }, folds)
    | some c =>
      if c.isDigit then
        let k := (← number?).getD 0
        if k = 0 then bad "number option to \x60s' command may not be zero"
        flags n ({ s with occurrence := k }, folds)
      else if c = '\n' || c = ';' || c = '}' || c = '#' || isGap c then return (s, folds)
      else
        let _ ← next?
        bad "unknown option to \x60s'"
    | none => return (s, folds)

/-- The largest number under which the pieces want something to be remembered. -/
def largestGroup (ps : List Piece) : Nat :=
  ps.foldl
    (fun n p => match p with
      | .group k => max n k
      | _ => n)
    0

/-- The substitution that comes next. -/
def substitution : Reading Command := do
  let fault := "unterminated \x60s' command"
  let delimiter ← match ← next? with
    | some c => pure c
    | none => bad fault
  let cs ← delimited delimiter true fault
  let replacement ← delimited delimiter false fault
  let (s, folds) ← flags 20 ({ pattern := none, pieces := pieces replacement }, false)
  let pattern ← expression cs folds
  let most := largestGroup s.pieces
  if pattern.any fun p => p.1.groupCount < most then
    bad s!"invalid reference \\{most} on \x60s' command's RHS"
  return .substitute { s with pattern }

/-- The characters of a text with the escapes of transliterations resolved. -/
def resolved : List Char → List Char
  | '\\' :: 'n' :: rest => '\n' :: resolved rest
  | '\\' :: c :: rest => c :: resolved rest
  | c :: rest => c :: resolved rest
  | [] => []

/-- The transliteration that comes next. -/
def transliteration : Reading Command := do
  let fault := "unterminated \x60y' command"
  let delimiter ← match ← next? with
    | some c => pure c
    | none => bad fault
  let source := resolved (← delimited delimiter false fault)
  let target := resolved (← delimited delimiter false fault)
  if source.length ≠ target.length then
    bad "strings for \x60y' command are different lengths"
  return .transliterate (source.zip target)

/-- The text that comes next, of so many characters at most; a backslash lets the next character
stand for itself, also the end of a line. -/
def textCharacters : Nat → Reading (List Char)
  | 0 => return []
  | n + 1 => do
    match ← next? with
    | none | some '\n' => return []
    | some '\\' =>
      match ← next? with
      | some c => return c :: (← textCharacters n)
      | none => return []
    | some c => return c :: (← textCharacters n)

/-- The text of a command that puts one out. -/
def outputText : Reading String := do
  let _ ← span isGap
  match ← peek? with
  | none => bad "expected \\ after \x60a', \x60c' or \x60i'"
  | some '\\' =>
    let before ← get
    let _ ← next?
    let _ ← span isGap
    if (← peek?) = some '\n' then
      let _ ← next?
    else set { before with taken := before.taken + 1, rest := before.rest.drop 1 }
  | some _ => pure ()
  let n := (← get).rest.length + 1
  return String.ofList (← textCharacters n) ++ "\n"

/-- The end of a command. -/
def commandEnd : Reading Unit := do
  let _ ← span isGap
  match ← peek? with
  | none | some '}' | some '#' => return
  | some c =>
    let _ ← next?
    if c ≠ '\n' && c ≠ ';' then bad "extra characters after command"

/-- The command of a letter. -/
def command (letter : Char) : Reading Command := do
  match letter with
  | '{' => return .opens
  | '}' =>
    commandEnd
    return .closes
  | 's' =>
    let c ← substitution
    commandEnd
    return c
  | 'y' =>
    let c ← transliteration
    commandEnd
    return c
  | 'a' | 'i' | 'c' => return .text letter (← outputText)
  | 'r' | 'R' | 'w' | 'W' =>
    let name ← restOfLine
    if name = "" then bad "missing filename in r/R/w/W commands"
    return .file letter name
  | ':' =>
    let _ ← span isGap
    let name ← span fun c => !c.isWhitespace && c != ';'
    if name.isEmpty then bad "\":\" lacks a label"
    return .label (String.ofList name)
  | 'b' | 't' | 'T' =>
    let _ ← span isGap
    let name ← span fun c => !c.isWhitespace && c != ';' && c != '}'
    commandEnd
    return .jump letter (String.ofList name)
  | 'q' | 'Q' =>
    let _ ← span isGap
    let code := (← number?).getD 0
    commandEnd
    return .quit (letter = 'q') code
  | _ =>
    if !"dDpPnNgGhHxl=zF".contains letter then bad s!"unknown command: \x60{letter}'"
    if letter = 'l' then
      let _ ← span isGap
      let _ ← number?
    commandEnd
    return .plain letter

/-- The steps that come next, in so many blocks, and so many at most. -/
def steps : Nat → (depth : Nat) → Reading (List Step)
  | 0, _ => return []
  | n + 1, depth => do
    let _ ← span fun c => c.isWhitespace || c == ';'
    match ← peek? with
    | none =>
      if depth ≠ 0 then throw (0, "unmatched \x60\x7b'")
      return []
    | some '#' =>
      let _ ← span (· != '\n')
      steps n depth
    | some _ =>
      let selection ← selection
      match ← next? with
      | none => bad "missing command"
      | some letter =>
        if letter = '}' && depth = 0 then bad "unexpected \x60\x7d'"
        let c ← command letter
        let depth := match c with
          | .opens => depth + 1
          | .closes => depth - 1
          | _ => depth
        return ⟨selection, c⟩ :: (← steps n depth)

/-- The label of a command that has one which is not in the script. -/
def missingLabel? (script : List Step) : Option String :=
  let labels := script.filterMap fun s => match s.command with
    | .label name => some name
    | _ => none
  script.findSome? fun s => match s.command with
    | .jump _ name => if name ≠ "" && !labels.contains name then some name else none
    | _ => none

/-- The steps of a script, or the place of a fault and what is told of it. -/
def parse (isExtended : Bool) (text : String) : Except (Nat × String) (List Step) := do
  let (script, _) ← (steps (text.length + 1) 0).run { rest := text.toList, isExtended }
  return script

/-! ### Taking steps -/

/-- How far a script has come with some lines. -/
structure Desk where
  /-- The line that is edited. -/
  space : String := ""
  /-- What is put by. -/
  hold : String := ""
  /-- The number of the line. -/
  number : Nat := 0
  /-- The lines that have not been read. -/
  upcoming : List String
  /-- Whether there is an end behind the last of all lines. -/
  isEnded : Bool := true
  /-- What has been put out. -/
  output : String := ""
  /-- Whether the end of a line is missing there. -/
  owesEnd : Bool := false
  /-- What is put out after the line. -/
  queue : List String := []
  /-- The ranges within which the line is, by the numbers of their steps, with their ends. -/
  ranges : List (Nat × RangeEnd) := []
  /-- Whether something has been substituted in the line. -/
  hasSubstituted : Bool := false
  /-- The expression that was used last. -/
  lastPattern : Pattern := none
  /-- What has been written to files. -/
  files : List (String × String) := []
  /-- What stands behind a line. -/
  ending : String := "\n"

namespace Desk

/-- Whether the line is the last one. -/
def isLast (d : Desk) : Bool :=
  d.upcoming.isEmpty

/-- The desk after a text has been put out that is whole lines. -/
def put (d : Desk) (text : String) : Desk :=
  { d with output := d.output ++ (if d.owesEnd then d.ending else "") ++ text, owesEnd := false }

/-- The desk after a line has been put out; the last line may have no end. -/
def putLine (d : Desk) (line : String) : Desk :=
  if d.isLast && !d.isEnded then { d.put line with owesEnd := true } else d.put (line ++ d.ending)

/-- The desk after what is put out after a line. -/
def flush (d : Desk) : Desk :=
  let d := d.queue.foldl put d
  { d with queue := [] }

/-- The desk with the next line, if there is one. -/
def next? (d : Desk) : Option Desk :=
  match d.upcoming with
  | line :: rest => some { d with space := line, upcoming := rest, number := d.number + 1 }
  | [] => none

/-- The desk after a line has been written to a file. -/
def write (d : Desk) (name line : String) : Desk :=
  if name = "/dev/stdout" then d.putLine line
  else
    let before := (d.files.lookup name).getD ""
    { d with files := (name, before ++ line ++ "\n") :: d.files.filter (·.1 != name) }

/-- The expression of a pattern, and the desk after it has been used. -/
def use (d : Desk) (p : Pattern) : Pattern × Desk :=
  match p with
  | some _ => (p, { d with lastPattern := p })
  | none => (d.lastPattern, d)

/-- Whether the line is one that is meant. -/
def isMeant (d : Desk) : Address → Bool × Desk
  | .line n => (d.number = n, d)
  | .last => (d.isLast, d)
  | .every first step =>
    (if step = 0 then d.number = first
      else first ≤ d.number && (d.number - first) % step = 0, d)
  | .fits p =>
    let (p, d) := d.use p
    (p.any fun (r, folds) => (r.find? folds [] d.space.toList).isSome, d)

/-- Whether a step is taken for the line, by its number and its selection. -/
def selects (d : Desk) (i : Nat) (s : Selection) : Bool × Desk :=
  match s.first, s.finish with
  | none, _ => (true, d)
  | some a, none => d.isMeant a
  | some a, some finish =>
    let leave (d : Desk) : Desk := { d with ranges := d.ranges.filter (·.1 != i) }
    let enter (d : Desk) (e : RangeEnd) : Desk := { d with ranges := (i, e) :: d.ranges }
    let isZero : Bool := match a with
      | .line 0 => d.number = 1
      | _ => false
    match if isZero then some finish else d.ranges.lookup i with
    | some (.at_ (.line n)) =>
      if n < d.number then
        let d := leave d
        d.isMeant a
      else (true, if d.number = n then leave d else d)
    | some (.at_ b) =>
      let (ends, d) := d.isMeant b
      (true, if ends then leave d else if isZero then enter d finish else d)
    | some _ => (true, d)
    | none =>
      let (begins, d) := d.isMeant a
      if !begins then (false, d)
      else
        let until_ (n : Nat) : Desk := if d.number < n then enter d (.at_ (.line n)) else d
        match finish with
        | .at_ (.line n) => (true, until_ n)
        | .at_ b => (true, enter d (.at_ b))
        | .further n => (true, until_ (d.number + n))
        | .multiple n => (true, if n = 0 then d else until_ ((d.number + n - 1) / n * n))

/-- The text of pieces for a fit, in which letters are changed as was asked for: all that follow,
and the next one. -/
def fill (whole : List Char) (groups : List (Nat × List Char)) :
    (all : Option Char) → (one : Option Char) → List Piece → List Char
  | _, _, [] => []
  | all, _, .letters kind :: rest =>
    if kind = 'u' || kind = 'l' then fill whole groups all (some kind) rest
    else fill whole groups (if kind = 'E' then none else some kind) none rest
  | all, one, p :: rest =>
    let cs := match p with
      | .char c => [c]
      | .group 0 => whole
      | .group n => (groups.lookup n).getD []
      | .letters _ => []
    let changed := match all with
      | some 'U' => cs.map Char.toUpper
      | some 'L' => cs.map Char.toLower
      | _ => cs
    match one, changed with
    | some 'u', c :: cs => c.toUpper :: cs ++ fill whole groups all none rest
    | some 'l', c :: cs => c.toLower :: cs ++ fill whole groups all none rest
    | one, cs => cs ++ fill whole groups all (if cs.isEmpty then one else none) rest

/-- A line with the pieces in the place of fits, and whether there was one: `found` fits have been
seen, of which one ended just here if `justFit`.  So many places at most are looked at. -/
def substituted (s : Substitution) (r : Regex) (folds : Bool) :
    Nat → (found : Nat) → (justFit : Bool) → List Char → List Char → List Char × Bool
  | 0, _, _, _, rest => (rest, false)
  | n + 1, found, justFit, before, rest =>
    match r.find? folds before rest with
    | none => (rest, false)
    | some (a, b) =>
      let skipped := rest.take (a.before.length - before.length)
      let whole := a.upTo b
      let isRepeated := whole.isEmpty && skipped.isEmpty && justFit
      let number := if isRepeated then found else found + 1
      let counts := !isRepeated && (number = s.occurrence || (s.isGlobal && s.occurrence < number))
      let put := if counts then fill whole b.groups none none s.pieces else whole
      if counts && !s.isGlobal then (skipped ++ put ++ b.rest, true)
      else if whole.isEmpty then
        match b.rest with
        | [] => (skipped ++ put, counts)
        | c :: after =>
          let (more, any) := substituted s r folds n number false (c :: b.before) after
          (skipped ++ put ++ c :: more, counts || any)
      else
        let (more, any) := substituted s r folds n number true b.before b.rest
        (skipped ++ put ++ more, counts || any)

/-- A line in a form that shows every character. -/
def shown (line : String) : String :=
  let one (c : Char) : String :=
    if c = '\\' then "\\\\" else if Name.isControl c then Name.escaped c else String.ofList [c]
  String.join (line.toList.map one) ++ "$"

/-- What follows a step. -/
inductive Turn where
  /-- The next step. -/
  | on
  /-- The steps from a place on. -/
  | onward (i : Nat)
  /-- The end of the script for this line. -/
  | end_
  /-- The next line, without this one being put out. -/
  | drop
  /-- The script from its beginning, with what is left of this line. -/
  | again
  /-- The end of everything. -/
  | quit (prints : Bool) (code : Nat)

/-- The place behind the end of the block that begins before a place, in so many inner blocks. -/
def blockEnd (depth : Nat) : Nat → List Step → Nat
  | i, [] => i
  | i, s :: rest =>
    match s.command, depth with
    | .closes, 0 => i + 1
    | .closes, d + 1 => blockEnd d (i + 1) rest
    | .opens, d => blockEnd (d + 1) (i + 1) rest
    | _, d => blockEnd d (i + 1) rest

/-- The place of a label; the end of the script for none. -/
def labelPlace (script : List Step) (name : String) : Nat :=
  (script.findIdx? fun s => match s.command with
    | .label l => l == name
    | _ => false).getD script.length

/-- The part of a text up to the first end of a line, and the part after it, if there is one. -/
def split (text : String) : String × Option String :=
  match text.splitOn "\n" with
  | first :: rest => (first, if rest.isEmpty then none else some ("\n".intercalate rest))
  | [] => ("", none)

/-- What a command does that stands at a place of a script; `contents` gives the contents of
files. -/
def take (script : List Step) (contents : String → Option String) (i : Nat) (selection : Selection)
    (isQuiet : Bool) (d : Desk) : Command → Turn × Desk
  | .opens | .closes | .label _ => (.on, d)
  | .substitute s =>
    let (p, d) := d.use s.pattern
    match p with
    | none => (.on, d)
    | some (r, folds) =>
      let cs := d.space.toList
      let (line, any) := substituted s r folds (cs.length + 2) 0 false [] cs
      if !any then (.on, d)
      else
        let d := { d with space := String.ofList line, hasSubstituted := true }
        let d := (List.range s.prints).foldl (fun d _ => d.putLine d.space) d
        (.on, match s.file with
          | some name => d.write name d.space
          | none => d)
  | .transliterate pairs =>
    (.on, { d with space := d.space.map fun c => (pairs.lookup c).getD c })
  | .text 'a' text => (.on, { d with queue := d.queue ++ [text] })
  | .text 'i' text => (.on, d.put text)
  | .text _ text =>
    let isInside := selection.finish.isSome && !selection.isNegated
      && d.ranges.any fun r => r.1 == i
    (.drop, if isInside then d else d.put text)
  | .file 'w' name => (.on, d.write name d.space)
  | .file 'W' name => (.on, d.write name (split d.space).1)
  | .file _ name =>
    match contents name with
    | some text => (.on, { d with queue := d.queue ++ [text] })
    | none => (.on, d)
  | .jump kind name =>
    let goes := kind = 'b' || (kind = 't') == d.hasSubstituted
    let d := if kind = 'b' then d else { d with hasSubstituted := false }
    if !goes then (.on, d)
    else (if name = "" then .end_ else .onward (labelPlace script name), d)
  | .quit prints code => (.quit prints code, d)
  | .plain kind =>
    match kind with
    | 'd' => (.drop, d)
    | 'D' =>
      match split d.space with
      | (_, none) => (.drop, d)
      | (_, some rest) => (.again, { d with space := rest })
    | 'p' => (.on, d.putLine d.space)
    | 'P' => (.on, d.put ((split d.space).1 ++ "\n"))
    | 'n' =>
      if d.isLast then (.quit true 0, d)
      else
        let d := if isQuiet then d else d.putLine d.space
        match d.flush.next? with
        | some d => (.on, d)
        | none => (.on, d)
    | 'N' =>
      if d.isLast then (.quit true 0, d)
      else
        let line := d.space
        match d.flush.next? with
        | some d => (.on, { d with space := line ++ "\n" ++ d.space })
        | none => (.on, d)
    | 'g' => (.on, { d with space := d.hold })
    | 'G' => (.on, { d with space := d.space ++ "\n" ++ d.hold })
    | 'h' => (.on, { d with hold := d.space })
    | 'H' => (.on, { d with hold := d.hold ++ "\n" ++ d.space })
    | 'x' => (.on, { d with hold := d.space, space := d.hold })
    | 'z' => (.on, { d with space := "" })
    | '=' => (.on, d.put (toString d.number ++ "\n"))
    | 'l' => (.on, d.put (shown d.space ++ "\n"))
    | 'F' => (.on, d.put "-\n")
    | _ => (.on, d)

/-- Takes the steps from a place on for the lines that are left, but no more than so many; tells the
exit code. -/
def run (script : List Step) (contents : String → Option String) (isQuiet : Bool) :
    Nat → Nat → Desk → Nat × Desk
  | 0, _, d => (0, d)
  | n + 1, i, d =>
    let print (d : Desk) : Desk := if isQuiet then d else d.putLine d.space
    let nextLine (d : Desk) : Nat × Desk :=
      match d.next? with
      | some d => run script contents isQuiet n 0 { d with hasSubstituted := false }
      | none => (0, d)
    match script[i]? with
    | none => nextLine (print d).flush
    | some step =>
      let (isSelected, d) := d.selects i step.selection
      if isSelected == step.selection.isNegated then
        let place := match step.command with
          | .opens => blockEnd 0 (i + 1) (script.drop (i + 1))
          | _ => i + 1
        run script contents isQuiet n place d
      else
        let (turn, d) := d.take script contents i step.selection isQuiet step.command
        match turn with
        | .on => run script contents isQuiet n (i + 1) d
        | .onward place => run script contents isQuiet n place d
        | .end_ => nextLine (print d).flush
        | .drop => nextLine d.flush
        | .again => run script contents isQuiet n 0 d.flush
        | .quit prints code => (code, (if prints then print d else d).flush)

/-- The number of steps that are taken at most. -/
def stepLimit : Nat :=
  200000

/-- The exit code and the desk after a script has been carried out on some texts. -/
def edit (script : List Step) (contents : String → Option String) (isQuiet : Bool)
    (separator : String) (texts : List String) : Nat × Desk :=
  let linesOf (text : String) : List String := match (text.splitOn separator).reverse with
    | "" :: before => before.reverse
    | all => all.reverse
  let isEnded := match (texts.filter (· != "")).getLast? with
    | some text => text.endsWith separator
    | none => true
  let d : Desk := { upcoming := texts.flatMap linesOf, isEnded, ending := separator }
  match d.next? with
  | some d => run script contents isQuiet stepLimit 0 d
  | none => (0, d)

end Desk

end ServiceHarness.Editing

namespace ServiceHarness.Utility

open Editing

/-- The switches of `sed`. -/
def sedSwitches : List Switch :=
  [.plain 'n' "quiet", .long "silent", .long "debug", .valued 'e' "expression", .valued 'f' "file",
    .plain 'E' "regexp-extended", .plain 'r' "r", ⟨some 'i', "in-place", .optional⟩,
    .valued 'l' "line-length", .long "posix", .plain 's' "separate", .long "sandbox",
    .plain 'u' "unbuffered", .plain 'z' "null-data", .long "follow-symlinks"]

/-- The script that the options and the operands give, and the other operands. -/
def editingScript (o : Options) : Task (String × List String) := do
  let mut scripts := []
  for (word, value) in o.given do
    if word = "expression" then scripts := value.getD "" :: scripts
    if word = "file" then
      let name := value.getD ""
      match ← Task.input name with
      | .ok text => scripts := "\n".intercalate (plainLines text) :: scripts
      | .error fault => Task.fail s!"couldn't open file {name}: {fault.text}" 4
  match scripts, o.operands with
  | [], script :: names => return (script, names)
  | [], [] =>
    let name := (← read).name
    Task.tell s!"Usage: {name} [OPTION]... \x7bscript-only-if-no-other-script\x7d [input-file]..."
    Task.quit 1
  | given, names => return ("\n".intercalate given.reverse, names)

/-- Edits lines. -/
def sed : Utility := Task.utility fun args => do
  let o ← Task.options sedSwitches args
  let (text, names) ← editingScript o
  let isExtended := o.has "regexp-extended" || o.has "r"
  let source := if o.has "file" && !o.has "expression" then "file -" else "-e expression #1"
  let script ← match Editing.parse isExtended text with
    | .ok script => pure script
    | .error (place, fault) => Task.fail s!"{source}, char {place}: {fault}"
  match missingLabel? script with
  | some name => Task.fail s!"can't find label for jump to \x60{name}'" 4
  | none => pure ()
  let isQuiet := o.has "quiet" || o.has "silent" || text.startsWith "#n\n" || text = "#n"
  let m ← Task.look fun pid m => (pid, m)
  let contents (name : String) : Option String :=
    (m.2.files.read (m.2.directoryOf m.1) name).toOption
  let separator := if o.has "null-data" then "\x00" else "\n"
  let mut texts : List (String × String) := []
  for name in if names.isEmpty then ["-"] else names do
    match ← Task.input name with
    | .ok text => texts := texts ++ [(name, text)]
    | .error .isDirectory =>
      if o.has "in-place" then Task.complain s!"couldn't edit {name}: not a regular file" 4
      else Task.complain s!"read error on {name}: {PathFault.isDirectory.text}" 4
    | .error fault => Task.complain s!"can't read {name}: {fault.text}" 2
  let save (files : List (String × String)) : Task Unit := do
    for (name, text) in files do
      match ← Task.act fun pid m => match m.openPath pid name .write with
        | .ok (stream, m) => (Except.ok (), m.put stream text)
        | .error fault => (.error fault, m) with
      | .ok () => pure ()
      | .error fault => Task.fail s!"couldn't open file {name}: {fault.text}" 4
  if o.has "in-place" then
    for (name, text) in texts do
      let (code, d) := Desk.edit script contents isQuiet separator [text]
      match o.value? "in-place" with
      | some suffix => save [(name ++ suffix, text)]
      | none => pure ()
      save ((name, d.output) :: d.files)
      Task.mark code
  else
    let parts := if o.has "separate" then texts.map fun t => [t.2] else [texts.map (·.2)]
    for part in parts do
      let (code, d) := Desk.edit script contents isQuiet separator part
      Task.say d.output
      save d.files
      Task.mark code

end ServiceHarness.Utility
