import ServiceHarness.Machine.Shell.Reading

/-!
# The words of the shell

This module reads words and tokens.  Words hold scripts and scripts hold words, so what reads a
word is given what reads the things `Within` it.
-/

namespace ServiceHarness.Shell

open Reading

/-- Where a word stands, which tells where it ends and what is special in it. -/
inductive Context where
  /-- On its own. -/
  | plain
  /-- It is the last line of a document, in which nothing stands for something else. -/
  | delimiter
  /-- Between double quotes. -/
  | quotes
  /-- In braces, perhaps between double quotes. -/
  | braces (quoted : Bool)
  /-- It is all there is, as if between double quotes. -/
  | document
  /-- It is an expression, up to the brackets that close it. -/
  | expression
  deriving DecidableEq, Repr

namespace Context

/-- Whether what stands there is quoted. -/
def isQuoted : Context → Bool
  | .plain => false
  | .delimiter => false
  | .quotes => true
  | .braces quoted => quoted
  | .document => true
  | .expression => true

/-- Whether a character ends a word that stands on its own. -/
def isMeta (c : Char) : Bool :=
  " \t\n;&|<>()".contains c

/-- Whether a character ends the word. -/
def endsAt (c : Char) : Context → Bool
  | .plain => isMeta c
  | .delimiter => isMeta c
  | .quotes => c == '"'
  | .braces _ => c == '\x7d'
  | .document => false
  | .expression => false

/-- What is wrong if the script ends before the word does. -/
def missing : Context → Option String
  | .plain => none
  | .delimiter => none
  | .quotes => some "Unterminated quoted string"
  | .braces true => some "Unterminated quoted string"
  | .braces false => some "Missing '\x7d'"
  | .document => none
  | .expression => some "Missing '))'"

/-- Whether a dollar sign is special. -/
def expands (c : Context) : Bool :=
  c != .delimiter

/-- Whether a single quote is special. -/
def hasSingleQuotes (c : Context) : Bool :=
  !c.isQuoted

/-- Whether a double quote is special where it does not end the word. -/
def hasDoubleQuotes (c : Context) : Bool :=
  c != .document && c != .expression

end Context

/-- What reads the things within something else. -/
structure Within where
  /-- Reads the parts of a word, but not what ends it. -/
  word : Context → Reading Word
  /-- Reads commands up to something that cannot begin one. -/
  script : Reading Script
  /-- Reads commands and the bracket that closes them. -/
  bracketed : Reading Script

namespace Lexicon

/-! ### Parameters -/

/-- Whether a character is the name of a parameter of its own. -/
def isSpecial (c : Char) : Bool :=
  "@*#?-$!".contains c || c.isDigit

/-- What is done with the value of a parameter in braces, as far as the mark tells. -/
def fallback? (mark : Char) : Option Fallback :=
  match mark with
  | '-' => some .default
  | '=' => some .assign
  | '?' => some .fail
  | '+' => some .alternative
  | _ => none

/-- What is done with the value of a parameter in braces, and the braces closed. -/
def use (w : Within) (quoted : Bool) : Reading Use := do
  let unknown : Reading Use := do
    let _ ← w.word (.braces quoted)
    skip
    return .unknown
  let orEmpty ← accept ':'
  match ← peek with
  | none => unknown
  | some c =>
    if c = '\x7d' && !orEmpty then
      skip
      return .plain
    else if (c = '%' || c = '#') && !orEmpty then
      skip
      let longest ← accept c
      let pattern ← w.word (.braces false)
      skip
      return .trimmed (c == '%') longest pattern
    else match fallback? c with
      | none => unknown
      | some kind =>
        skip
        let word ← w.word (.braces quoted)
        skip
        return .fallback kind orEmpty word

/-- The name of a parameter in braces. -/
def parameterName : Reading (Option String) := do
  match ← peek with
  | none => return none
  | some c =>
    if beginsName c then return some (← span isInName)
    else if c.isDigit then return some (← span Char.isDigit)
    else if isSpecial c then
      skip
      return some (String.singleton c)
    else return none

/-- What stands in braces after a dollar sign. -/
def braced (w : Within) (quoted : Bool) : Reading Part := do
  let named (name : String) : Reading Part := do
    return .parameter name (← use w quoted) quoted
  let unknown : Reading Part := do
    let _ ← w.word (.braces quoted)
    skip
    return .parameter "" .unknown quoted
  if ← accept '#' then
    let before ← get
    match ← parameterName with
    | some name =>
      let isLength := name.toList.any isInName || (← peek) == some '\x7d'
      if isLength then
        let _ ← w.word (.braces quoted)
        skip
        return .parameter name .length quoted
      set before
      named "#"
    | none => named "#"
  else match ← parameterName with
    | some name => named name
    | none => unknown

/-! ### Commands and expressions in words -/

/-- The text between back quotes, in which a backslash takes away the meaning of some
characters, and what follows. -/
def splitBackquoted (quoted : Bool) : List Char → Option (List Char × List Char)
  | '\x60' :: rest => some ([], rest)
  | '\\' :: '\n' :: rest => splitBackquoted quoted rest
  | '\\' :: c :: rest =>
    let kept :=
      if c == '$' || c == '\x60' || c == '\\' || (quoted && c == '"') then [c] else ['\\', c]
    (splitBackquoted quoted rest).map fun (text, rest) => (kept ++ text, rest)
  | c :: rest => (splitBackquoted quoted rest).map fun (text, rest) => (c :: text, rest)
  | [] => none

/-- A command between back quotes. -/
def backquoted (w : Within) (quoted : Bool) : Reading Part := do
  skip
  let r ← get
  match splitBackquoted quoted r.rest with
  | none => fault "EOF in backquote substitution"
  | some (text, rest) =>
    let script ← within text w.script
    let taken := r.rest.take (r.rest.length - rest.length)
    set { r with rest, line := r.line + taken.count '\n' }
    return .output script quoted

/-- What a dollar sign begins. -/
def dollar (w : Within) (quoted : Bool) : Reading Part := do
  skip
  match ← peek with
  | some '(' =>
    skip
    if ← accept '(' then return .value (← w.word .expression) quoted
    return .output (← w.bracketed) quoted
  | some '\x7b' =>
    skip
    braced w quoted
  | some c =>
    if beginsName c then return .parameter (← span isInName) .plain quoted
    else if isSpecial c then
      skip
      return .parameter (String.singleton c) .plain quoted
    else return .text "$" quoted
  | none => return .text "$" quoted

/-! ### Words -/

/-- What a backslash begins. -/
def escaped (context : Context) : Reading Word := do
  skip
  match ← look with
  | none => return [.text "\\" true]
  | some c =>
    skip
    let isSpecial := c == '$' || c == '\x60' || c == '\\'
      || (c == '"' && context.hasDoubleQuotes) || (c == '\x7d' && context == .braces true)
    if !context.isQuoted || isSpecial then return [.text (String.singleton c) true]
    else return [.text (String.ofList ['\\', c]) true]

/-- A text between single quotes. -/
def singleQuoted : Reading Word := do
  skip
  let cs ← many do
    match ← look with
    | none => fault "Unterminated quoted string"
    | some '\'' => return none
    | some c =>
      skip
      return some c
  skip
  return [.text (String.ofList cs) true]

/-- What stands between double quotes. -/
def doubleQuoted (w : Within) : Reading Word := do
  skip
  let parts ← w.word .quotes
  skip
  return if parts.isEmpty then [.text "" true] else parts

/-- The next parts of a word, if it does not end there, with so many brackets of an expression
open; and how many are open then. -/
def step (w : Within) (context : Context) (depth : Nat) : Reading (Option (Word × Nat)) := do
  let quoted := context.isQuoted
  let literal (c : Char) : Option (Word × Nat) := some ([.text (String.singleton c) quoted], depth)
  match ← peek with
  | none =>
    match context.missing with
    | some text => fault text
    | none => return none
  | some c =>
    if context.endsAt c then return none
    else if c == '$' && context.expands then return some ([← dollar w quoted], depth)
    else if c == '\x60' && context.expands then return some ([← backquoted w quoted], depth)
    else if c == '\\' then return some (← escaped context, depth)
    else if c == '"' && context.hasDoubleQuotes then return some (← doubleQuoted w, depth)
    else if c == '\'' && context.hasSingleQuotes then return some (← singleQuoted, depth)
    else if context == .expression then
      skip
      if c == '(' then return some ([.text "(" quoted], depth + 1)
      else if c != ')' then return literal c
      else if depth > 0 then return some ([.text ")" quoted], depth - 1)
      else if ← accept ')' then return none
      else return literal c
    else
      skip
      return literal c

/-- The parts of a word up to where it ends, at most so many, with so many brackets of an
expression open. -/
def partsUpTo (w : Within) (context : Context) : Nat → Nat → Reading Word
  | 0, _ => pure []
  | n + 1, depth => do
    match ← step w context depth with
    | none => return []
    | some (parts, depth) => return parts ++ (← partsUpTo w context n depth)

/-- The word with its text in as few parts as possible. -/
def merged : Word → Word
  | [] => []
  | .text s quoted :: rest =>
    match merged rest with
    | .text t q :: more => if q = quoted then .text (s ++ t) quoted :: more
      else .text s quoted :: .text t q :: more
    | more => .text s quoted :: more
  | part :: rest => part :: merged rest

/-- The parts of a word up to where it ends. -/
def parts (w : Within) (context : Context) : Reading Word :=
  merged <$> partsUpTo w context limit 0

/-! ### Tokens -/

/-- What may become of a token. -/
structure Expected where
  /-- Whether ends of lines are passed over. -/
  newlines : Bool := false
  /-- Whether words may belong to the grammar. -/
  keywords : Bool := false
  /-- Whether words may be aliases. -/
  aliases : Bool := false

/-- At the beginning of a command. -/
def Expected.command : Expected :=
  ⟨false, true, true⟩

/-- At the beginning of a command, which may be on a later line. -/
def Expected.later : Expected :=
  ⟨true, true, true⟩

/-- The operators, longer ones before those with which they begin. -/
def operators : List (List Char) :=
  [['&', '&'], ['&'], ['|', '|'], ['|'], [';', ';'], [';'], ['('], [')']]

/-- Goes on behind blanks and comments. -/
def blanks : Reading Unit := do
  let _ ← many do
    match ← peek with
    | some c =>
      if c == ' ' || c == '\t' then
        skip
        return some ()
      else if c == '#' then
        modify fun r => { r with rest := r.rest.dropWhile (· != '\n') }
        return some ()
      else return none
    | none => return none

/-- The sign that makes a redirection of the stream of a number, or of the usual one. -/
def redirection (number : Option Nat) : Reading Token := do
  if ← accept '>' then
    let number := number.getD 1
    if ← accept '>' then return .redirect number .append
    else if ← accept '|' then return .redirect number .force
    else if ← accept '&' then return .redirect number .duplicate
    else return .redirect number .output
  else
    skip
    let number := number.getD 0
    if ← accept '<' then return .document number (← accept '-')
    else if ← accept '&' then return .redirect number .duplicate
    else if ← accept '>' then return .redirect number .both
    else return .redirect number .input

/-- The word that follows, or a redirection if it is no more than the number of a stream. -/
def wordToken (w : Within) (context : Context) : Reading Token := do
  let word ← w.word context
  let next ← peek
  let digit? := match Word.literal? word with
    | none => none
    | some s => match s.toList with
      | [] => some none
      | [c] => if c.isDigit then some (some (c.toNat - '0'.toNat)) else none
      | _ => none
  match digit? with
  | some number =>
    if next = some '<' || next = some '>' then redirection number else return .word word
  | none => return .word word

/-- The next token as it stands, of which a word is read in some context. -/
def plainToken (w : Within) (context : Context) : Reading Token := do
  blanks
  match ← peek with
  | none => return .ending
  | some '\n' =>
    skip
    return .newline
  | some c =>
    match operators.filter (·.head? = some c) with
    | [] => wordToken w context
    | [longer, shorter] =>
      skip
      if ← accept c then return .operator (String.ofList longer)
      else return .operator (String.ofList shorter)
    | _ =>
      skip
      return .operator (String.singleton c)

/-- Whether an alias is being read. -/
def Reader.reads (r : Reader) (name : String) : Bool :=
  r.active.any fun a => a.name == name && a.below ≤ r.rest.length

/-- The next token as it stands; also whether it is a word after an alias whose text ends in a
blank. -/
def freshToken (w : Within) : Reading (Token × Bool) := do
  let r ← get
  if r.active.isEmpty then return (← plainToken w .plain, false)
  blanks
  let after ← get
  let start := r.rest.length
  let stop := after.rest.length
  let reached := r.active.any fun a => a.reaches && a.below < start && stop ≤ a.below
  set { after with active := after.active.filter fun a => a.below ≤ stop }
  return (← plainToken w .plain, reached)

/-- The next token, at most so many aliases away. -/
def tokenWithin (w : Within) : Nat → Expected → Reading Token
  | 0, _ => pure .ending
  | n + 1, expected => do
    let held := (← get).held
    modify fun r => { r with held := none }
    let (t, reached) ← match held with
      | some t => pure (t, false)
      | none => freshToken w
    match t with
    | .newline => if expected.newlines then tokenWithin w n expected else return t
    | .word word =>
      match Word.literal? word with
      | none => return t
      | some name =>
        if expected.keywords && keywords.contains name then return .keyword name
        let r ← get
        if !(expected.aliases || reached) || Reader.reads r name then return t
        match r.aliases.get? name with
        | none => return t
        | some text =>
          let active : ActiveAlias :=
            ⟨name, r.rest.length, text.endsWith " " || text.endsWith "\t"⟩
          set { r with
            rest := text.toList ++ r.rest
            active := if text = "" then r.active else active :: r.active }
          tokenWithin w n { expected with aliases := expected.aliases || reached }
    | _ => return t

/-- The next token. -/
def token (w : Within) (expected : Expected := {}) : Reading Token :=
  tokenWithin w limit expected

/-- Puts a token back. -/
def putBack (t : Token) : Reading Unit :=
  modify fun r => { r with held := some t }

/-! ### Documents -/

/-- The end of the present line, in which quotes may hold ends of lines, and what is below. -/
def splitLine : Option Char → List Char → List Char × List Char
  | none, '\n' :: rest => ([], rest)
  | quote, c :: rest =>
    let quote :=
      if quote = some '\\' then none
      else if quote = some c then none
      else if quote = none && (c == '\'' || c == '"' || c == '\\') then some c
      else quote
    (c :: (splitLine quote rest).1, (splitLine quote rest).2)
  | _, [] => ([], [])

/-- Whether a line goes on in the next one. -/
def continues (line : String) : Bool :=
  (line.toList.reverse.takeWhile (· == '\\')).length % 2 == 1

/-- The lines up to one that is the delimiter, their number with that, and what follows it. -/
def splitDocument (delimiter : String) (dropsTabs joins : Bool) :
    Bool → List String → String × Nat × List String
  | _, [] => ("", 0, [])
  | joined, line :: rest =>
    let line := if dropsTabs then String.ofList (line.toList.dropWhile (· == '\t')) else line
    if !joined && line = delimiter then ("", 1, rest)
    else
      let (text, n, below) := splitDocument delimiter dropsTabs joins (joins && continues line) rest
      (if rest.isEmpty then line else line ++ "\n" ++ text, n + 1, below)

/-- The text of a document, which is taken out below the present line. -/
def document (w : Within) (dropsTabs : Bool) : Reading Word := do
  let delimiter ← match ← plainToken w .delimiter with
    | .word word => pure word
    | t => unexpected t
  let isQuoted := Word.isQuoted delimiter
  let r ← get
  let (line, below) := splitLine none r.rest
  let (text, n, rest) := splitDocument (Word.plainText delimiter) dropsTabs (!isQuoted) false
    ((String.ofList below).splitOn "\n")
  set { r with
    rest := line ++ '\n' :: ("\n".intercalate rest).toList
    removed := r.removed + n }
  if isQuoted then return [.text text true]
  within text.toList (w.word .document)

end Lexicon

end ServiceHarness.Shell
