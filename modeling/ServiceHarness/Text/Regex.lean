import ServiceHarness.Text.CharacterClass
import ServiceHarness.Text.Numeral

/-!
# Regular expressions

A `Regex` says what a piece of text has to look like.  `Regex.ends` gives the places up to which it
fits from a place on, those that are preferred first, and `Regex.find?` the first fit in a text,
which is the longest of those that begin there.  `Regex.parse` reads an expression in one of its two
notations: in the extended one the operators stand for themselves, in the basic one some of them
need a backslash.
-/

namespace ServiceHarness.Text

/-- A condition on a place. -/
inductive Edge where
  /-- The text begins. -/
  | start
  /-- The text ends. -/
  | finish
  /-- A word begins. -/
  | wordStart
  /-- A word ends. -/
  | wordEnd
  /-- A word begins or ends. -/
  | wordEdge
  /-- No word begins or ends. -/
  | noWordEdge
  deriving DecidableEq, Repr

/-- What a piece of text has to look like. -/
inductive Regex where
  /-- There is nothing. -/
  | empty
  /-- A character. -/
  | any
  /-- This character. -/
  | char (c : Char)
  /-- A character of a set, or one that is not in it. -/
  | set (isNegated : Bool) (members : List Member)
  /-- Nothing, at such a place. -/
  | edge (e : Edge)
  /-- A piece that is remembered under a number. -/
  | group (n : Nat) (body : Regex)
  /-- What is remembered under a number. -/
  | copy (n : Nat)
  /-- Two pieces, one after the other. -/
  | append (first second : Regex)
  /-- One of two pieces. -/
  | either (first second : Regex)
  /-- Pieces one after the other. -/
  | repeated (body : Regex) (least : Nat) (most : Option Nat)
  deriving Repr

namespace Regex

/-- A place in a text. -/
structure Place where
  /-- The characters before it, the nearest first. -/
  before : List Char
  /-- The characters after it. -/
  rest : List Char
  /-- The pieces that are remembered. -/
  groups : List (Nat × List Char) := []
  deriving DecidableEq, Repr

/-- The place behind the next character. -/
def Place.next? (p : Place) : Option (Char × Place) :=
  match p.rest with
  | c :: rest => some (c, { p with before := c :: p.before, rest })
  | [] => none

/-- The characters between two places. -/
def Place.upTo (p q : Place) : List Char :=
  (q.before.take (q.before.length - p.before.length)).reverse

/-- Whether a character belongs to words. -/
def isWord (c : Char) : Bool :=
  c.isAlphanum || c == '_'

/-- Whether a condition holds at a place. -/
def Edge.holds (e : Edge) (p : Place) : Bool :=
  let before := p.before.head?.any isWord
  let after := p.rest.head?.any isWord
  match e with
  | .start => p.before.isEmpty
  | .finish => p.rest.isEmpty
  | .wordStart => !before && after
  | .wordEnd => before && !after
  | .wordEdge => before != after
  | .noWordEdge => before == after

/-- Whether a character is a member of a set, where capital letters may count as small ones. -/
def hasMember (folds : Bool) (members : List Member) (c : Char) : Bool :=
  let isMember (c : Char) : Bool := members.any (Member.admits c)
  isMember c || (folds && (isMember c.toLower || isMember c.toUpper))

/-- The members of a list without those that occurred before. -/
def distinct (ps : List Place) : List Place :=
  ps.foldr (fun p rest => p :: rest.filter (· != p)) []

/-- The places that are reached in steps from a place on, at least and at most so many of them; the
last ones first. -/
def steps (step : Place → List Place) : Nat → Nat → Option Nat → Place → List Place
  | 0, _, _, p => [p]
  | n + 1, least, most, p =>
    let further :=
      if most = some 0 then []
      else
        let reached := (step p).filter fun q => least ≠ 0 || q.rest.length < p.rest.length
        reached.flatMap (steps step n (least - 1) (most.map (· - 1)))
    distinct (if least = 0 then further ++ [p] else further)

/-- The places up to which an expression fits from a place on, those that are preferred first. -/
def ends (folds : Bool) : Regex → Place → List Place
  | .empty, p => [p]
  | .any, p => one (fun _ => true) p
  | .char c, p => one (fun d => c == d || (folds && c.toLower == d.toLower)) p
  | .set isNegated members, p => one (fun c => hasMember folds members c != isNegated) p
  | .edge e, p => if Edge.holds e p then [p] else []
  | .group n body, p =>
    (ends folds body p).map fun q =>
      { q with groups := (n, p.upTo q) :: q.groups.filter (·.1 != n) }
  | .copy n, p =>
    match p.groups.lookup n with
    | none => []
    | some piece =>
      let there := p.rest.take piece.length
      let isSame := if folds then there.map Char.toLower == piece.map Char.toLower
        else there == piece
      if isSame then
        [{ p with before := there.reverse ++ p.before, rest := p.rest.drop piece.length }]
      else []
  | .append first second, p => distinct ((ends folds first p).flatMap (ends folds second))
  | .either first second, p => distinct (ends folds first p ++ ends folds second p)
  | .repeated body least most, p =>
    steps (ends folds body) (p.rest.length + least + 1) least most p
where
  /-- The place behind the next character, if that is in a class. -/
  one (isMeant : Char → Bool) (p : Place) : List Place :=
    match p.next? with
    | some (c, q) => if isMeant c then [q] else []
    | none => []

/-- The place that is the furthest, the first of several such. -/
def furthest? : List Place → Option Place
  | [] => none
  | p :: rest =>
    match furthest? rest with
    | some q => some (if q.rest.length < p.rest.length then q else p)
    | none => some p

/-- The place up to which an expression fits from a place on, if it does; places for which `accepts`
does not hold do not count. -/
def fit? (r : Regex) (folds : Bool) (accepts : Place → Place → Bool) (p : Place) : Option Place :=
  furthest? ((r.ends folds p).filter (accepts p))

/-- The first fit of an expression in a text, as the places at which it begins and ends. -/
def findWhere? (r : Regex) (folds : Bool) (accepts : Place → Place → Bool) (before : List Char) :
    List Char → Option (Place × Place)
  | [] =>
    let p : Place := ⟨before, [], []⟩
    (r.fit? folds accepts p).map (p, ·)
  | c :: rest =>
    let p : Place := ⟨before, c :: rest, []⟩
    match r.fit? folds accepts p with
    | some q => some (p, q)
    | none => findWhere? r folds accepts (c :: before) rest

/-- The first fit of an expression in the rest of a text. -/
def find? (r : Regex) (folds : Bool) (before rest : List Char) : Option (Place × Place) :=
  r.findWhere? folds (fun _ _ => true) before rest

/-- The number of pieces that are remembered. -/
def groupCount : Regex → Nat
  | .group _ body => body.groupCount + 1
  | .append first second | .either first second => first.groupCount + second.groupCount
  | .repeated body _ _ => body.groupCount
  | _ => 0

/-! ### Reading expressions -/

/-- What is wrong with an expression. -/
inductive Fault where
  /-- There is nothing behind a bracket. -/
  | emptySet
  /-- A set is not closed. -/
  | openSet
  /-- A group is not closed. -/
  | openGroup
  /-- A group is closed that has not been opened. -/
  | strayClose
  /-- A number of repetitions is not closed. -/
  | openInterval
  /-- A number of repetitions is none. -/
  | badInterval
  /-- There can be no such number of repetitions. -/
  | wrongInterval
  /-- There are too many repetitions. -/
  | tooManyTimes
  /-- There is nothing to be repeated. -/
  | nothingToRepeat
  /-- There is nothing behind a backslash. -/
  | trailingBackslash
  /-- Nothing is remembered under a number. -/
  | badCopy
  /-- A range ends before it begins. -/
  | badRange
  /-- There is no such class. -/
  | unknownClass
  deriving DecidableEq, Repr

/-- What is told of a fault. -/
def Fault.text : Fault → String
  | emptySet => "Invalid regular expression"
  | openSet => "Unmatched [, [^, [:, [., or [="
  | openGroup => "Unmatched ( or \\("
  | strayClose => "Unmatched ) or \\)"
  | openInterval => "Unmatched \\\x7b"
  | badInterval | wrongInterval => "Invalid content of \\\x7b\\\x7d"
  | tooManyTimes => "Regular expression too big"
  | nothingToRepeat => "Invalid preceding regular expression"
  | trailingBackslash => "Trailing backslash"
  | badCopy => "Invalid back reference"
  | badRange => "Invalid range end"
  | unknownClass => "Invalid character class name"

/-- A part of the notation. -/
inductive Token where
  /-- An expression. -/
  | part (r : Regex)
  /-- A number of repetitions. -/
  | times (least : Nat) (most : Option Nat)
  /-- The beginning of a group. -/
  | opens
  /-- The end of a group. -/
  | closes
  /-- What stands between alternatives. -/
  | bar
  deriving Repr

/-- The characters up to a closing mark and a bracket, as in `.]`, and what follows. -/
def upToMark (mark : Char) : List Char → Option (List Char × List Char)
  | a :: b :: rest =>
    if a == mark && b == ']' then some ([], rest)
    else (upToMark mark (b :: rest)).map fun (name, rest) => (a :: name, rest)
  | _ => none

/-- One character of a set, or one that a name in brackets means, and what follows. -/
def setEnd? : List Char → Except Fault (Char × List Char)
  | '[' :: mark :: rest =>
    if mark == '.' || mark == '=' then
      match upToMark mark rest with
      | some ([c], rest) => .ok (c, rest)
      | _ => .error .openSet
    else .ok ('[', mark :: rest)
  | c :: rest => .ok (c, rest)
  | [] => .error .openSet

/-- The members of a set of so many characters at most, and what follows its bracket. -/
def setMembers (isFirst : Bool) : Nat → List Char → Except Fault (List Member × List Char)
  | 0, _ | _, [] => .error .openSet
  | n + 1, ']' :: rest =>
    if isFirst then single n (']' :: rest) else .ok ([], rest)
  | n + 1, '[' :: ':' :: rest =>
    match CharacterClass.read? (':' :: rest), upToMark ':' rest with
    | some (k, rest), _ => do
      let (members, rest) ← setMembers false n rest
      return (.ofClass k :: members, rest)
    | none, some _ => .error .unknownClass
    | none, none => .error .openSet
  | n + 1, cs => single n cs
where
  /-- The members where one character, or a range of them, stands at the front. -/
  single (n : Nat) (cs : List Char) : Except Fault (List Member × List Char) := do
    let (c, rest) ← setEnd? cs
    let (last, rest) ← match rest with
      | '-' :: ']' :: _ => pure (c, rest)
      | '-' :: after => setEnd? after
      | _ => pure (c, rest)
    if last < c then throw .badRange
    let (members, rest) ← setMembers false n rest
    return (.range c last :: members, rest)

/-- The set that stands behind a bracket, and what follows. -/
def set? (cs : List Char) : Except Fault (Regex × List Char) := do
  let isNegated := cs.head? = some '^'
  let cs := if isNegated then cs.drop 1 else cs
  if cs.isEmpty then throw .emptySet
  let (members, rest) ← setMembers true (cs.length + 1) cs
  return (.set isNegated members, rest)

/-- The characters up to a comma or a closing mark, and what follows with that. -/
def upToBound (close : List Char) : List Char → List Char × List Char
  | [] => ([], [])
  | c :: rest =>
    if c = ',' || close.isPrefixOf (c :: rest) then ([], c :: rest)
    else
      let (bound, after) := upToBound close rest
      (c :: bound, after)

/-- The most repetitions that can be asked for. -/
def mostTimes : Nat :=
  32767

/-- The number of repetitions behind a brace, and what follows; the closing brace may need a
backslash. -/
def interval? (isExtended : Bool) (cs : List Char) : Except Fault (Token × List Char) := do
  let close : List Char := if isExtended then ['\x7d'] else ['\\', '\x7d']
  let (first, rest) := upToBound close cs
  let hasComma := rest.head? = some ','
  let (second, rest) := if hasComma then upToBound close (rest.drop 1) else (first, rest)
  if rest.isEmpty then throw .openInterval
  if first.isEmpty && !hasComma then throw .wrongInterval
  if !(first ++ second).all Char.isDigit then throw .badInterval
  if rest.head? = some ',' then throw .wrongInterval
  let least := (natural? 10 first).getD 0
  let most := natural? 10 second
  if most.any (· < least) then throw .wrongInterval
  if mostTimes < most.getD least then throw .tooManyTimes
  return (.times least most, rest.drop close.length)

/-- Whether characters that write no number of repetitions may stand for themselves. -/
def Fault.isPassable : Fault → Bool
  | openInterval | badInterval => true
  | _ => false

/-- What a letter behind a backslash means in both notations. -/
def special? : Char → Option Regex
  | '<' => some (.edge .wordStart)
  | '>' => some (.edge .wordEnd)
  | 'b' => some (.edge .wordEdge)
  | 'B' => some (.edge .noWordEdge)
  | '\x60' => some (.edge .start)
  | '\'' => some (.edge .finish)
  | 'w' => some (.set false [.ofClass .alnum, .range '_' '_'])
  | 'W' => some (.set true [.ofClass .alnum, .range '_' '_'])
  | 's' => some (.set false [.ofClass .space])
  | 'S' => some (.set true [.ofClass .space])
  | c =>
    if '1' ≤ c && c ≤ '9' then some (.copy (c.toNat - '0'.toNat)) else none

/-- The token of an operator, where it is one. -/
def operator? : Char → Option Token
  | '(' => some .opens
  | ')' => some .closes
  | '|' => some .bar
  | '+' => some (.times 1 none)
  | '?' => some (.times 0 (some 1))
  | _ => none

/-- Whether a place where a part may begin is one where the notation begins anew. -/
def beginsAnew : Option Token → Bool
  | none | some .opens | some .bar => true
  | _ => false

/-- Whether there is nothing to be repeated after a token. -/
def bearsNoTimes : Option Token → Bool
  | some (.part (.edge _)) => true
  | t => beginsAnew t

/-- The tokens of so many characters at most, after another token and in so many groups.  In the
lenient reading a sign that has nothing to work on is passed over or stands for itself. -/
def tokens (isExtended isLenient : Bool) :
    Nat → Nat → Option Token → List Char → Except Fault (List Token)
  | _, _, _, [] => .ok []
  | 0, _, _, _ => .ok []
  | n + 1, depth, before, c :: rest =>
    let go (t : Token) (rest : List Char) : Except Fault (List Token) := do
      let depth := match t with
        | .opens => depth + 1
        | .closes => depth - 1
        | _ => depth
      return t :: (← tokens isExtended isLenient n depth (some t) rest)
    let begins := beginsAnew before
    let literal := go (.part (.char c)) rest
    let repeated (t : Token) (rest : List Char) : Except Fault (List Token) :=
      if bearsNoTimes before then
        if !isLenient then .error .nothingToRepeat
        else tokens isExtended isLenient n depth before rest
      else go t rest
    match c with
    | '.' => go (.part .any) rest
    | '[' => do
      let (members, rest) ← set? rest
      go (.part members) rest
    | '*' =>
      if isExtended then repeated (.times 0 none) rest
      else if bearsNoTimes before then literal
      else if !isLenient && before matches some (.times ..) then .error .nothingToRepeat
      else go (.times 0 none) rest
    | '^' => if isExtended || begins then go (.part (.edge .start)) rest else literal
    | '$' =>
      let isLast := rest.isEmpty || [['\\', ')'], ['\\', '|']].contains (rest.take 2)
      if isExtended || isLast then go (.part (.edge .finish)) rest else literal
    | '\\' =>
      match rest with
      | [] => .error .trailingBackslash
      | d :: rest =>
        match special? d with
        | some r => go (.part r) rest
        | none =>
          if isExtended then go (.part (.char d)) rest
          else if d = '\x7b' then do
            if !isLenient && (bearsNoTimes before || before matches some (.times ..)) then
              throw .nothingToRepeat
            if bearsNoTimes before then go (.part (.char d)) rest
            else
              let (t, rest) ← interval? false rest
              go t rest
          else match operator? d with
          | some (.times least most) =>
            if bearsNoTimes before then go (.part (.char d)) rest
            else go (.times least most) rest
          | some t => go t rest
          | none => go (.part (.char d)) rest
    | '\x7b' =>
      if !isExtended then literal
      else if !isLenient && bearsNoTimes before then .error .nothingToRepeat
      else match interval? true rest with
      | .ok (t, rest) => repeated t rest
      | .error fault => if isLenient && fault.isPassable then literal else .error fault
    | c =>
      match if isExtended then operator? c else none with
      | some (.times least most) => repeated (.times least most) rest
      | some .closes => if depth = 0 && isLenient then literal else go .closes rest
      | some t => go t rest
      | none => literal

/-- An expression with the repetitions behind it, and what follows. -/
def withTimes (r : Regex) : List Token → Regex × List Token
  | .times least most :: rest => withTimes (.repeated r least most) rest
  | rest => (r, rest)

mutual

/-- The alternatives that some tokens begin with, after so many groups; the number of groups and
what follows. -/
def alternatives : Nat → Nat → List Token → Except Fault (Regex × Nat × List Token)
  | 0, groups, rest => .ok (.empty, groups, rest)
  | n + 1, groups, ts => do
    let (first, groups, rest) ← parts n groups ts
    match rest with
    | .bar :: rest =>
      let (others, groups, rest) ← alternatives n groups rest
      return (.either first others, groups, rest)
    | rest => return (first, groups, rest)

/-- The parts that some tokens begin with. -/
def parts : Nat → Nat → List Token → Except Fault (Regex × Nat × List Token)
  | n + 1, groups, .part r :: rest => do
    if let .copy k := r then
      if groups < k then throw .badCopy
    let (r, rest) := withTimes r rest
    let (others, groups, rest) ← parts n groups rest
    return (.append r others, groups, rest)
  | n + 1, groups, .opens :: rest => do
    let number := groups + 1
    let (body, groups, rest) ← alternatives n number rest
    match rest with
    | .closes :: rest =>
      let (r, rest) := withTimes (.group number body) rest
      let (others, groups, rest) ← parts n groups rest
      return (.append r others, groups, rest)
    | _ => throw .openGroup
  | n + 1, groups, .times _ _ :: rest => parts n groups rest
  | _, groups, rest => .ok (.empty, groups, rest)

end

/-- The expression that a text writes. -/
def parse (isExtended : Bool) (text : List Char) (isLenient : Bool := false) :
    Except Fault Regex := do
  let ts ← tokens isExtended isLenient text.length 0 none text
  let (r, _, rest) ← alternatives (2 * ts.length + 2) 0 ts
  if rest.isEmpty then return r else throw .strayClose

/-- The expression that fits one text only. -/
def literal (text : List Char) : Regex :=
  text.foldr (fun c r => .append (.char c) r) .empty

end Regex

end ServiceHarness.Text
