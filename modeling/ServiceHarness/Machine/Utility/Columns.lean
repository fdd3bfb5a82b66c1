import ServiceHarness.Machine.Utility.Order
import ServiceHarness.Text.CharacterClass

/-!
# Utilities on characters and columns

`cut` takes parts of lines by the places of characters or fields, and `tr` puts characters in the
place of others, or takes them out.
-/

namespace ServiceHarness.Utility

/-! ### Places -/

/-- A range of places, which are counted from one; it may have no end. -/
structure Span where
  /-- The first place. -/
  first : Nat
  /-- The last place. -/
  last : Option Nat
  deriving DecidableEq, Repr

/-- Whether a place is in a range. -/
def Span.contains (s : Span) (n : Nat) : Bool :=
  s.first ≤ n && s.last.all (n ≤ ·)

/-- What is wrong with a list of places. -/
inductive SpanFault where
  /-- A place is zero. -/
  | zero
  /-- A range ends before it begins. -/
  | decreasing
  /-- A range has neither end. -/
  | endless
  /-- Something is no number. -/
  | unreadable (text : String)
  deriving DecidableEq, Repr

/-- What is told of a fault about fields or characters. -/
def SpanFault.text (ofFields : Bool) : SpanFault → String
  | zero =>
    if ofFields then "fields are numbered from 1"
    else "byte/character positions are numbered from 1"
  | decreasing => "invalid decreasing range"
  | endless => "invalid range with no endpoint: -"
  | unreadable text =>
    let shown := Name.quoted text
    (if ofFields then "invalid field value " else "invalid byte/character position ") ++ shown

/-- The range that a text writes. -/
def span? (text : String) : Except SpanFault Span := do
  let number (part : String) : Except SpanFault Nat :=
    match Text.natural? 10 part.toList with
    | some n => .ok n
    | none =>
      .error (.unreadable (String.ofList (part.toList.dropWhile Char.isDigit)))
  let positive (part : String) : Except SpanFault Nat := do
    let n ← number part
    if n = 0 then throw .zero
    return n
  match text.splitOn "-" with
  | [only] =>
    let n ← positive only
    return ⟨n, some n⟩
  | ["", ""] => throw .endless
  | ["", last] => return ⟨1, some (← positive last)⟩
  | [first, ""] => return ⟨← positive first, none⟩
  | [first, last] =>
    let (a, b) := (← positive first, ← number last)
    if b < a then throw .decreasing
    return ⟨a, some b⟩
  | _ => throw (.unreadable text)

/-- The ranges that a list writes, with commas or blanks between them. -/
def spans? (text : String) : Except SpanFault (List Span) :=
  ((text.map fun c => if c = ' ' then ',' else c).splitOn ",").mapM span?

/-- The items at the places that are meant, with the number of each. -/
def chosen {α : Type} (isMeant : Nat → Bool) (items : List α) : List (α × Nat) :=
  (items.zipIdx.map fun (a, i) => (a, i + 1)).filter fun e => isMeant e.2

/-- Characters at the places that are meant, with a text between those that are apart. -/
def cutCharacters (isMeant : Nat → Bool) (gap : String) (line : String) : String :=
  ((chosen isMeant line.toList).foldl
    (fun (shown, before) (c, n) =>
      let between := if shown ≠ "" && before + 1 ≠ n then gap else ""
      (shown ++ between ++ String.ofList [c], n))
    ("", 0)).1

/-- The fields at the places that are meant, where the line has more than one. -/
def cutFields (isMeant : Nat → Bool) (delimiter gap : String) (onlyDelimited : Bool)
    (line : String) : Option String :=
  let fields := line.splitOn delimiter
  if fields.length = 1 then if onlyDelimited then none else some line
  else some (gap.intercalate ((chosen isMeant fields).map (·.1)))

/-- Takes parts of lines. -/
def cut : Utility := Task.utility fun args => do
  let o ← Task.options
    [.valued 'b' "bytes", .valued 'c' "characters", .valued 'f' "fields",
      .valued 'd' "delimiter", .plain 'n' "n", .plain 's' "only-delimited",
      .plain 'z' "zero-terminated", .long "complement", .long "output-delimiter" .required] args
  let lists := o.given.filter fun g => ["bytes", "characters", "fields"].contains g.1
  let ofFields := o.has "fields"
  let list ← match lists with
    | [] => Task.refuse "you must specify a list of bytes, characters, or fields"
    | [g] => pure (g.2.getD "")
    | _ => Task.refuse "only one list may be specified"
  let delimiter := (o.value? "delimiter").getD "\t"
  if delimiter.length > 1 then Task.refuse "the delimiter must be a single character"
  if !ofFields && o.has "delimiter" then
    Task.refuse "an input delimiter may be specified only when operating on fields"
  if !ofFields && o.has "only-delimited" then
    Task.refuse ("suppressing non-delimited lines makes sense\n\t"
      ++ "only when operating on fields")
  let spans ← match spans? list with
    | .ok spans => pure spans
    | .error fault => Task.refuse (fault.text ofFields)
  let isMeant (n : Nat) : Bool :=
    spans.any (·.contains n) != o.has "complement"
  let gap := o.value? "output-delimiter"
  let ending := if o.has "zero-terminated" then "\x00" else "\n"
  let delimiter := if delimiter = "" then "\x00" else delimiter
  let shown (line : String) : Option String :=
    if ofFields then
      cutFields isMeant delimiter (gap.getD delimiter) (o.has "only-delimited") line
    else some (cutCharacters isMeant (gap.getD "") line)
  eachText o.inputs
    (fun _ text => Task.say (String.join (((linesBy o text).filterMap shown).map (· ++ ending))))
    plainComplaint

/-! ### Sets of characters -/

/-- A part of the description of a set. -/
inductive SetItem where
  /-- These characters. -/
  | characters (cs : List Char)
  /-- A class. -/
  | ofClass (k : Text.CharacterClass)
  /-- One character so many times, or as often as is needed. -/
  | repeated (c : Char) (count : Option Nat)
  deriving DecidableEq, Repr

/-- The character for which what stands behind a backslash stands, and what follows. -/
def unescaped : List Char → Char × List Char
  | [] => ('\\', [])
  | c :: rest =>
    let digits := (c :: rest).takeWhile fun c => '0' ≤ c && c ≤ '7'
    if !digits.isEmpty then
      let digits := digits.take 3
      (Char.ofNat ((Text.natural? 8 digits).getD 0 % 256), (c :: rest).drop digits.length)
    else
      let known := [('a', '\x07'), ('b', '\x08'), ('f', '\x0c'), ('n', '\n'), ('r', '\r'),
        ('t', '\t'), ('v', '\x0b')]
      ((known.lookup c).getD c, rest)

/-- A set with its escapes resolved; each character with whether it stood for itself. -/
def setCharacters : Nat → List Char → List (Char × Bool)
  | n + 1, '\\' :: rest =>
    let (c, rest) := unescaped rest
    (c, true) :: setCharacters n rest
  | n + 1, c :: rest => (c, false) :: setCharacters n rest
  | _, _ => []

/-- The characters from one to another. -/
def rangeOf (a b : Char) : List Char :=
  (List.range (b.toNat + 1 - a.toNat)).map fun i => Char.ofNat (a.toNat + i)

/-- The class, the equivalence or the repetition that stands in brackets at the front, and what
follows. -/
def bracketed? : List (Char × Bool) → Option (Except String SetItem × List (Char × Bool))
  | (':', false) :: rest =>
    let name := rest.takeWhile (· != (':', false))
    match rest.drop name.length with
    | (':', false) :: (']', false) :: after =>
      let text := String.ofList (name.map (·.1))
      some (match Text.CharacterClass.names.lookup text with
        | some k => .ok (.ofClass k)
        | none =>
          let shown := Name.quoted text
          .error s!"invalid character class {shown}", after)
    | _ => none
  | ('=', false) :: (c, _) :: ('=', false) :: (']', false) :: after =>
    some (.ok (.characters [c]), after)
  | (c, _) :: ('*', false) :: rest =>
    let digits := (rest.map (·.1)).takeWhile Char.isDigit
    match rest.drop digits.length with
    | (']', false) :: after =>
      let base := if digits.head? = some '0' then 8 else 10
      let count := (Text.natural? base digits).filter (· != 0)
      some (.ok (.repeated c count), after)
    | _ => none
  | _ => none

/-- The parts of the description of a set of so many characters at most. -/
def setItems : Nat → List (Char × Bool) → Except String (List SetItem)
  | n + 1, ('[', false) :: rest =>
    match bracketed? rest with
    | some (item, after) => return (← item) :: (← setItems n after)
    | none => afterOne n '[' rest
  | n + 1, (c, _) :: rest => afterOne n c rest
  | _, _ => .ok []
where
  /-- The parts where one character has been read, which may begin a range. -/
  afterOne (n : Nat) (c : Char) : List (Char × Bool) → Except String (List SetItem)
    | ('-', false) :: (d, _) :: rest => do
      if d < c then
        let shown := Name.quoted (String.ofList [c, '-', d])
        throw s!"range-endpoints of {shown} are in reverse collating sequence order"
      return .characters (rangeOf c d) :: (← setItems n rest)
    | rest => return .characters [c] :: (← setItems n rest)

/-- The parts of the description of a set. -/
def set? (text : String) : Except String (List SetItem) :=
  let cs := setCharacters text.length text.toList
  setItems (cs.length + 1) cs

/-- The characters of a set; one that is repeated as needed fills it to a length. -/
def members (length : Nat) (items : List SetItem) : List Char :=
  let sizeOf : SetItem → Nat
    | .characters cs => cs.length
    | .ofClass k => k.members.length
    | .repeated _ count => count.getD 0
  let others := items.foldl (fun n i => n + sizeOf i) 0
  items.flatMap fun
    | .characters cs => cs
    | .ofClass k => k.members
    | .repeated c count => List.replicate (count.getD (length - others)) c

/-- A list filled to a length with its last member. -/
def filled (length : Nat) (cs : List Char) : List Char :=
  match cs.getLast? with
  | some c => cs ++ List.replicate (length - cs.length) c
  | none => cs

/-- The characters that are not in a set, in ascending order. -/
def complementOf (cs : List Char) : List Char :=
  ((List.range 256).map Char.ofNat).filter fun c => !cs.contains c

/-- A text in which no character of a class follows itself. -/
def squeezed (p : Char → Bool) : List Char → List Char
  | a :: b :: rest =>
    if a == b && p a then squeezed p (b :: rest) else a :: squeezed p (b :: rest)
  | cs => cs

/-- The character that takes the place of another one. -/
def translated (pairs : List (Char × Char)) (last : Option Char) (c : Char) : Char :=
  match pairs.lookup c with
  | some d => d
  | none => if 256 ≤ c.toNat then last.getD c else c

/-- Puts characters in the place of others, or takes them out. -/
def tr : Utility := Task.utility fun args => do
  let o ← Task.options
    [.plain 'c' "complement", .plain 'C' "C", .plain 'd' "delete", .plain 's' "squeeze-repeats",
      .plain 't' "truncate-set1"] args 1 true
  let (deletes, squeezes) := (o.has "delete", o.has "squeeze-repeats")
  let translates := !deletes && (o.operands.length > 1 || !squeezes)
  let most := if deletes && !squeezes then 1 else 2
  let least := if deletes == squeezes then 2 else 1
  if o.operands.isEmpty then Task.refuse "missing operand"
  if o.operands.length < least then
    let shown := Name.quoted (o.operands.headD "")
    Task.complain s!"missing operand after {shown}"
    Task.tell (if squeezes then "Two strings must be given when both deleting and squeezing repeats."
      else "Two strings must be given when translating.")
    let name := (← read).name
    Task.tell s!"Try '{name} --help' for more information."
    Task.quit 1
  if most < o.operands.length then
    let shown := Name.quoted (o.operands.getD most "")
    Task.complain s!"extra operand {shown}"
    if o.operands.length = 2 then
      Task.tell "Only one string may be given when deleting without squeezing repeats."
    let name := (← read).name
    Task.tell s!"Try '{name} --help' for more information."
    Task.quit 1
  let parsed (text : String) : Task (List SetItem) := do
    match set? text with
    | .ok items => return items
    | .error fault => Task.fail fault
  let isComplement := o.has "complement" || o.has "C"
  let given := members 0 (← parsed (o.operands.headD ""))
  let first := if isComplement then complementOf given else given
  let items ← parsed (o.operands.getD 1 "")
  let second := members first.length items
  if translates && second.isEmpty && !o.has "truncate-set1" then
    Task.fail "when not truncating set1, string2 must be non-empty"
  let isIn (c : Char) : Bool := given.contains c != isComplement
  let replacement := if o.has "truncate-set1" then second else filled first.length second
  let last := if isComplement then second.getLast? else none
  let pairs := (first.zip replacement).reverse
  match ← Task.input "-" with
  | .error fault => Task.complain s!"read error: {fault.text}"
  | .ok text =>
    let cs := text.toList
    let changed :=
      if deletes then cs.filter fun c => !isIn c
      else if translates then cs.map (translated pairs last) else cs
    let isSqueezed (c : Char) : Bool :=
      if o.operands.length > 1 then second.contains c else isIn c
    Task.say (String.ofList (if squeezes then squeezed isSqueezed changed else changed))

end ServiceHarness.Utility
