import ServiceHarness.Machine.Utility.Lines

/-!
# Utilities on sorted lines

`sort` puts lines in order by keys, `uniq` deals with equal lines that follow each other, and `comm`
compares sorted files.
-/

namespace ServiceHarness.Utility

/-! ### Keys -/

/-- How two keys are compared. -/
inductive Collation where
  /-- By their characters. -/
  | characters
  /-- By the numbers at their beginning. -/
  | numbers
  /-- By such numbers, which may have an exponent. -/
  | scientific
  /-- By such numbers with the letter of a unit. -/
  | units
  /-- By the months that they name. -/
  | months
  /-- By the numbers within them. -/
  | versions
  deriving DecidableEq, Repr

/-- What a key does about the order. -/
structure KeyOrder where
  /-- How keys are compared. -/
  collation : Collation := .characters
  /-- Whether the order is turned around. -/
  isReversed : Bool := false
  /-- Whether capital letters count as small ones. -/
  foldsCase : Bool := false
  /-- Whether only letters, digits and blanks count. -/
  isDictionary : Bool := false
  /-- Whether blanks before the key do not count. -/
  skipsBlanks : Bool := false
  deriving DecidableEq, Repr

/-- The ordering after a letter that says something about it. -/
def KeyOrder.withLetter (o : KeyOrder) : Char → Option KeyOrder
  | 'n' => some { o with collation := .numbers }
  | 'g' => some { o with collation := .scientific }
  | 'h' => some { o with collation := .units }
  | 'M' => some { o with collation := .months }
  | 'V' => some { o with collation := .versions }
  | 'r' => some { o with isReversed := true }
  | 'f' => some { o with foldsCase := true }
  | 'd' => some { o with isDictionary := true }
  | 'i' => some o
  | 'b' => some { o with skipsBlanks := true }
  | _ => none

/-- A key: the part of a line by which it is sorted. -/
structure Key where
  /-- The number of fields before it. -/
  field : Nat := 0
  /-- The number of characters of its field before it. -/
  character : Nat := 0
  /-- The number of fields up to its end, and the number of characters there of the next one. -/
  end_ : Option (Nat × Nat) := none
  /-- Its ordering. -/
  ordering : KeyOrder := {}
  /-- Whether blanks before its end do not count. -/
  skipsEndBlanks : Bool := false
  deriving DecidableEq, Repr

/-- Whether a character separates fields where nothing else is said. -/
def isBlank (c : Char) : Bool :=
  c == ' ' || c == '\t' || c == '\n'

/-- The characters after so many fields. -/
def afterFields (separator : Option Char) : Nat → List Char → List Char
  | 0, cs => cs
  | n + 1, cs =>
    match separator with
    | some s => afterFields separator n ((cs.dropWhile (· != s)).drop 1)
    | none => afterFields separator n ((cs.dropWhile isBlank).dropWhile fun c => !isBlank c)

/-- The number of characters in so many fields, without the separator after the last. -/
def fieldsLength (separator : Option Char) (n : Nat) (cs : List Char) : Nat :=
  match separator, n with
  | _, 0 => 0
  | some s, n + 1 =>
    let rest := afterFields separator n cs
    cs.length - rest.length + (rest.takeWhile (· != s)).length
  | none, n => cs.length - (afterFields separator n cs).length

/-- The part of a line that a key is. -/
def Key.of (k : Key) (separator : Option Char) (line : List Char) : List Char :=
  let start := afterFields separator k.field line
  let start := if k.ordering.skipsBlanks then start.dropWhile isBlank else start
  let begins := line.length - (start.drop k.character).length
  let ends := match k.end_ with
    | none => line.length
    | some (field, 0) => fieldsLength separator field line
    | some (field, n) =>
      let rest := afterFields separator (field - 1) line
      let rest := if k.skipsEndBlanks then rest.dropWhile isBlank else rest
      line.length - (rest.drop n).length
  (line.take ends).drop begins

/-! ### Comparing -/

/-- A decimal number: a whole number of units, each a power of ten. -/
structure Scaled where
  /-- The number of units. -/
  units : Int
  /-- The exponent of ten of a unit. -/
  exponent : Int

/-- How two decimal numbers compare. -/
def Scaled.compare (a b : Scaled) : Ordering :=
  let least := min a.exponent b.exponent
  let at_ (s : Scaled) : Int := s.units * (Nat.pow 10 (s.exponent - least).toNat : Nat)
  Ord.compare (at_ a) (at_ b)

/-- The number at the beginning of some characters, and what follows; zero if there is none. -/
def leadingNumber (cs : List Char) : Scaled × List Char :=
  let cs := cs.dropWhile isBlank
  let isNegative := cs.head? = some '-'
  let body := if isNegative then cs.drop 1 else cs
  let whole := body.takeWhile Char.isDigit
  let after := body.drop whole.length
  let places := if after.head? = some '.' then (after.drop 1).takeWhile Char.isDigit else []
  let rest := if after.head? = some '.' then after.drop (1 + places.length) else after
  let n : Int := ((Text.natural? 10 (whole ++ places)).getD 0 : Nat)
  (⟨if isNegative then -n else n, -places.length⟩, rest)

/-- The number at the beginning of some characters with an exponent, if there is one. -/
def scientificNumber? (cs : List Char) : Option Scaled :=
  let cs := cs.dropWhile isBlank
  let cs := if cs.head? = some '+' then cs.drop 1 else cs
  let body := if cs.head? = some '-' then cs.drop 1 else cs
  let isNumber := body.head?.any Char.isDigit
    || (body.head? == some '.' && (body.drop 1).head?.any Char.isDigit)
  if !isNumber then none
  else
    let (n, rest) := leadingNumber cs
    match rest with
    | e :: after =>
      if e != 'e' && e != 'E' then some n
      else
        let isNegative := after.head? = some '-'
        let digits := if isNegative || after.head? = some '+' then after.drop 1 else after
        match Text.natural? 10 (digits.takeWhile Char.isDigit) with
        | some x =>
          let x : Int := min x 5000
          some { n with exponent := n.exponent + if isNegative then -x else x }
        | none => some n
    | [] => some n

/-- The place of a unit among all, by its letter. -/
def unitRank (c : Option Char) : Int :=
  match c with
  | some 'k' => 1
  | some c => ("KMGTPEZY".toList.idxOf? c).elim 0 fun i => (i : Int) + 1
  | none => 0

/-- The number of the month that some characters name. -/
def monthNumber (cs : List Char) : Nat :=
  let name := String.ofList (((cs.dropWhile isBlank).take 3).map Char.toUpper)
  let names := ["JAN", "FEB", "MAR", "APR", "MAY", "JUN", "JUL", "AUG", "SEP", "OCT", "NOV", "DEC"]
  (names.idxOf? name).elim 0 (· + 1)

/-- The place of a character among those of versions. -/
def versionRank (c : Char) : Nat :=
  if c = '~' then 0 else if c.isDigit then 1 else if c.isAlpha then c.toNat else c.toNat + 256

/-- How two versions compare, where so many characters at most are looked at. -/
def compareVersions : Nat → List Char → List Char → Ordering
  | 0, _, _ => .eq
  | n + 1, as, bs =>
    match as, bs with
    | [], [] => .eq
    | a :: as', b :: bs' =>
      if a.isDigit && b.isDigit then
        let (da, db) := (as.takeWhile Char.isDigit, bs.takeWhile Char.isDigit)
        match Ord.compare ((Text.natural? 10 da).getD 0) ((Text.natural? 10 db).getD 0) with
        | .eq => compareVersions n (as.drop da.length) (bs.drop db.length)
        | other => other
      else match Ord.compare (versionRank a) (versionRank b) with
        | .eq => compareVersions n as' bs'
        | other => other
    | a :: _, [] => if a = '~' then .lt else .gt
    | [], b :: _ => if b = '~' then .gt else .lt

/-- How two texts compare by their characters. -/
def compareCharacters (as bs : List Char) : Ordering :=
  Ord.compare (String.ofList as) (String.ofList bs)

/-- How two keys compare. -/
def KeyOrder.compare (o : KeyOrder) (as bs : List Char) : Ordering :=
  let seen (cs : List Char) : List Char :=
    let kept := if o.isDictionary then cs.filter fun c => c.isAlphanum || isBlank c else cs
    if o.foldsCase then kept.map Char.toUpper else kept
  let result := match o.collation with
    | .characters => compareCharacters (seen as) (seen bs)
    | .numbers => (leadingNumber as).1.compare (leadingNumber bs).1
    | .scientific =>
      match scientificNumber? as, scientificNumber? bs with
      | some a, some b => a.compare b
      | none, some _ => .lt
      | some _, none => .gt
      | none, none => .eq
    | .units =>
      let rank (cs : List Char) : Int :=
        let (n, rest) := leadingNumber cs
        if n.units = 0 then 0 else n.units.sign * unitRank rest.head?
      let sign (cs : List Char) : Int := (leadingNumber cs).1.units.sign
      (Ord.compare (sign as) (sign bs)).then ((Ord.compare (rank as) (rank bs)).then
        ((leadingNumber as).1.compare (leadingNumber bs).1))
    | .months => Ord.compare (monthNumber as) (monthNumber bs)
    | .versions => compareVersions (as.length + bs.length) as bs
  if o.isReversed then result.swap else result

/-- How lines are put in order. -/
structure Arrangement where
  /-- The keys, the most important first. -/
  keys : List Key
  /-- The separator of fields. -/
  separator : Option Char := none
  /-- The ordering of whole lines. -/
  whole : KeyOrder := {}
  /-- Whether lines with equal keys stay as they are. -/
  isStable : Bool := false

/-- How two lines compare by the keys. -/
def Arrangement.byKeys (a : Arrangement) (x y : String) : Ordering :=
  a.keys.foldl
    (fun result k => result.then
      (k.ordering.compare (k.of a.separator x.toList) (k.of a.separator y.toList)))
    .eq

/-- How two lines compare. -/
def Arrangement.compare (a : Arrangement) (x y : String) : Ordering :=
  (a.byKeys x y).then
    (if a.isStable then .eq
      else
        let result := Ord.compare x y
        if a.whole.isReversed then result.swap else result)

/-! ### Reading keys -/

/-- The number at the front of some characters, and what follows. -/
def countAtFront (what : String) (cs : List Char) : Except String (Nat × List Char) :=
  let digits := cs.takeWhile Char.isDigit
  match Text.natural? 10 digits with
  | some n => .ok (n, cs.drop digits.length)
  | none =>
    let shown := Name.quoted (String.ofList cs)
    .error s!"invalid number {what}: invalid count at start of {shown}"

/-- The letters of an ordering at the front of some characters. -/
def orderingLetters (o : KeyOrder) : List Char → KeyOrder × List Char
  | [] => (o, [])
  | c :: rest =>
    match o.withLetter c with
    | some o => orderingLetters o rest
    | none => (o, c :: rest)

/-- The key that a text writes.  A key without an ordering of its own has that of whole lines. -/
def key? (whole : KeyOrder) (text : String) : Except String Key := do
  let shown := Name.quoted text
  let bad (what : String) : String := s!"{what}: invalid field specification {shown}"
  let (field, rest) ← countAtFront "at field start" text.toList
  if field = 0 then throw (bad "field number is zero")
  let (character, rest) ← match rest with
    | '.' :: rest => countAtFront "after '.'" rest
    | rest => .ok (1, rest)
  if character = 0 then throw (bad "character offset is zero")
  let (own, rest) := orderingLetters {} rest
  let key : Key := { field := field - 1, character := character - 1 }
  let (key, ordering, rest) ← match rest with
    | ',' :: rest => do
      let (last, rest) ← countAtFront "after '.'" rest
      if last = 0 then throw (bad "field number is zero")
      let (n, rest) ← match rest with
        | '.' :: rest => countAtFront "after '.'" rest
        | rest => .ok (0, rest)
      let (ordering, rest') := orderingLetters { own with skipsBlanks := false } rest
      pure ({ key with end_ := some (last, n), skipsEndBlanks := ordering.skipsBlanks },
        { ordering with skipsBlanks := own.skipsBlanks }, rest')
    | rest => .ok (key, own, rest)
  if !rest.isEmpty then throw (bad "stray character in field spec")
  let isPlain := ordering == {} && !key.skipsEndBlanks
  return { key with ordering := if isPlain then whole else ordering }

/-! ### Sorting -/

/-- The switches of `sort`. -/
def sortSwitches : List Switch :=
  [.plain 'b' "ignore-leading-blanks", .plain 'd' "dictionary-order", .plain 'f' "ignore-case",
    .plain 'g' "general-numeric-sort", .plain 'i' "ignore-nonprinting", .plain 'M' "month-sort",
    .plain 'h' "human-numeric-sort", .plain 'n' "numeric-sort", .plain 'R' "random-sort",
    .plain 'r' "reverse", .plain 'V' "version-sort", .long "sort" .required,
    .plain 'c' "check", .plain 'C' "C", .valued 'k' "key", .plain 'm' "merge",
    .valued 'o' "output", .plain 's' "stable", .valued 'S' "buffer-size",
    .valued 't' "field-separator", .valued 'T' "temporary-directory", .plain 'u' "unique",
    .plain 'z' "zero-terminated", .long "parallel" .required, .long "batch-size" .required,
    .long "debug"]

/-- The letters by which orderings are asked for, with the words. -/
def orderingWords : List (String × Char) :=
  [("ignore-leading-blanks", 'b'), ("dictionary-order", 'd'), ("ignore-case", 'f'),
    ("general-numeric-sort", 'g'), ("ignore-nonprinting", 'i'), ("month-sort", 'M'),
    ("human-numeric-sort", 'h'), ("numeric-sort", 'n'), ("reverse", 'r'), ("version-sort", 'V')]

/-- The arrangement that the options ask for. -/
def arrangement (o : Options) : Task Arrangement := do
  let whole : KeyOrder := o.given.foldl
    (fun (ordering : KeyOrder) g =>
      ((orderingWords.lookup g.1).bind ordering.withLetter).getD ordering)
    {}
  let separator ← match o.value? "field-separator" with
    | none => pure none
    | some "" => Task.fail "empty tab" 2
    | some "\\0" => pure (some '\x00')
    | some text =>
      match text.toList with
      | [c] => pure (some c)
      | _ => do
        let shown := Name.quoted text
        Task.fail s!"multi-character tab {shown}" 2
  let keys ← (o.values "key").mapM fun text => match key? whole text with
    | .ok k => pure k
    | .error fault => Task.fail fault 2
  return {
    keys := if keys.isEmpty then [{ ordering := whole }] else keys
    separator, whole, isStable := o.has "stable" || o.has "unique" }

/-- The lines without those that are equal to the one before. -/
def withoutRepeats (isEqual : String → String → Bool) : List String → List String
  | a :: rest =>
    match withoutRepeats isEqual rest with
    | b :: kept => if isEqual a b then a :: kept else a :: b :: kept
    | [] => [a]
  | [] => []

/-- The number of the first line that is not in order, with the line. -/
def firstDisorder? (isOrdered : String → String → Bool) : Nat → List String → Option (Nat × String)
  | n, a :: b :: rest =>
    if isOrdered a b then firstDisorder? isOrdered (n + 1) (b :: rest) else some (n + 1, b)
  | _, _ => none

/-- The lines of a text by the end that lines have. -/
def linesBy (o : Options) (text : String) : List String :=
  if o.has "zero-terminated" || o.has "null-data" then
    match (text.splitOn "\x00").reverse with
    | "" :: before => before.reverse
    | all => all.reverse
  else plainLines text

/-- Sorts lines. -/
def sort : Utility := Task.utility fun args => do
  let o ← Task.options sortSwitches args 2
  let a ← arrangement o
  let mut texts : List (List String) := []
  for name in o.inputs do
    match ← Task.input name with
    | .ok text => texts := texts ++ [linesBy o text]
    | .error fault =>
      let shown := Name.shown name
      if fault = .isDirectory then Task.fail s!"read failed: {shown}: {fault.text}" 2
      else Task.fail s!"cannot read: {shown}: {fault.text}" 2
  let isBefore (x y : String) : Bool := a.compare x y != .gt
  let found := texts.flatten
  if o.has "check" || o.has "C" then
    let isOrdered (x y : String) : Bool :=
      if o.has "unique" then a.compare x y == .lt else a.compare x y != .gt
    match firstDisorder? isOrdered 1 found with
    | none => pure ()
    | some (n, line) =>
      let name := o.operands.headD "-"
      if o.has "C" then Task.mark 1 else Task.complain s!"{name}:{n}: disorder: {line}"
  else
    let sorted := if o.has "merge" then texts.foldl (fun xs ys => xs.merge ys isBefore) []
      else found.mergeSort isBefore
    let kept := if o.has "unique" then
        withoutRepeats (fun x y => a.byKeys x y == .eq) sorted
      else sorted
    let ending := if o.has "zero-terminated" then "\x00" else "\n"
    let text := String.join (kept.map (· ++ ending))
    match o.value? "output" with
    | none => Task.say text
    | some name =>
      match ← Task.act fun pid m => match m.openPath pid name .write with
        | .ok (stream, m) => (Except.ok (), m.put stream text)
        | .error fault => (.error fault, m) with
      | .ok () => pure ()
      | .error fault =>
        let shown := Name.shown name
        Task.fail s!"open failed: {shown}: {fault.text}" 2

/-! ### Repeated lines -/

/-- The groups of equal lines that follow each other. -/
def groups (isEqual : String → String → Bool) : List String → List (List String)
  | [] => []
  | a :: rest =>
    match groups isEqual rest with
    | (b :: bs) :: others => if isEqual a b then (a :: b :: bs) :: others else [a] :: (b :: bs) :: others
    | others => [a] :: others

/-- Puts out one of each group of equal lines. -/
def uniq : Utility := Task.utility fun args => do
  let o ← Task.options
    [.plain 'c' "count", .plain 'd' "repeated", .plain 'D' "D", .plain 'u' "unique",
      .plain 'i' "ignore-case", .valued 'f' "skip-fields", .valued 's' "skip-chars",
      .valued 'w' "check-chars", .plain 'z' "zero-terminated", .long "all-repeated" .optional,
      .long "group" .optional] args
  if o.operands.length > 2 then
    let shown := Name.quoted (o.operands.getD 2 "")
    Task.refuse s!"extra operand {shown}"
  let number (word what : String) : Task (Option Nat) := do
    match o.value? word with
    | none => return none
    | some text =>
      match text.toNat? with
      | some n => return some n
      | none => Task.fail s!"{text}: invalid number of {what}"
  let fields := (← number "skip-fields" "fields to skip").getD 0
  let characters := (← number "skip-chars" "bytes to skip").getD 0
  let width ← number "check-chars" "bytes to compare"
  let seen (line : String) : String :=
    let cs := (afterFields none fields line.toList).drop characters
    let cs := match width with
      | some n => cs.take n
      | none => cs
    String.ofList (if o.has "ignore-case" then cs.map Char.toUpper else cs)
  let name := o.operands.headD "-"
  match ← Task.input name with
  | .error fault =>
    let shown := Name.shown name
    if fault = .isDirectory then
      let inQuotes := Name.quoted name
      Task.fail s!"error reading {inQuotes}"
    else Task.fail s!"{shown}: {fault.text}"
  | .ok text =>
    let ending := if o.has "zero-terminated" then "\x00" else "\n"
    let shown (group : List String) : List String :=
      let isRepeated := group.length > 1
      if o.has "D" || o.has "all-repeated" then if isRepeated then group else []
      else if (o.has "repeated" && !isRepeated) || (o.has "unique" && isRepeated) then []
      else
        let count := if o.has "count" then padded 7 ' ' group.length ++ " " else ""
        (group.take 1).map (count ++ ·)
    let all := groups (fun a b => seen a == seen b) (linesBy o text)
    let result := String.join ((all.flatMap shown).map (· ++ ending))
    match o.operands with
    | [_, output] =>
      if output = "-" then Task.say result
      else match ← Task.act fun pid m => match m.openPath pid output .write with
        | .ok (stream, m) => (Except.ok (), m.put stream result)
        | .error fault => (.error fault, m) with
      | .ok () => pure ()
      | .error fault => plainComplaint output fault
    | _ => Task.say result

/-! ### Comparing sorted lines -/

/-- The lines of two sorted lists, each with the column in which it stands: only in the first, only
in the second, or in both. -/
def compared : List String → List String → List (Nat × String)
  | [], bs => bs.map (2, ·)
  | as, [] => as.map (1, ·)
  | a :: as, b :: bs =>
    match Ord.compare a b with
    | .lt => (1, a) :: compared as (b :: bs)
    | .gt => (2, b) :: compared (a :: as) bs
    | .eq => (3, a) :: compared as bs
  termination_by as bs => as.length + bs.length

/-- Puts out what two sorted files have in common, and what not. -/
def comm : Utility := Task.utility fun args => do
  let o ← Task.options
    [.plain '1' "first", .plain '2' "second", .plain '3' "third", .plain 'z' "zero-terminated",
      .long "check-order", .long "nocheck-order", .long "output-delimiter" .required,
      .long "total"] args
  match o.operands with
  | [] => Task.refuse "missing operand"
  | [name] => do
    let shown := Name.quoted name
    Task.refuse s!"missing operand after {shown}"
  | _ :: _ :: extra :: _ => do
    let shown := Name.quoted extra
    Task.refuse s!"extra operand {shown}"
  | [first, second] =>
    let read (name : String) : Task (List String) := do
      match ← Task.input name with
      | .ok text => return linesBy o text
      | .error fault =>
        plainComplaint name fault
        Task.quit 1
    let as ← read first
    let bs ← read second
    let gap := (o.value? "output-delimiter").getD "\t"
    let hidden (column : Nat) : Bool :=
      o.has (["first", "second", "third"].getD (column - 1) "")
    let columns := compared as bs
    for (column, line) in columns do
      if !hidden column then
        let before := ((List.range column).drop 1).filter fun c => !hidden c
        Task.say (String.join (before.map fun _ => gap) ++ line ++ "\n")
    let isUnpaired := columns.any (·.1 != 3)
    let isOrdered (a b : String) : Bool := a ≤ b
    if isUnpaired && !o.has "nocheck-order" then
      for (ls, n) in [(as, 1), (bs, 2)] do
        if (firstDisorder? isOrdered 1 ls).isSome then
          Task.complain s!"file {n} is not in sorted order"
      if [as, bs].any fun ls => (firstDisorder? isOrdered 1 ls).isSome then
        Task.complain "input is not in sorted order"

end ServiceHarness.Utility
