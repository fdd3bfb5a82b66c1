import ServiceHarness.Machine.Utility.Order
import ServiceHarness.Text.Regex

/-!
# Searching

`grep` puts out the lines of files in which patterns occur.
-/

namespace ServiceHarness.Utility

open Text (Regex)

/-- What is searched for. -/
structure Quarry where
  /-- The patterns, one of which has to occur. -/
  patterns : List Regex
  /-- Whether capital letters count as small ones. -/
  folds : Bool := false
  /-- Whether a pattern has to be a whole line. -/
  isLine : Bool := false
  /-- Whether a pattern has to be a whole word. -/
  isWord : Bool := false

/-- Whether what is between two places counts. -/
def Quarry.accepts (q : Quarry) (a b : Regex.Place) : Bool :=
  if q.isLine then a.before.isEmpty && b.rest.isEmpty
  else if q.isWord then !a.before.head?.any Regex.isWord && !b.rest.head?.any Regex.isWord
  else true

/-- The first occurrence after some characters of a line, as the places where it begins and
ends. -/
def Quarry.find? (q : Quarry) (before rest : List Char) : Option (Regex.Place × Regex.Place) :=
  let found := q.patterns.filterMap fun r => r.findWhere? q.folds q.accepts before rest
  found.foldl
    (fun best other =>
      match best with
      | none => some other
      | some b =>
        let (x, y) := (other.1.before.length, b.1.before.length)
        if x < y || (x = y && b.2.before.length < other.2.before.length) then some other
        else some b)
    none

/-- The occurrences in a line that are not empty, where so many at most are looked for. -/
def Quarry.all (q : Quarry) : Nat → List Char → List Char → List String
  | 0, _, _ => []
  | n + 1, before, rest =>
    match q.find? before rest with
    | none => []
    | some (a, b) =>
      if a.before.length < b.before.length then
        String.ofList (a.upTo b) :: q.all n b.before b.rest
      else match b.rest with
        | c :: rest => q.all n (c :: b.before) rest
        | [] => []

/-- The switches of `grep`. -/
def grepSwitches : List Switch :=
  [.plain 'E' "extended-regexp", .plain 'F' "fixed-strings", .plain 'G' "basic-regexp",
    .plain 'P' "perl-regexp", .valued 'e' "regexp", .valued 'f' "file", .plain 'i' "ignore-case",
    .plain 'y' "y", .long "no-ignore-case", .plain 'w' "word-regexp", .plain 'x' "line-regexp",
    .plain 'z' "null-data", .plain 's' "no-messages", .plain 'v' "invert-match",
    .valued 'm' "max-count", .plain 'b' "byte-offset", .plain 'n' "line-number",
    .long "line-buffered", .plain 'H' "with-filename", .plain 'h' "no-filename",
    .long "label" .required, .plain 'o' "only-matching", .plain 'q' "quiet", .long "silent",
    .long "binary-files" .required, .plain 'a' "text", .plain 'I' "I",
    .valued 'd' "directories", .valued 'D' "devices", .plain 'r' "recursive",
    .plain 'R' "dereference-recursive", .long "include" .required, .long "exclude" .required,
    .long "exclude-dir" .required, .plain 'L' "files-without-match",
    .plain 'l' "files-with-matches", .plain 'c' "count", .plain 'T' "initial-tab",
    .plain 'Z' "null", .valued 'B' "before-context", .valued 'A' "after-context",
    .valued 'C' "context", .plain 'U' "binary", .long "color" .optional,
    .long "colour" .optional]
    ++ (List.range 10).map fun i => Switch.plain (Char.ofNat (48 + i)) s!"digit-{i}"

/-- What is told of arguments that make no sense. -/
def grepUsage : Task Unit := do
  let name := (← read).name
  Task.tell s!"Usage: {name} [OPTION]... PATTERNS [FILE]..."
  Task.tell s!"Try '{name} --help' for more information."
  Task.quit 2

/-- The options of a search. -/
def grepOptions (args : List String) : Task Options := do
  match Options.read grepSwitches args with
  | .ok o => return o
  | .error fault => do
    Task.complain fault.text 2
    grepUsage
    Task.quit 2

/-- The lines around those that are found: how many before and after. -/
def surroundings (o : Options) : Task (Nat × Nat) := do
  let number (word : String) : Task (Option Nat) := do
    match o.value? word with
    | none => return none
    | some text =>
      match text.toNat? with
      | some n => return some n
      | none => Task.fail s!"{text}: invalid context length argument" 2
  let digits := o.given.filterMap fun g =>
    if g.1.startsWith "digit-" then (g.1.drop 6).toString.toNat? else none
  let short := if digits.isEmpty then none else some (digits.foldl (fun n d => 10 * n + d) 0)
  let both := (← number "context").or short
  return (((← number "before-context").or both).getD 0,
    ((← number "after-context").or both).getD 0)

/-- The patterns of a search, and the operands after them. -/
def patternTexts (o : Options) : Task (List String × List String) := do
  let mut given := (o.values "regexp").flatMap (·.splitOn "\n")
  for name in o.values "file" do
    match ← Task.input name with
    | .ok text => given := given ++ plainLines text
    | .error fault => Task.fail s!"{name}: {fault.text}" 2
  if o.has "regexp" || o.has "file" then return (given, o.operands)
  else match o.operands with
    | text :: names => return (text.splitOn "\n", names)
    | [] => do
      grepUsage
      return ([], [])

/-- What the options say is searched for. -/
def quarry (o : Options) (texts : List String) : Task Quarry := do
  let kind := o.last? ["extended-regexp", "fixed-strings", "basic-regexp", "perl-regexp"]
  let isExtended := kind = some "extended-regexp" || kind = some "perl-regexp"
  let read (text : String) : Task Regex := do
    let cs := text.toList
    if kind = some "fixed-strings" then return .literal cs
    if cs.take 2 = ['[', ':'] && cs.reverse.take 2 = [']', ':'] then
      Task.fail "character class syntax is [[:space:]], not [:space:]" 2
    if isExtended && cs.head? = some '*' then
      let name := (← MonadReader.read : Occupation).name
      Task.tell s!"{name}: warning: * at start of expression"
    match Regex.parse isExtended cs true with
    | .ok r => return r
    | .error fault => Task.fail fault.text 2
  return {
    patterns := ← texts.mapM read
    folds := o.has "ignore-case" || o.has "y"
    isLine := o.has "line-regexp"
    isWord := o.has "word-regexp" }

/-- The files that are searched, by the operands. -/
def searched (o : Options) (names : List String) : Task (List String) := do
  let isDeep := o.has "recursive" || o.has "dereference-recursive"
  if !isDeep then return if names.isEmpty then ["-"] else names
  let isMeant (path : String) : Bool :=
    let name := FileTree.name path
    let fits (pattern : String) : Bool :=
      if pattern.startsWith "*" then name.endsWith (pattern.drop 1).toString else name = pattern
    let included := o.values "include"
    (included.isEmpty || included.any fits) && !(o.values "exclude").any fits
  let inside (name : String) : Task (List String) := do
    match ← found true name with
    | .ok (path, .directory) =>
      Task.look fun _ m => (pathsWithin m.files path).filterMap fun p =>
        match m.files.node? p with
        | some (.file ..) => if isMeant p then
            let rest := (p.drop (path.length + 1)).toString
            some (if names.isEmpty then rest else below name rest)
          else none
        | _ => none
    | _ => return [name]
  return (← (if names.isEmpty then ["."] else names).mapM inside).flatten

/-- A line that is put out: its number, its text and whether it is one that was found. -/
structure Finding where
  /-- The number. -/
  number : Nat
  /-- The text. -/
  line : String
  /-- Whether it was found, or is near one that was. -/
  isFound : Bool

/-- The findings among lines, up to so many that were found, with those around them. -/
def findings (o : Options) (isFound : String → Bool) (most : Option Nat) (around : Nat × Nat)
    (ls : List String) : List Finding :=
  let marked := ls.zipIdx.map fun (line, i) => (⟨i + 1, line, isFound line⟩ : Finding)
  let hits := (marked.filter (·.isFound)).map (·.number)
  let hits := match most with
    | some n => hits.take n
    | none => hits
  let isNear (n : Nat) : Bool := hits.any fun h => h ≤ n + around.1 && n ≤ h + around.2
  let isOnlyFound := o.has "count" || o.has "only-matching"
  (marked.map fun f => { f with isFound := hits.contains f.number }).filter fun f =>
    f.isFound || (!isOnlyFound && isNear f.number)

/-- What is put out of a file. -/
def findingsText (o : Options) (q : Quarry) (label : Option String) (hasGaps : Bool) :
    Option Nat → List Finding → String
  | _, [] => ""
  | before, f :: rest =>
    let sign := if f.isFound then ":" else "-"
    let front := (label.elim "" (· ++ if o.has "null" then "\x00" else sign))
      ++ if o.has "line-number" then toString f.number ++ sign else ""
    let gap := if hasGaps && before.any (· + 1 < f.number) then "--\n" else ""
    let cs := f.line.toList
    let shown := if !o.has "only-matching" then [f.line]
      else if o.has "invert-match" then [] else q.all (cs.length + 1) [] cs
    let ending := if o.has "null-data" then "\x00" else "\n"
    gap ++ String.join (shown.map fun s => front ++ s ++ ending)
      ++ findingsText o q label hasGaps (some f.number) rest

/-- Searches files, where the arguments may be preceded by others. -/
def searchWith (others : List String) : Utility := Task.utility fun args => do
  let o ← grepOptions (others ++ args)
  let around ← surroundings o
  let (texts, operands) ← patternTexts o
  let q ← quarry o texts
  let most := (o.value? "max-count").bind String.toNat?
  let findsNothing := most = some 0
    || (texts == [""] && o.has "invert-match" && !q.isLine && !q.isWord)
  if findsNothing && !o.has "files-without-match" then Task.quit 1
  let isQuiet := o.has "quiet" || o.has "silent"
  let names ← searched o operands
  let isDeep := o.has "recursive" || o.has "dereference-recursive"
  let hasLabels : Bool := match o.last? ["with-filename", "no-filename"] with
    | some word => word = "with-filename"
    | none => names.length > 1 || operands.length > 1 || isDeep
  let isFound (line : String) : Bool :=
    (q.find? [] line.toList).isSome != o.has "invert-match"
  let ending := if o.has "null" then "\x00" else "\n"
  let mut hasFound := false
  let mut hasFailed := false
  for name in names do
    match ← Task.input name with
    | .error fault =>
      hasFailed := true
      if !o.has "no-messages" then
        let own := (← read).name
        let title := if name = "-" then "(standard input)" else name
        Task.tell s!"{own}: {title}: {fault.text}"
    | .ok text =>
      let fs := findings o isFound most around (linesBy o text)
      let title := if name = "-" then (o.value? "label").getD "(standard input)" else name
      let label := if hasLabels then some title else none
      let hits := fs.filter (·.isFound)
      if !hits.isEmpty then hasFound := true
      if isQuiet then
        if hasFound then Task.quit 0
      else if o.has "files-with-matches" then
        if !hits.isEmpty then Task.say (title ++ ending)
      else if o.has "files-without-match" then
        if hits.isEmpty then Task.say (title ++ ending)
      else if o.has "count" then
        let sign := if o.has "null" then "\x00" else ":"
        Task.say (label.elim "" (· ++ sign) ++ toString hits.length ++ "\n")
      else if text.toList.contains '\x00' && !o.has "text" && !o.has "null-data" then
        if !hits.isEmpty then Task.say s!"Binary file {title} matches\n"
      else
        let hasGaps := around.1 + around.2 > 0
        Task.say (findingsText o q label hasGaps none fs)
  if hasFailed then Task.quit 2
  if !hasFound then Task.quit 1

/-- Searches files for patterns. -/
def grep : Utility :=
  searchWith []

end ServiceHarness.Utility
