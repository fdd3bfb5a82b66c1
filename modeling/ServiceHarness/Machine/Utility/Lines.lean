import ServiceHarness.Machine.Utility.Files

/-!
# Utilities on lines

They put out texts line by line: whole, in part, in another order or in another form, and count
what is in them.
-/

namespace ServiceHarness.Utility

/-- The lines of a text, each with its end. -/
def lines (s : String) : List String :=
  match (s.splitOn "\n").reverse with
  | last :: before =>
    (before.map (· ++ "\n")).reverse ++ (if last = "" then [] else [last])
  | [] => []

/-- The lines of a text without their ends. -/
def plainLines (s : String) : List String :=
  match (s.splitOn "\n").reverse with
  | "" :: before => before.reverse
  | all => all.reverse

/-- Does something with the text of each of some files; a file that cannot be read is complained
about. -/
def eachText (names : List String) (f : String → String → Task Unit)
    (complaint : String → PathFault → Task Unit) : Task Unit :=
  for name in names do
    match ← Task.input name with
    | .ok text => f name text
    | .error fault => complaint name fault

/-- The complaint about a file by its name and the fault. -/
def plainComplaint (name : String) (fault : PathFault) : Task Unit := do
  let shown := Name.shown name
  Task.complain s!"{shown}: {fault.text}"

/-- A number in the last of so many places. -/
def padded (width : Nat) (filler : Char) (n : Int) : String :=
  let digits := toString n.natAbs
  let sign := if n < 0 then "-" else ""
  let gap := List.replicate (width - digits.length - sign.length) filler
  if filler = '0' then sign ++ String.ofList gap ++ digits
  else String.ofList gap ++ sign ++ digits

/-! ### Whole texts -/

/-- How far a text has been copied that is shown in some form. -/
structure CopyState where
  /-- The number of the last line that has one. -/
  number : Nat := 0
  /-- Whether a line begins here. -/
  atStart : Bool := true
  /-- The number of empty lines just before. -/
  blanks : Nat := 0

/-- A character in a form that shows it. -/
def visible (o : Options) (c : Char) : String :=
  let n := c.toNat
  let byte (b : Nat) : String :=
    if b < 32 then "^" ++ String.ofList [Char.ofNat (b + 64)]
    else if b = 127 then "^?" else String.ofList [Char.ofNat b]
  if c = '\t' then if o.has "show-tabs" then "^I" else "\t"
  else if !o.has "show-nonprinting" then String.ofList [c]
  else if n < 128 then byte n
  else String.join ((String.ofList [c]).toUTF8.toList.map fun b => "M-" ++ byte (b.toNat - 128))

/-- A line in the form that is asked for, after others. -/
def copyLine (o : Options) (s : CopyState) (line : String) : String × CopyState :=
  let isEmpty := s.atStart && line = "\n"
  let blanks := if isEmpty then s.blanks + 1 else 0
  if o.has "squeeze-blank" && blanks > 1 then ("", { s with blanks })
  else
    let counts := s.atStart
      && (if o.has "number-nonblank" then !isEmpty else o.has "number")
    let number := if counts then s.number + 1 else s.number
    let front := if counts then padded 6 ' ' number ++ "\t" else ""
    let isWhole := line.endsWith "\n"
    let body := if isWhole then (line.dropEnd 1).toString else line
    let shown := String.join (body.toList.map (visible o))
    let back := if !isWhole then "" else if o.has "show-ends" then "$\n" else "\n"
    (front ++ shown ++ back, ⟨number, isWhole, blanks⟩)

/-- The switches that stand for others, with these. -/
def copyShortcuts : List (String × List String) :=
  [("show-all", ["show-nonprinting", "show-ends", "show-tabs"]),
    ("e", ["show-nonprinting", "show-ends"]), ("t", ["show-nonprinting", "show-tabs"])]

/-- Whether the output of a process is the file of an absolute path, beyond its beginning. -/
def writesTo (pid : Nat) (m : Machine) (path : String) : Bool :=
  match m.stream? pid 1 with
  | some (.file id) =>
    match m.opened.lookup id with
    | some f =>
      let length := match m.files.node? path with
        | some (.file text _) => text.length
        | _ => 0
      f.path = path && 0 < (if f.appends then length else f.position)
    | none => false
  | _ => false

/-- Copies files to the output. -/
def cat : Utility := Task.utility fun args => do
  let o ← Task.options
    [.plain 'A' "show-all", .plain 'b' "number-nonblank", .plain 'e' "e", .plain 'E' "show-ends",
      .plain 'n' "number", .plain 's' "squeeze-blank", .plain 't' "t", .plain 'T' "show-tabs",
      .plain 'u' "u", .plain 'v' "show-nonprinting"] args
  let o := { o with given := o.given.flatMap fun g =>
    ((copyShortcuts.lookup g.1).getD [g.1]).map (·, none) }
  let mut state : CopyState := {}
  for name in o.inputs do
    let isOutput ← match ← found true name with
      | .ok (path, _) => Task.look fun pid m => writesTo pid m path
      | .error _ => pure false
    if isOutput then
      let shown := Name.shown name
      Task.complain s!"{shown}: input file is output file"
    else match ← Task.input name with
    | .ok text =>
      if o.given.isEmpty then Task.say text
      else
        let (shown, after) := (lines text).foldl
          (fun (shown, s) line =>
            let (more, s) := copyLine o s line
            (shown ++ more, s))
          ("", state)
        state := after
        Task.say shown
    | .error fault => plainComplaint name fault
  if o.inputs.contains "-" && (← Task.look fun pid m => (m.stream? pid 0).isNone) then
    Task.complain s!"closing standard input: {PathFault.closed.text}"

/-- Copies files with their lines in the opposite order. -/
def tac : Utility := Task.utility fun args => do
  let o ← Task.options [.plain 'b' "before", .plain 'r' "regex", .valued 's' "separator"] args
  eachText o.inputs (fun _ text => Task.say (String.join (lines text).reverse)) fun name fault => do
    let shown := Name.quoted name
    if fault = .isDirectory then Task.complain s!"{name}: read error: {PathFault.invalid.text}"
    else Task.complain s!"failed to open {shown} for reading: {fault.text}"

/-- Copies files with the characters of each line in the opposite order. -/
def rev : Utility := Task.utility fun args => do
  let o ← Task.options [] args
  let turn (line : String) : String :=
    let isWhole := line.endsWith "\n"
    let body := if isWhole then (line.dropEnd 1).toString else line
    String.ofList body.toList.reverse ++ if isWhole then "\n" else ""
  eachText o.inputs (fun _ text => Task.say (String.join ((lines text).map turn)))
    fun name fault => Task.complain s!"cannot open {name}: {fault.text}"

/-- Copies the input to the output and to files. -/
def tee : Utility := Task.utility fun args => do
  let o ← Task.options
    [.plain 'a' "append", .plain 'i' "ignore-interrupts", .plain 'p' "p",
      .long "output-error" .optional] args
  let how : Machine.Opening := if o.has "append" then .append else .write
  let mut streams := []
  for name in o.operands do
    match ← Task.act fun pid m => match m.openPath pid name how with
      | .ok (stream, m) => (Except.ok stream, m)
      | .error fault => (.error fault, m) with
    | .ok stream => streams := stream :: streams
    | .error fault => plainComplaint name fault
  match ← Task.input "-" with
  | .ok text =>
    Task.say text
    for stream in streams do
      Task.update fun m => m.put stream text
  | .error fault => Task.complain s!"read error: {fault.text}"

/-! ### Parts of texts -/

/-- How much of a text is meant. -/
structure Amount where
  /-- Whether bytes are counted, or lines. -/
  inBytes : Bool := false
  /-- The sign in front of the number, if there is one. -/
  sign : Option Char := none
  /-- The number. -/
  count : Nat := 10

/-- The amount that a value asks for. -/
def amount? (inBytes : Bool) (value : String) : Option Amount :=
  let cs := value.toList
  let sign := (cs.head?).filter fun c => c == '-' || c == '+'
  (size? (String.ofList (if sign.isSome then cs.drop 1 else cs))).map fun n => ⟨inBytes, sign, n⟩

/-- The parts of a text that are counted. -/
def Amount.units (a : Amount) (text : String) : List String :=
  if a.inBytes then text.toList.map fun c => String.ofList [c] else lines text

/-- The beginning of a text; after a minus sign the number says what is left away. -/
def Amount.front (a : Amount) (text : String) : String :=
  let units := a.units text
  String.join (units.take (if a.sign = some '-' then units.length - a.count else a.count))

/-- The end of a text; after a plus sign the number says where it begins. -/
def Amount.back (a : Amount) (text : String) : String :=
  let units := a.units text
  String.join (units.drop (if a.sign = some '+' then a.count - 1 else units.length - a.count))

/-- The arguments with a number behind a dash, or behind a plus sign where that is known, written as
the value of a switch. -/
def modernised (knowsPlus : Bool) : List String → List String
  | [] => []
  | arg :: rest =>
    let cs := arg.toList
    let digits := (cs.drop 1).takeWhile Char.isDigit
    let isOld := !digits.isEmpty && (cs.head? == some '-' || (knowsPlus && cs.head? == some '+'))
    if !isOld then arg :: rest
    else
      let unit := (cs.drop (1 + digits.length)).filter (· != 'q')
      let sign := if cs.head? = some '+' then "+" else ""
      let value := sign ++ String.ofList digits
      ((if unit = ['c'] then "--bytes=" else "--lines=") ++ value) :: rest

/-- What the options say about the amount. -/
def amount (o : Options) : Task Amount := do
  match (o.given.filter fun g => g.1 = "lines" || g.1 = "bytes").getLast? with
  | some (word, some value) =>
    match amount? (word = "bytes") value with
    | some a => return a
    | none =>
      let shown := Name.quoted value
      Task.fail s!"invalid number of {word}: {shown}"
  | _ => return {}

/-- What of a file is left for others if only its front is read, which is possible where its place
can be set. -/
def readFront (a : Amount) (name : String) : Task (Except PathFault String) := do
  if name ≠ "-" then return (← Task.input name).map a.front
  Task.act fun pid m =>
    match m.stream? pid 0 with
    | some (.file _) => m.take pid 0 a.front
    | _ =>
      let (result, m) := m.readAll pid
      (result.map a.front, m)

/-- The part of a device without end that an amount asks for. -/
def ofDevice? (a : Amount) (name : String) : Task (Option String) := do
  match ← found true name with
  | .ok (_, .device .zero) =>
    return some (if a.inBytes then String.ofList (List.replicate a.count '\x00') else "")
  | _ => return none

/-- Puts out a part of each file, under a heading if there are several. -/
def part (knowsPlus : Bool) (cut : Amount → String → Task (Except PathFault String)) : Utility :=
  Task.utility fun args => do
  let o ← Task.options
    [.valued 'n' "lines", .valued 'c' "bytes", .plain 'q' "quiet", .long "silent",
      .plain 'v' "verbose", .plain 'z' "zero-terminated", .plain 'f' "follow", .plain 'F' "F",
      .valued 's' "sleep-interval", .long "pid" .required, .long "retry"]
    (modernised knowsPlus args)
  let a ← amount o
  let hasHeadings := match o.last? ["quiet", "silent", "verbose"] with
    | some "verbose" => true
    | some _ => false
    | none => o.inputs.length > 1
  let mut isFirst := true
  for name in o.inputs do
    let result ← match ← ofDevice? a name with
      | some text => pure (.ok text)
      | none => cut a name
    let title := if name = "-" then "standard input" else name
    let heading := if hasHeadings then (if isFirst then "" else "\n") ++ s!"==> {title} <==\n" else ""
    let shown := Name.quoted title
    match result with
    | .ok text =>
      Task.say (heading ++ text)
      isFirst := false
    | .error .isDirectory | .error .closed =>
      let fault := if name = "-" then PathFault.closed else .isDirectory
      Task.say heading
      isFirst := false
      Task.complain s!"error reading {shown}: {fault.text}"
    | .error fault => Task.complain s!"cannot open {shown} for reading: {fault.text}"

/-- Puts out the beginning of each file. -/
def head : Utility :=
  part false readFront

/-- Puts out the end of each file. -/
def tail : Utility :=
  part true fun a name => return (← Task.input name).map a.back

/-! ### Counting -/

/-- The number of words in a text. -/
def wordCount (s : String) : Nat :=
  let isGap (c : Char) := " \t\n\x0b\x0c\r".contains c
  (s.toList.foldl (fun (n, inGap) c => (if inGap && !isGap c then n + 1 else n, isGap c))
    (0, true)).1

/-- The width of the widest line. -/
def widest (s : String) : Nat :=
  (s.toList.foldl
    (fun (widest, width) c =>
      let next := if c = '\n' || c = '\r' || c = '\x0c' then 0
        else if c = '\t' then (width / 8 + 1) * 8
        else if c.toNat < 32 then width else width + 1
      (max widest next, next))
    (0, 0)).1

/-- The counts of a text by the words of the switches that ask for them. -/
def counts (text : String) : List (String × Nat) :=
  [("lines", text.toList.count '\n'), ("words", wordCount text), ("chars", text.utf8ByteSize),
    ("bytes", text.utf8ByteSize), ("max-line-length", widest text)]

/-- The number of bytes of the file that stands behind a name, if it is one. -/
def fileSize? (name : String) : Task (Option Nat) := do
  if name = "-" then
    Task.look fun pid m => match m.stream? pid 0 with
      | some (.file id) => do
        let f ← m.opened.lookup id
        match m.files.node? f.path with
        | some (.file text _) => some text.utf8ByteSize
        | _ => none
      | _ => none
  else match ← found true name with
    | .ok (_, .file text _) => return some text.utf8ByteSize
    | .error _ => return some 0
    | _ => return none

/-- The width of the columns for some files. -/
def columnWidth (wanted : Nat) (names : List String) : Task Nat := do
  if names.length = 1 && wanted = 1 then return 1
  let sizes ← names.mapM fileSize?
  let total := (sizes.filterMap fun s => s).foldl (· + ·) 0
  let least := if sizes.all Option.isSome then 1 else 7
  return max least (toString total).length

/-- Counts lines, words and bytes. -/
def wc : Utility := Task.utility fun args => do
  let o ← Task.options
    [.plain 'c' "bytes", .plain 'm' "chars", .plain 'l' "lines", .plain 'w' "words",
      .plain 'L' "max-line-length", .long "total" .required] args
  let words := ["lines", "words", "chars", "bytes", "max-line-length"]
  let asked := words.filter o.has
  let wanted := if asked.isEmpty then ["lines", "words", "bytes"] else asked
  let names := o.inputs
  let width ← columnWidth wanted.length names
  let row (numbers : List (String × Nat)) (name : Option String) : Task Unit := do
    let columns := wanted.map fun word => padded width ' ' ((numbers.lookup word).getD 0)
    Task.say (" ".intercalate (columns ++ name.toList) ++ "\n")
  let nameOf (name : String) : Option String := if o.operands.isEmpty then none else some name
  let mut total := counts ""
  for name in names do
    match ← Task.input name with
    | .ok text =>
      let numbers := counts text
      total := total.zip numbers |>.map fun (a, b) =>
        (a.1, if a.1 = "max-line-length" then max a.2 b.2 else a.2 + b.2)
      row numbers (nameOf name)
    | .error fault =>
      plainComplaint name fault
      if fault = .isDirectory then row (counts "") (nameOf name)
  let isTold := match o.value? "total" with
    | some "always" | some "only" => true
    | some "never" => false
    | _ => names.length > 1
  if isTold then row total (some "total")

/-! ### Lines in another form -/

/-- Puts out lines with numbers. -/
def nl : Utility := Task.utility fun args => do
  let o ← Task.options
    [.valued 'b' "body-numbering", .valued 'v' "starting-line-number",
      .valued 'i' "line-increment", .valued 'w' "number-width", .valued 's' "number-separator",
      .valued 'n' "number-format", .valued 'h' "header-numbering",
      .valued 'f' "footer-numbering", .valued 'd' "section-delimiter",
      .valued 'l' "join-blank-lines", .plain 'p' "no-renumber"] args
  let number (word : String) (otherwise : Nat) : Nat :=
    ((o.value? word).bind String.toNat?).getD otherwise
  let width := number "number-width" 6
  let separator := (o.value? "number-separator").getD "\t"
  let style := (o.value? "body-numbering").getD "t"
  let show_ (n : Nat) : String :=
    match o.value? "number-format" with
    | some "ln" =>
      let digits := toString n
      digits ++ String.ofList (List.replicate (width - digits.length) ' ')
    | some "rz" => padded width '0' n
    | _ => padded width ' ' n
  let gap := String.ofList (List.replicate (width + separator.length) ' ')
  let mut next := number "starting-line-number" 1
  for name in o.inputs do
    match ← Task.input name with
    | .error fault => plainComplaint name fault
    | .ok text =>
      for line in plainLines text do
        if style = "a" || (style = "t" && line ≠ "") then
          Task.say (show_ next ++ separator ++ line ++ "\n")
          next := next + number "line-increment" 1
        else Task.say (gap ++ line ++ "\n")

/-- The column after a character. -/
def columnAfter (inBytes : Bool) (column : Nat) (c : Char) : Nat :=
  if inBytes then column + 1
  else if c = '\t' then (column / 8 + 1) * 8
  else if c = '\x08' then column - 1
  else if c = '\r' then 0 else column + 1

/-- The pieces of a line that are no wider than asked for, where so many steps are taken at most; the
first piece has its characters in the opposite order.  A piece may have to end behind its last
blank. -/
def foldedFrom (inBytes atBlanks : Bool) (width : Nat) :
    Nat → (piece : List Char) → (column : Nat) → List Char → List String
  | 0, piece, _, rest => [String.ofList (piece.reverse ++ rest)]
  | _, piece, _, [] => [String.ofList piece.reverse]
  | n + 1, piece, column, c :: rest =>
    let next := columnAfter inBytes column c
    if next ≤ width || piece.isEmpty then
      foldedFrom inBytes atBlanks width n (c :: piece) next rest
    else
      let last := piece.takeWhile fun c => c != ' ' && c != '\t'
      let isCut := atBlanks && last.length < piece.length
      let carried := if isCut then last else []
      let column := carried.reverse.foldl (columnAfter inBytes) 0
      String.ofList (piece.drop carried.length).reverse
        :: foldedFrom inBytes atBlanks width n carried column (c :: rest)

/-- Breaks lines that are too wide. -/
def fold : Utility := Task.utility fun args => do
  let o ← Task.options [.plain 'b' "bytes", .plain 's' "spaces", .valued 'w' "width"]
    (args.map fun arg => if (arg.toList.drop 1).all Char.isDigit && arg.startsWith "-"
      && arg.length > 1 then "--width=" ++ (arg.drop 1).toString else arg)
  let width ← match o.value? "width" with
    | none => pure 80
    | some text => match text.toNat?.filter (· != 0) with
      | some n => pure n
      | none => do
        let shown := Name.quoted text
        Task.fail s!"invalid number of columns: {shown}"
  let broken (line : String) : String :=
    let isWhole := line.endsWith "\n"
    let body := if isWhole then (line.dropEnd 1).toString else line
    let steps := 2 * body.length + 1
    "\n".intercalate (foldedFrom (o.has "bytes") (o.has "spaces") width steps [] 0 body.toList)
      ++ if isWhole then "\n" else ""
  eachText o.inputs (fun _ text => Task.say (String.join ((lines text).map broken)))
    plainComplaint

/-- The characters of a list of delimiters; one without a character puts nothing there. -/
def delimiters : List Char → List String
  | '\\' :: 'n' :: rest => "\n" :: delimiters rest
  | '\\' :: 't' :: rest => "\t" :: delimiters rest
  | '\\' :: '0' :: rest => "" :: delimiters rest
  | '\\' :: '\\' :: rest => "\\" :: delimiters rest
  | c :: rest => String.ofList [c] :: delimiters rest
  | [] => []

/-- Texts with delimiters between them, which are taken in turn. -/
def pasted (ds : List String) : Nat → List String → String
  | _, [] => ""
  | _, [s] => s
  | i, s :: rest => s ++ ds.getD (i % max ds.length 1) "" ++ pasted ds (i + 1) rest

/-- Puts lines of files, or all lines of each file, side by side. -/
def paste : Utility := Task.utility fun args => do
  let o ← Task.options
    [.plain 's' "serial", .valued 'd' "delimiters", .plain 'z' "zero-terminated"] args
  let ds := delimiters ((o.value? "delimiters").getD "\t").toList
  let mut found : List (List String) := []
  let inputs := o.inputs.filter (· == "-")
  let mut isRead := false
  for name in o.inputs do
    if name = "-" && isRead then found := [] :: found
    else match ← Task.input name with
    | .ok text =>
      found := plainLines text :: found
      if name = "-" then isRead := true
    | .error fault =>
      plainComplaint name fault
      if !o.has "serial" then Task.quit 1
  let columns := found.reverse
  if o.has "serial" then
    for column in columns do
      Task.say (pasted ds 0 column ++ "\n")
  else
    let n := max inputs.length 1
    let shared := ((o.inputs.zip columns).find? (·.1 == "-")).map (·.2) |>.getD []
    let turns := o.inputs.zipIdx.map fun (name, i) =>
      (name, ((o.inputs.take i).filter (· == "-")).length)
    let height := (o.inputs.zip columns).foldl
      (fun h (name, column) =>
        max h (if name = "-" then (shared.length + n - 1) / n else column.length))
      0
    for i in List.range height do
      let cells := (turns.zip columns).map fun ((name, turn), column) =>
        if name = "-" then shared.getD (i * n + turn) "" else column.getD i ""
      Task.say (pasted ds 0 cells ++ "\n")

end ServiceHarness.Utility
