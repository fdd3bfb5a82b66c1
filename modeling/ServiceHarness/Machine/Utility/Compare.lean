import ServiceHarness.Machine.Utility.Order

/-!
# Comparing files

`cmp` finds the first place at which two files differ, and `diff` the lines that have to be taken out
of the first and put into it to make it the second.
-/

namespace ServiceHarness.Utility

/-- The two operands of a utility that compares files. -/
def twoOperands (o : Options) : Task (String × String) := do
  let name := (← read).name
  let refuse (text : String) : Task (String × String) := do
    Task.complain text 2
    Task.tell s!"{name}: Try '{name} --help' for more information."
    Task.quit 2
  match o.operands with
  | [a, b] => return (a, b)
  | _ :: _ :: extra :: _ => do
    let shown := Name.quoted extra
    refuse s!"extra operand {shown}"
  | names =>
    let last := names.getLastD name
    let shown := Name.quoted last
    refuse s!"missing operand after {shown}"

/-- The text of a file that is compared. -/
def comparedText (name : String) : Task String := do
  match ← Task.input name with
  | .ok text => return text
  | .error fault =>
    plainComplaint name fault
    Task.quit 2

/-- The first places, counted from zero, at which two lists differ, with what is there. -/
def differences : Nat → List Char → List Char → List (Nat × Char × Char)
  | i, a :: as, b :: bs =>
    if a = b then differences (i + 1) as bs else (i, a, b) :: differences (i + 1) as bs
  | _, _, _ => []

/-- Compares files character by character. -/
def cmp : Utility := Task.utility fun args => do
  let o ← Task.options
    [.plain 's' "quiet", .long "silent", .plain 'l' "verbose", .plain 'b' "print-bytes",
      .valued 'n' "bytes", .valued 'i' "ignore-initial"] args 2
  let (a, b) ← if o.operands.length = 1 then pure (o.operands.headD "-", "-") else twoOperands o
  let limited (text : String) : List Char :=
    let cs := text.toList.drop (((o.value? "ignore-initial").bind size?).getD 0)
    match (o.value? "bytes").bind size? with
    | some n => cs.take n
    | none => cs
  let as := limited (← comparedText a)
  let bs := limited (← comparedText b)
  let isSilent := o.has "quiet" || o.has "silent"
  let found := differences 0 as bs
  if !found.isEmpty && isSilent then Task.quit 1
  if o.has "verbose" then
    let width := (toString (max as.length bs.length)).length
    for (i, x, y) in found do
      let octal (c : Char) : String :=
        let digits := Nat.toDigits 8 c.toNat
        String.ofList (List.replicate (3 - digits.length) ' ' ++ digits)
      Task.say (padded width ' ' ((i + 1 : Nat) : Int) ++ " " ++ octal x ++ " " ++ octal y ++ "\n")
    if !found.isEmpty then Task.mark 1
  else match found with
    | (i, _, _) :: _ =>
      let line := (as.take i).count '\n' + 1
      Task.say s!"{a} {b} differ: char {i + 1}, line {line}\n"
      Task.quit 1
    | [] => pure ()
  if as.length ≠ bs.length then
    let (name, cs) := if as.length < bs.length then (a, as) else (b, bs)
    if !isSilent then
      let own := (← read).name
      if cs.isEmpty then Task.tell s!"{own}: EOF on {name} which is empty"
      else
        let n := cs.count '\n'
        let line := if cs.getLast? = some '\n' then s!"line {n}" else s!"in line {n + 1}"
        Task.tell s!"{own}: EOF on {name} after byte {cs.length}, {line}"
    Task.mark 1

/-! ### Lines that differ -/

/-- What is done with lines to make one file another. -/
inductive Edit where
  /-- A line stays. -/
  | keep (line : String)
  /-- A line is taken out. -/
  | delete (line : String)
  /-- A line is put in. -/
  | insert (line : String)
  deriving DecidableEq, Repr

/-- The lengths of the longest common parts of the lines from each of the second on, for the lines
`a` and those of which the lengths are known. -/
def commonRow (isEqual : String → String → Bool) (a : String) : List String → List Nat → List Nat
  | b :: bs, below :: rest =>
    let after := commonRow isEqual a bs rest
    let longest := if isEqual a b then rest.headD 0 + 1 else max below (after.headD 0)
    longest :: after
  | _, _ => [0]

/-- The lengths of the longest common parts from each pair of lines on. -/
def commonTable (isEqual : String → String → Bool) (bs : List String) :
    List String → List (List Nat)
  | [] => [List.replicate (bs.length + 1) 0]
  | a :: as =>
    let table := commonTable isEqual bs as
    commonRow isEqual a bs (table.headD []) :: table

/-- What makes the first lines the second, by the lengths of the common parts. -/
def edits (isEqual : String → String → Bool) :
    List String → List String → List (List Nat) → List Edit
  | [], bs, _ => bs.map .insert
  | as, [], _ => as.map .delete
  | a :: as, b :: bs, table =>
    let drop (t : List (List Nat)) : List (List Nat) := t.map (·.drop 1)
    if isEqual a b then .keep a :: edits isEqual as bs (drop (table.drop 1))
    else
      let below := (table.getD 1 []).headD 0
      let beside := (table.headD []).getD 1 0
      if beside ≤ below then .delete a :: edits isEqual as (b :: bs) (table.drop 1)
      else .insert b :: edits isEqual (a :: as) bs (drop table)
  termination_by as bs => as.length + bs.length

/-- A group of lines that are taken out and put in at one place. -/
structure Hunk where
  /-- The number of lines of the first file before it. -/
  before : Nat
  /-- The number of lines of the second file before it. -/
  after : Nat
  /-- The lines that are taken out. -/
  deleted : List String := []
  /-- The lines that are put in. -/
  inserted : List String := []

/-- The groups of changes, after so many lines of each file. -/
def hunks : (before after : Nat) → Option Hunk → List Edit → List Hunk
  | _, _, h, [] => h.toList
  | m, n, h, .keep _ :: rest => h.toList ++ hunks (m + 1) (n + 1) none rest
  | m, n, h, .delete line :: rest =>
    let h := h.getD ⟨m, n, [], []⟩
    hunks (m + 1) n (some { h with deleted := h.deleted ++ [line] }) rest
  | m, n, h, .insert line :: rest =>
    let h := h.getD ⟨m, n, [], []⟩
    hunks m (n + 1) (some { h with inserted := h.inserted ++ [line] }) rest

/-- A line behind a sign; the end of the last line may be missing. -/
def signed (sign line : String) : String :=
  if line.endsWith "\n" then sign ++ line else sign ++ line ++ "\n\\ No newline at end of file\n"

/-- The numbers of some lines after so many others. -/
def lineRange (before count : Nat) : String :=
  if count = 0 then toString before
  else if count = 1 then toString (before + 1) else s!"{before + 1},{before + count}"

/-- What is told of a group of changes. -/
def Hunk.text (h : Hunk) : String :=
  let letter := if h.deleted.isEmpty then "a" else if h.inserted.isEmpty then "d" else "c"
  lineRange h.before h.deleted.length ++ letter ++ lineRange h.after h.inserted.length ++ "\n"
    ++ String.join (h.deleted.map (signed "< "))
    ++ (if letter = "c" then "---\n" else "")
    ++ String.join (h.inserted.map (signed "> "))

/-- The number of lines around changes that are told with them. -/
def contextLines : Nat :=
  3

/-- The changes with the lines around them, in the form in which every line has a sign. -/
def unifiedText (changes : List Edit) : String :=
  let marks := changes.map fun
    | .keep _ => false
    | _ => true
  let places := (marks.zipIdx.filter (·.1)).map (·.2)
  let isNear (i : Nat) : Bool :=
    places.any fun p => p ≤ i + contextLines && i ≤ p + contextLines
  let rec go : Nat → Nat → Nat → List (Edit × Nat) → String
    | 0, _, _, _ | _, _, _, [] => ""
    | limit + 1, m, n, (e, i) :: rest =>
      if !isNear i then go limit (m + 1) (n + 1) rest
      else
        let part := ((e, i) :: rest).takeWhile fun x => isNear x.2
        let others := ((e, i) :: rest).drop part.length
        let deleted := part.countP fun x => !(x.1 matches .insert _)
        let inserted := part.countP fun x => !(x.1 matches .delete _)
        let range (before count : Nat) : String :=
          if count = 1 then toString (before + 1)
          else
            let first := if count = 0 then before else before + 1
            s!"{first},{count}"
        let body := part.map fun x => match x.1 with
          | .keep line => signed " " line
          | .delete line => signed "-" line
          | .insert line => signed "+" line
        s!"@@ -{range m deleted} +{range n inserted} @@\n" ++ String.join body
          ++ go limit (m + deleted) (n + inserted) others
  go (changes.length + 1) 0 0 changes.zipIdx

/-- A line as it is compared. -/
def comparable (o : Options) (line : String) : String :=
  let line := if o.has "ignore-case" then line.map Char.toLower else line
  if o.has "ignore-all-space" then String.ofList (line.toList.filter fun c => !isBlank c)
  else if o.has "ignore-space-change" then
    " ".intercalate (((line.split isBlank).toList.map (·.toString)).filter (· != ""))
  else line

/-- Compares two files; tells what is different, after a title if there is one. -/
def diffFiles (o : Options) (title : String) (a b : String) : Task Unit := do
  let x ← comparedText a
  let y ← comparedText b
  let isEqual (s t : String) : Bool := comparable o s == comparable o t
  let (as, bs) := (lines x, lines y)
  let changes := edits isEqual as bs (commonTable isEqual bs as)
  let isSame := changes.all (· matches .keep _)
  if isSame then
    if o.has "report-identical-files" then Task.say s!"Files {a} and {b} are identical\n"
  else
    Task.mark 1
    if o.has "brief" then Task.say s!"Files {a} and {b} differ\n"
    else if o.has "u" || o.has "unified" then
      Task.say (s!"{title}--- {a}\n+++ {b}\n" ++ unifiedText changes)
    else Task.say (title ++ String.join ((hunks 0 0 none changes).map Hunk.text))

/-- Compares what two names stand for, down to so many levels.  In directories, what is told of two
files begins with the switches and their names. -/
def diffPaths (o : Options) (switches : List String) : Nat → Bool → String → String → Task Unit
  | 0, _, _, _ => pure ()
  | n + 1, isInside, a, b => do
    let title := if !isInside then ""
      else " ".intercalate ("diff" :: (switches ++ [a, b]).map Name.shown) ++ "\n"
    let namesIn (path : String) : Task (List String) :=
      Task.look fun _ m => m.files.names path
    match ← found true a, ← found true b with
    | .ok (p, .directory), .ok (q, .directory) =>
      let (xs, ys) := (← namesIn p, ← namesIn q)
      for name in (xs ++ ys.filter fun y => !xs.contains y).mergeSort fun x y => x ≤ y do
        if !ys.contains name then
          Task.say s!"Only in {a}: {name}\n"
          Task.mark 1
        else if !xs.contains name then
          Task.say s!"Only in {b}: {name}\n"
          Task.mark 1
        else
          let (x, y) := (below a name, below b name)
          let areDirectories := (← isDirectory x) && (← isDirectory y)
          if areDirectories && !o.has "recursive" then
            Task.say s!"Common subdirectories: {x} and {y}\n"
          else diffPaths o switches n true x y
    | .ok (_, .directory), .ok _ => diffFiles o title (below a (baseName b)) b
    | .ok _, .ok (_, .directory) => diffFiles o title a (below b (baseName a))
    | _, _ => diffFiles o title a b

/-- Compares files line by line. -/
def diff : Utility := Task.utility fun args => do
  let o ← Task.options
    [.plain 'q' "brief", .plain 's' "report-identical-files", .plain 'u' "u",
      .long "unified" .optional, .valued 'U' "U", .plain 'r' "recursive", .plain 'i' "ignore-case",
      .plain 'w' "ignore-all-space", .plain 'b' "ignore-space-change",
      .plain 'B' "ignore-blank-lines", .plain 'N' "new-file", .plain 'a' "text",
      .plain 'd' "minimal", .long "normal", .long "strip-trailing-cr"] args 2
  let (a, b) ← twoOperands o
  for name in [a, b] do
    if name ≠ "-" then
      match ← found true name with
      | .ok _ => pure ()
      | .error fault =>
        plainComplaint name fault
        Task.mark 2
  if (← get).code = 2 then Task.quit 2
  diffPaths o (args.filter fun word => !o.operands.contains word) 100 false a b

end ServiceHarness.Utility
