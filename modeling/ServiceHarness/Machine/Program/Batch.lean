import ServiceHarness.Machine.Program.Wrapper

/-!
# Running programs on words

`xargs` reads words and runs a program on some of them at a time.
-/

namespace ServiceHarness.Program

/-! ### Words -/

/-- The words of a text, each with the number of its line.  Quotes and backslashes hold characters
together; `word` is what has been read of the present one, the last character first.  Where lines
are kept whole, blanks do not end a word.  A quote that is not closed is told. -/
def quotedWords (wholeLines : Bool) :
    (quote : Option Char) → (word : Option (List Char)) → (line : Nat) → List Char →
      Except Char (List (String × Nat))
  | some q, _, _, [] => .error q
  | none, word, line, [] => .ok ((word.map fun cs => (String.ofList cs.reverse, line)).toList)
  | quote, word, line, c :: rest =>
    let so := word.getD []
    let done := (word.map fun cs => (String.ofList cs.reverse, line)).toList
    match quote with
    | some q =>
      if c = q then quotedWords wholeLines none (some so) line rest
      else if c = '\n' then .error q
      else quotedWords wholeLines quote (some (c :: so)) line rest
    | none =>
      if c = '\'' || c = '"' then quotedWords wholeLines (some c) (some so) line rest
      else if c = '\\' then
        match rest with
        | d :: rest => quotedWords wholeLines none (some (d :: so)) line rest
        | [] => .ok done
      else if c = '\n' then
        return done ++ (← quotedWords wholeLines none none (line + 1) rest)
      else if c = ' ' || c = '\t' then
        if wholeLines then
          quotedWords wholeLines none (if word.isSome then some (c :: so) else none) line rest
        else return done ++ (← quotedWords wholeLines none none line rest)
      else quotedWords wholeLines none (some (c :: so)) line rest

/-- The words of a text between characters of one kind. -/
def separatedWords (separator : Char) (text : String) : List (String × Nat) :=
  let words := match (text.splitOn (String.ofList [separator])).reverse with
    | "" :: before => before.reverse
    | all => all.reverse
  words.zipIdx

/-- The words in groups, of which each has those of so many lines. -/
def byLines (count : Nat) (words : List (String × Nat)) : List (List String) :=
  let numbers := (words.map (·.2)).eraseDups
  let groups := numbers.map fun n => (words.filter (·.2 == n)).map (·.1)
  groupsOf groups.length groups
where
  /-- Groups of so many groups. -/
  groupsOf : Nat → List (List String) → List (List String)
    | n + 1, g :: gs =>
      ((g :: gs).take count).flatten :: groupsOf n ((g :: gs).drop count)
    | _, _ => []

/-- The words in groups of so many. -/
def byCount (count : Nat) : Nat → List String → List (List String)
  | n + 1, w :: ws => (w :: ws).take count :: byCount count n ((w :: ws).drop count)
  | _, _ => []

/-! ### Running -/

/-- How programs are run on words. -/
structure Batch where
  /-- The name under which is complained. -/
  own : String
  /-- The variables that the programs see. -/
  environment : Environment
  /-- Whether programs are told before they are run. -/
  isTold : Bool

/-- Runs some programs one after the other, given by their words; the code is the one so far. -/
def Batch.run (b : Batch) (execute : Execute) (pid : Nat) : Nat → List (List String) → Thread
  | code, [] => .exit code
  | code, words :: rest => .act fun m =>
    let program := words.headD ""
    let m := if b.isTold then m.write pid 2 (" ".intercalate words ++ "\n") else m
    let image := imageOf b.environment words
    match execute image pid m with
    | .error fault =>
      (m.write pid 2 s!"{b.own}: {program}: {fault.text}\n", .exit (faultCode fault))
    | .ok _ =>
      let begin_ (child : Nat) : Thread := .act fun m =>
        let m := m.change child fun p =>
          { p with streams := (0, .device .null) :: p.streams.filter (·.1 != 0) }
        match execute image child m with
        | .ok thread => (m, thread)
        | .error fault => (m, .exit (faultCode fault))
      (m, .fork begin_ fun child => .wait child false fun e =>
        match e with
        | some (.exited 0) | none => b.run execute pid code rest
        | some (.exited 255) => .act fun m =>
          (m.write pid 2 s!"{b.own}: {program}: exited with status 255; aborting\n", .exit 124)
        | some (.exited _) => b.run execute pid 123 rest
        | some (.killed n) => .act fun m =>
          (m.write pid 2 s!"{b.own}: {program}: terminated by signal {n}\n", .exit 125))

/-- The number that an option gives. -/
def countOption (o : Options) (word : String) : Task (Option Nat) := do
  let letter := word.take 1
  match o.value? word with
  | none => return none
  | some text =>
    match text.toNat? with
    | some 0 => Task.refuse s!"value 0 for -{letter} option should be >= 1"
    | some n => return some n
    | none => Task.refuse s!"invalid number \"{text}\" for -{letter} option"

/-- Reads words and runs a program on them. -/
def xargs (execute : Execute) (image : Image) (pid : Nat) : Thread :=
  Task.thread image pid fun args => do
  let o ← Task.options
    [.plain '0' "null", .valued 'a' "arg-file", .valued 'd' "delimiter", .valued 'E' "E",
      ⟨some 'e', "eof", .optional⟩, .valued 'I' "I", ⟨some 'i', "replace", .optional⟩,
      .valued 'L' "L", ⟨some 'l', "max-lines", .optional⟩, .valued 'n' "n-args",
      .long "max-args" .required, .plain 'o' "open-tty", .valued 'P' "P-procs",
      .long "max-procs" .required, .plain 'p' "interactive", .plain 'r' "no-run-if-empty",
      .valued 's' "s-chars", .long "max-chars" .required, .plain 't' "verbose", .plain 'x' "exit",
      .long "show-limits"] args 1 true
  let source := (o.value? "arg-file").getD "-"
  let text ← match ← Task.input source with
    | .ok text => pure text
    | .error fault =>
      if source = "-" then pure ""
      else do
        let shown := Name.quoted source
        Task.fail s!"Cannot open input file {shown}: {fault.text}"
  let mark := (o.value? "I").or (if o.has "replace" then some ((o.value? "replace").getD "\x7b\x7d")
    else none)
  let ofCount := (← countOption o "n-args").or (← countOption o "max-args")
  let ofLines := (← countOption o "L").or
    (if o.has "max-lines" then some (((o.value? "max-lines").bind String.toNat?).getD 1) else none)
  let delimiter ← match o.value? "delimiter" with
    | none => pure (if o.has "null" then some '\x00' else none)
    | some text =>
      match (Text.Escape.resolve text true).1.toList with
      | [c] => pure (some c)
      | _ => Task.fail s!"Invalid input delimiter specification {text}"
  let found ← match delimiter with
    | some c => pure (separatedWords c text)
    | none =>
      match quotedWords mark.isSome none none 0 text.toList with
      | .ok words => pure words
      | .error q => do
        let kind := if q = '"' then "double" else "single"
        Task.fail (s!"unmatched {kind} quote; "
          ++ "by default quotes are special to xargs unless you use the -0 option")
  let stop := (o.value? "E").or (o.value? "eof")
  let found := match stop with
    | some word => found.takeWhile (·.1 != word)
    | none => found
  let words := found.map (·.1)
  let command := if o.operands.isEmpty then ["echo"] else o.operands
  let commands := match mark, ofCount, ofLines with
    | some mark, _, _ =>
      words.map fun word => command.take 1 ++ (command.drop 1).map fun part =>
        if mark = "" then part else word.intercalate (part.splitOn mark)
    | none, some n, _ => (byCount n words.length words).map (command ++ ·)
    | none, none, some n => (byLines n found).map (command ++ ·)
    | none, none, none => [command ++ words]
  let isIdle := words.isEmpty && (o.has "no-run-if-empty" || mark.isSome)
  let commands := if isIdle then [] else if commands.isEmpty then [command] else commands
  let b : Batch := ⟨image.program, image.environment, o.has "verbose"⟩
  return b.run execute pid 0 commands

end ServiceHarness.Program
