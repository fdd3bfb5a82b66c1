import ServiceHarness.Machine.Utility.Lines

/-!
# Utilities on bytes

They show the bytes of files, write them in letters, and copy blocks of them.
-/

namespace ServiceHarness.Utility

/-- The bytes of a text. -/
def bytesOf (text : String) : List Nat :=
  text.toUTF8.toList.map UInt8.toNat

/-- The text of some bytes; bytes that are no text become characters one by one. -/
def ofBytes (bytes : List Nat) : String :=
  match String.fromUTF8? ⟨(bytes.map UInt8.ofNat).toArray⟩ with
  | some text => text
  | none => String.ofList (bytes.map Char.ofNat)

/-- Digits to a base in the last of so many places, which are filled with a character. -/
def digitsIn (base width : Nat) (filler : Char) (n : Nat) : String :=
  let digits := Nat.toDigits base n
  String.ofList (List.replicate (width - digits.length) filler ++ digits)

/-! ### Showing bytes -/

/-- How bytes are shown. -/
structure ByteForm where
  /-- How many bytes belong together. -/
  size : Nat
  /-- The number of characters for each, with the gap before it. -/
  width : Nat
  /-- The text of a number. -/
  text : Nat → String
  /-- Whether the characters are shown at the end of the line. -/
  hasCharacters : Bool := false

/-- A byte as a character or as the escape for one. -/
def byteCharacter (n : Nat) : String :=
  let escapes := [(0, "\\0"), (7, "\\a"), (8, "\\b"), (9, "\\t"), (10, "\\n"), (11, "\\v"),
    (12, "\\f"), (13, "\\r")]
  match escapes.lookup n with
  | some text => text
  | none =>
    if 32 ≤ n && n < 127 then String.ofList [Char.ofNat n] else digitsIn 8 3 '0' n

/-- The names of the characters that are not shown, and of the blank. -/
def byteNames : List String :=
  ["nul", "soh", "stx", "etx", "eot", "enq", "ack", "bel", "bs", "ht", "nl", "vt", "ff", "cr",
    "so", "si", "dle", "dc1", "dc2", "dc3", "dc4", "nak", "syn", "etb", "can", "em", "sub", "esc",
    "fs", "gs", "rs", "us", "sp"]

/-- A number that is negative where the first of its bits is set. -/
def signedText (size n : Nat) : String :=
  let half := Nat.pow 2 (8 * size - 1)
  toString (if n < half then (n : Int) else (n : Int) - (2 * half : Nat))

/-- The form that a text asks for. -/
def byteForm? (text : String) : Option ByteForm := do
  let cs := text.toList
  let (cs, hasCharacters) := if cs.getLast? = some 'z' then (cs.dropLast, true) else (cs, false)
  let letter ← cs.head?
  let rest := cs.drop 1
  let size ← match rest with
    | [] => some (if letter = 'c' || letter = 'a' then 1 else 4)
    | ['C'] => some 1
    | ['S'] => some 2
    | ['I'] => some 4
    | ['L'] => some 8
    | ds => (Text.natural? 10 ds).filter [1, 2, 4, 8].contains
  let places (base : Nat) : Nat := (Nat.toDigits base (Nat.pow 256 size - 1)).length
  match letter with
  | 'c' => return ⟨1, 4, byteCharacter, hasCharacters⟩
  | 'a' =>
    return ⟨1, 4, fun n => byteNames.getD (n % 128)
      (if n % 128 = 127 then "del" else String.ofList [Char.ofNat (n % 128)]), hasCharacters⟩
  | 'x' => return ⟨size, places 16 + 1, digitsIn 16 (places 16) '0', hasCharacters⟩
  | 'o' => return ⟨size, places 8 + 1, digitsIn 8 (places 8) '0', hasCharacters⟩
  | 'u' => return ⟨size, places 10 + 1, toString, hasCharacters⟩
  | 'd' => return ⟨size, places 10 + 2 - (if size = 8 then 1 else 0), signedText size, hasCharacters⟩
  | _ => none

/-- Lists of so many items at most, of which a list is made. -/
def chunks {α : Type} (size : Nat) : Nat → List α → List (List α)
  | _, [] => []
  | 0, _ => []
  | n + 1, items => items.take size :: chunks size n (items.drop size)

/-- The number that some bytes write, the last of which counts most. -/
def littleEndian (bytes : List Nat) : Nat :=
  bytes.foldr (fun b n => b + 256 * n) 0

/-- A line of bytes in a form, as wide as so many bytes. -/
def byteLine (form : ByteForm) (count : Nat) (bytes : List Nat) : String :=
  let groups := chunks form.size (bytes.length + 1) bytes
  let cell (group : List Nat) : String :=
    let text := form.text (littleEndian group)
    String.ofList (List.replicate (form.width - text.length) ' ') ++ text
  let line := String.join (groups.map cell)
  if !form.hasCharacters then line
  else
    let whole := count / form.size * form.width
    let shown := bytes.map fun b => if 32 ≤ b && b < 127 then Char.ofNat b else '.'
    line ++ String.ofList (List.replicate (whole - line.length) ' ') ++ "  >"
      ++ String.ofList shown ++ "<"

/-- The lines of bytes in some forms, each behind the number of bytes before it; lines that are the
same as the one before are left out. -/
def byteLines (forms : List ByteForm) (count : Nat) (address : Nat → String) (keepsAll : Bool) :
    (place : Nat) → (before : Option (List Nat)) → (isLeftOut : Bool) → List (List Nat) → String
  | _, _, _, [] => ""
  | place, before, isLeftOut, line :: rest =>
    if !keepsAll && before == some line && line.length = count then
      (if isLeftOut then "" else "*\n")
        ++ byteLines forms count address keepsAll (place + line.length) before true rest
    else
      let front := address place
      let gap := String.ofList (List.replicate front.length ' ')
      let texts := forms.zipIdx.map fun (form, i) =>
        (if i = 0 then front else gap) ++ byteLine form count line ++ "\n"
      String.join texts
        ++ byteLines forms count address keepsAll (place + line.length) (some line) false rest

/-- The forms for which letters stand. -/
def formLetters : List (String × String) :=
  [("a", "a"), ("b", "o1"), ("c", "c"), ("d", "u2"), ("i", "d4"), ("l", "d8"), ("o", "o2"),
    ("s", "d2"), ("x", "x2")]

/-- Shows the bytes of files. -/
def od : Utility := Task.utility fun args => do
  let o ← Task.options
    ([.valued 'A' "address-radix", .valued 't' "format", .plain 'v' "output-duplicates",
      .valued 'N' "read-bytes", .valued 'j' "skip-bytes", ⟨some 'w', "width", .optional⟩]
      ++ formLetters.map fun f => Switch.plain (f.1.toList.headD 'a') f.1)
    args
  let asked := o.given.flatMap fun (word, value) =>
    if word = "format" then value.toList else (formLetters.lookup word).toList
  let forms ← (if asked.isEmpty then ["o2"] else asked).mapM fun text => match byteForm? text with
    | some form => pure form
    | none => do
      let shown := Name.quoted text
      Task.fail s!"invalid type string {shown}"
  let address : Nat → String := match o.value? "address-radix" with
    | some "n" => fun _ => ""
    | some "d" => digitsIn 10 7 '0'
    | some "x" => digitsIn 16 6 '0'
    | _ => digitsIn 8 7 '0'
  let mut text := ""
  for name in o.inputs do
    match ← Task.input name with
    | .ok more => text := text ++ more
    | .error fault => plainComplaint name fault
  let skipped := ((o.value? "skip-bytes").bind size?).getD 0
  let bytes := (bytesOf text).drop skipped
  let bytes := match (o.value? "read-bytes").bind size? with
    | some n => bytes.take n
    | none => bytes
  let count := max 1 (if o.has "width" then ((o.value? "width").bind String.toNat?).getD 32 else 16)
  let lines := chunks count (bytes.length + 1) bytes
  let last := address (skipped + bytes.length)
  Task.say (byteLines forms count address (o.has "output-duplicates") skipped none false lines
    ++ if last = "" then "" else last ++ "\n")

/-! ### Writing bytes in letters -/

/-- The characters that stand for six bits. -/
def sixBits : List Char :=
  "ABCDEFGHIJKLMNOPQRSTUVWXYZabcdefghijklmnopqrstuvwxyz0123456789+/".toList

/-- Three bytes at most in four letters. -/
def encodedGroup (bytes : List Nat) : List Char :=
  let n := (bytes ++ List.replicate (3 - bytes.length) 0).foldl (fun n b => 256 * n + b) 0
  let letters := [n / 262144, n / 4096 % 64, n / 64 % 64, n % 64].map fun i => sixBits.getD i 'A'
  letters.take (bytes.length + 1) ++ List.replicate (3 - bytes.length) '='

/-- The bytes of four letters, if they are right. -/
def decodedGroup? (letters : List Char) : Option (List Nat) := do
  guard (letters.length = 4)
  let kept := ((letters.reverse.dropWhile (· == '=')).reverse)
  guard (2 ≤ kept.length)
  let values ← kept.mapM sixBits.idxOf?
  let n := (values ++ List.replicate (4 - values.length) 0).foldl (fun n v => 64 * n + v) 0
  return [n / 65536, n / 256 % 256, n % 256].take (kept.length - 1)

/-- Writes bytes in letters, or reads them. -/
def base64 : Utility := Task.utility fun args => do
  let o ← Task.options
    [.plain 'd' "decode", .plain 'i' "ignore-garbage", .valued 'w' "wrap"] args
  match o.operands with
  | _ :: extra :: _ => do
    let shown := Name.quoted extra
    Task.refuse s!"extra operand {shown}"
  | _ => pure ()
  let name := o.operands.headD "-"
  match ← Task.input name with
  | .error fault =>
    if fault = .isDirectory then Task.complain s!"read error: {fault.text}"
    else plainComplaint name fault
  | .ok text =>
    if o.has "decode" then
      let letters := text.toList.filter fun c =>
        c != '\n' && (!o.has "ignore-garbage" || sixBits.contains c || c == '=')
      let groups := chunks 4 (letters.length + 1) letters
      let good := (groups.map decodedGroup?).takeWhile Option.isSome
      Task.say (ofBytes (good.filterMap (fun g => g)).flatten)
      if good.length < groups.length then Task.complain "invalid input"
    else
      let bytes := bytesOf text
      let letters := (chunks 3 (bytes.length + 1) bytes).flatMap encodedGroup
      let width := ((o.value? "wrap").bind String.toNat?).getD 76
      if width = 0 then Task.say (String.ofList letters)
      else
        let rows := chunks width (letters.length + 1) letters
        Task.say (String.join (rows.map fun row => String.ofList row ++ "\n"))

/-! ### Copying blocks -/

/-- Copies blocks of bytes. -/
def dd : Utility := Task.utility fun args => do
  let settings := args.map fun arg =>
    let word := arg.toList.takeWhile (· != '=')
    (String.ofList word, (arg.drop (word.length + 1)).toString)
  let known := ["if", "of", "bs", "ibs", "obs", "count", "skip", "seek", "conv", "status", "iflag",
    "oflag", "cbs"]
  match args.find? fun arg => !known.any fun word => arg.startsWith (word ++ "=") with
  | some arg => do
    let shown := Name.quoted arg
    Task.refuse s!"unrecognized operand {shown}"
  | none => pure ()
  let value (word : String) : Option String := (settings.reverse.lookup word)
  let size (word : String) : Option Nat := (value word).bind size?
  let block := max 1 (((size "bs").or (size "ibs")).getD 512)
  let cut (cs : List Char) : List Char :=
    let cs := cs.drop (block * (size "skip").getD 0)
    match size "count" with
    | some n => cs.take (block * n)
    | none => cs
  let source := (value "if").getD "-"
  let isEndless ← match ← found true source with
    | .ok (_, .device .zero) => pure true
    | _ => pure false
  let cs ← if isEndless then pure (List.replicate (block * (size "count").getD 0) '\x00')
    else match ← Task.input source with
    | .ok text => pure (cut text.toList)
    | .error fault => do
      let shown := Name.quoted source
      Task.fail s!"failed to open {shown}: {fault.text}"
  let text := String.ofList cs
  match value "of" with
  | none => Task.say text
  | some name =>
    let keeps := ((value "conv").getD "").splitOn "," |>.contains "notrunc"
    let offset := block * (size "seek").getD 0
    match ← Task.act fun pid m => match m.openPath pid name .update with
      | .ok (stream, m) => (Except.ok stream, m)
      | .error fault => (.error fault, m) with
    | .error fault => do
      let shown := Name.quoted name
      Task.fail s!"failed to open {shown}: {fault.text}"
    | .ok stream =>
      Task.update fun m =>
        let m := m.skip stream offset
        let m := m.put stream text
        match stream with
        | .file id =>
          match m.opened.lookup id with
          | some f => match m.files.node? f.path with
            | some (.file old x) =>
              let node : Node := .file (resized old (offset + text.length)) x
              if keeps then m else { m with files := m.files.insert f.path node }
            | _ => m
          | none => m
        | _ => m
  if value "status" ≠ some "none" then
    let (whole, part) := (cs.length / block, if cs.length % block = 0 then 0 else 1)
    Task.tell s!"{whole}+{part} records in\n{whole}+{part} records out"
    if value "status" ≠ some "noxfer" then
      let n := cs.length
      Task.tell s!"{n} bytes copied, 0.0001 s, 1.0 MB/s"

end ServiceHarness.Utility
