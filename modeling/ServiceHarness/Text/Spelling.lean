import ServiceHarness.Text.CodePoints

/-!
# Spellings

A table of type `Spellings` tells how characters are spelled with others.  After the code points
of a run stands how: `>20` or `<20` for the character so far after or before each of them, `/`
for the next one if a character is the first of a pair, and after `=` the characters themselves,
with dots between them.  A single code point may have several such texts with commas between
them, the others for those that follow it; an empty text spells a character with none.
-/

namespace ServiceHarness.Text

/-- How the characters of a run are spelled. -/
inductive Spelling where
  /-- By the character so far after it. -/
  | after (distance : Nat)
  /-- By the character so far before it. -/
  | before (distance : Nat)
  /-- By the next character, if it is the first of a pair. -/
  | paired
  /-- All by one text. -/
  | all (text : List Char)
  /-- Each by its own text. -/
  | each (texts : Array (List Char))

/-- What tells how characters are spelled. -/
abbrev Spellings := Table Spelling

namespace Spelling

/-- The character that a text writes in hexadecimal. -/
def character (s : String) : Char :=
  Char.ofNat (leadingNumber s.toList).1

/-- The characters that a text writes with dots between them. -/
def characters (s : String) : List Char :=
  if s.isEmpty then [] else (s.splitOn ".").map character

/-- The entry that a word writes. -/
def read (e : Entry (List Char)) : Entry Spelling :=
  match e.value with
  | '>' :: rest => { e with value := after (leadingNumber rest).1 }
  | '<' :: rest => { e with value := before (leadingNumber rest).1 }
  | '=' :: rest =>
    if e.first < e.last then { e with value := all (characters (String.ofList rest)) }
    else
      let texts := ((String.ofList rest).splitOn ",").map characters
      ⟨e.first, e.first + (texts.length - 1), each texts.toArray⟩
  | _ => { e with value := paired }

/-- How the code point that is so many places after the first of a run is spelled. -/
def spell? (s : Spelling) (first place : Nat) : Option (List Char) :=
  match s with
  | after distance => some [Char.ofNat (first + place + distance)]
  | before distance => some [Char.ofNat (first + place - distance)]
  | paired => if place % 2 = 0 then some [Char.ofNat (first + place + 1)] else none
  | all text => some text
  | each texts => texts[place]?

end Spelling

namespace Spellings

/-- The spellings that a text writes. -/
def ofText (text : String) : Spellings :=
  Table.ofText Spelling.read text

/-- How a character is spelled, if the table tells it. -/
def spell? (t : Spellings) (c : Char) : Option (List Char) :=
  (t.find? c.toNat).bind fun e => e.value.spell? e.first (c.toNat - e.first)

end Spellings

end ServiceHarness.Text
