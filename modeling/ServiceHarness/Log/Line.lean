import ServiceHarness.Log.Filter
import ServiceHarness.Text.Quoted

/-!
# Log lines

`Log.line?` is the line by which a record is told, if the filter shows it: the depth, the message
and the fields.  What is told within a run is marked with its name, if the filter shows runs.
-/

namespace ServiceHarness.Log

/-- The word for a depth, in as many characters as the longest. -/
def depthText : Depth → String
  | .error => "ERROR"
  | .warn => " WARN"
  | .info => " INFO"
  | .debug => "DEBUG"

/-- The text of the value of a field. -/
def valueText : FieldValue → String
  | .number n => toString n
  | .text s => s
  | .quoted s => Text.quote s

/-- The text of a field. -/
def fieldText (field : String × FieldValue) : String :=
  s!" {field.1}={valueText field.2}"

/-- A character of a message: those by which a terminal is controlled are told by their code
points. -/
def messageChar (c : Char) : String :=
  let n := c.toNat
  if n = 0x07 then "\\x07"
  else if n = 0x08 then "\\x08"
  else if n = 0x0c then "\\x0c"
  else if n = 0x1b then "\\x1b"
  else if n = 0x7f then "\\x7f"
  else if 0x80 ≤ n ∧ n ≤ 0x9f then "\\u\x7b" ++ Text.hex n ++ "\x7d"
  else c.toString

/-- The text of a message. -/
def messageText (s : String) : String :=
  String.join (s.toList.map messageChar)

/-- The line by which a record is told, within the run with a name if there is one, if it is
shown. -/
def line? (f : Filter) (runId : Option String) (r : Record) : Option String :=
  if f.admits runId.isSome r then
    let (opening, closing) := match runId.filter fun _ => f.showsRuns with
      | some id => (s!"{runSpan}: ", s!" {runField}={id}")
      | none => ("", "")
    let text := messageText r.message ++ String.join (r.fields.map fieldText)
    some s!"{depthText r.depth} {opening}{text}{closing}\n"
  else none

end ServiceHarness.Log
