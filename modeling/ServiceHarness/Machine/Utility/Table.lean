import ServiceHarness.Machine.Utility.Basic
import ServiceHarness.Machine.Utility.Bytes
import ServiceHarness.Machine.Utility.Calendar
import ServiceHarness.Machine.Utility.Columns
import ServiceHarness.Machine.Utility.Compare
import ServiceHarness.Machine.Utility.Editing
import ServiceHarness.Machine.Utility.Expression
import ServiceHarness.Machine.Utility.Identity
import ServiceHarness.Machine.Utility.Numbers
import ServiceHarness.Machine.Utility.Paths

/-!
# The utilities by name
-/

namespace ServiceHarness.Utility

/-- The utilities that change the file tree or tell about it. -/
def ofFiles : List (String × Utility) :=
  [("touch", touch), ("mkdir", mkdir), ("rmdir", rmdir), ("rm", rm), ("unlink", unlink),
    ("cp", cp), ("mv", mv), ("ln", ln), ("chmod", chmod), ("truncate", truncate),
    ("mktemp", mktemp), ("basename", basename), ("dirname", dirname), ("pwd", pwd),
    ("readlink", readlink), ("realpath", realpath), ("ls", ls), ("which", which), ("stat", stat),
    ("cmp", cmp), ("diff", diff)]

/-- The utilities that work on texts. -/
def ofTexts : List (String × Utility) :=
  [("cat", cat), ("tac", tac), ("rev", rev), ("tee", tee), ("head", head), ("tail", tail),
    ("wc", wc), ("nl", nl), ("fold", fold), ("paste", paste), ("sort", sort), ("uniq", uniq),
    ("comm", comm), ("cut", cut), ("tr", tr), ("grep", grep),
    ("egrep", searchWith ["-E"]), ("fgrep", searchWith ["-F"]), ("sed", sed), ("od", od),
    ("base64", base64), ("dd", dd)]

/-- The other utilities. -/
def others : List (String × Utility) :=
  [("true", constant 0), ("false", constant 1), ("sync", constant 0), ("users", constant 0),
    ("who", constant 0), ("echo", echo), ("printf", printf), ("test", test), ("[", bracket),
    ("kill", kill), ("expr", expr), ("seq", seq), ("factor", factor), ("date", date), ("id", id),
    ("uname", uname), ("tty", tty), ("logname", logname)]

/-- The utilities by name. -/
def table : List (String × Utility) :=
  ofFiles ++ ofTexts ++ others ++ announcements

/-- The utility of a name. -/
def ofName? (name : String) : Option Utility :=
  table.lookup name

end ServiceHarness.Utility
