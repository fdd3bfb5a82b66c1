import ServiceHarness.Environment
import ServiceHarness.Fault
import ServiceHarness.Text.Blank

/-!
# Commands

A `Command` is a program with its arguments; `Command.ofArgv` reads one from a list of
words and refuses a list without a program.  An `Invocation` is a command together with
what it runs in: the changes to the environment, what becomes of its output and the
directory.
-/

namespace ServiceHarness

/-- A program and its arguments. -/
structure Command where
  /-- The program. -/
  program : String
  /-- The arguments after the program. -/
  args : List String
  deriving DecidableEq, Repr

namespace Command

/-- The words of the command with a space between each two. -/
def text (c : Command) : String :=
  " ".intercalate (c.program :: c.args)

/-- The command of the build tool `cargo` with the given arguments. -/
def cargo (args : List String) : Command :=
  ⟨"cargo", args⟩

/-- The command of a list of words, the first of which has to be a program: `owner` is told
if there is none or if it is blank. -/
def ofArgv (owner : String) : List String → Except Defect Command
  | [] => .error (.emptyCommand owner)
  | program :: args =>
    if Text.isBlankText program then .error (.emptyCommand owner) else .ok ⟨program, args⟩

theorem ofArgv_eq_ok_iff (owner : String) (argv : List String) (c : Command) :
  ofArgv owner argv = .ok c
    ↔ argv = c.program :: c.args ∧ Text.isBlankText c.program = false
  := by
  obtain ⟨program, args⟩ := c
  cases argv with
  | nil => simp [ofArgv]
  | cons p as =>
    simp only [ofArgv, List.cons.injEq]
    by_cases h : Text.isBlankText p = true
    · rw [if_pos h]
      constructor
      · intro hc
        cases hc
      · rintro ⟨⟨rfl, rfl⟩, hb⟩
        rw [h] at hb
        cases hb
    · rw [if_neg h, Except.ok.injEq, Command.mk.injEq]
      constructor
      · rintro ⟨rfl, rfl⟩
        exact ⟨⟨rfl, rfl⟩, by simpa using h⟩
      · rintro ⟨⟨rfl, rfl⟩, -⟩
        exact ⟨rfl, rfl⟩

end Command

/-- What becomes of the output of a command. -/
inductive Output where
  /-- It is discarded. -/
  | suppressed
  /-- It goes where the output of the harness goes. -/
  | streamed
  deriving DecidableEq, Repr

/-- The output mode that the operator chooses by asking for logs. -/
def Output.ofLogs (logs : Bool) : Output :=
  if logs then .streamed else .suppressed

/-- Whether output is shown. -/
def Output.isStreamed (o : Output) : Bool :=
  o == .streamed

/-- A command and what it runs in. -/
structure Invocation where
  /-- What is run. -/
  command : Command
  /-- The changes to the environment of the harness. -/
  patch : Patch
  /-- What becomes of the output. -/
  output : Output
  /-- The directory in which the command runs. -/
  directory : String
  deriving DecidableEq

end ServiceHarness
