/-!
# Tokens

An argument of the command line is a `Token` of one of four forms, whatever the options are:
the terminator `--`, a long option with or without an attached value, a cluster of short
options, or a plain word.
-/

namespace ServiceHarness.CommandLine

/-- An argument by its form. -/
inductive Token where
  /-- The argument `--`. -/
  | terminator
  /-- `--name` or `--name=value`. -/
  | long (name : String) (value : Option String)
  /-- `-` and short options, the first of which is given. -/
  | cluster (first : Char)
  /-- Anything else. -/
  | word (text : String)
  deriving DecidableEq, Repr

/-- The token of what follows the two dashes of a long option. -/
def Token.ofLong (cs : List Char) : Token :=
  match cs.dropWhile (· != '=') with
  | _ :: value => .long (String.ofList (cs.takeWhile (· != '='))) (some (String.ofList value))
  | [] => .long (String.ofList cs) none

/-- The token of an argument.  A single dash is a word. -/
def Token.ofArgument (argument : String) : Token :=
  match argument.toList with
  | ['-', '-'] => .terminator
  | '-' :: '-' :: cs => .ofLong cs
  | '-' :: c :: _ => .cluster c
  | _ => .word argument

end ServiceHarness.CommandLine
