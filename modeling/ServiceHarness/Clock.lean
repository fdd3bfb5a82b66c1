/-!
# Clock readings

A clock is read in milliseconds, as a signed 64-bit word.  `elapsed` is the time between two
readings, zero where the clock was set back.  It is made of the difference of the readings, which
is taken in words: where that does not fit, the program panics.
-/

namespace ServiceHarness.Clock

/-- What the program panics for. -/
inductive Panic where
  /-- The difference of two readings is no word. -/
  | overflow
  deriving DecidableEq, Repr

/-- The wording of a panic. -/
def Panic.message : Panic → String
  | .overflow => "attempt to subtract with overflow"

/-- The difference of two readings, if it is a word. -/
def difference (now start : Int64) : Except Panic Int64 :=
  if Int64.minValue.toInt ≤ now.toInt - start.toInt
      ∧ now.toInt - start.toInt ≤ Int64.maxValue.toInt then
    .ok (now - start)
  else .error .overflow

/-- The time from the reading `start` to the reading `now`, and zero for a difference below
zero. -/
def elapsed (now start : Int64) : Except Panic Int64 :=
  (difference now start).map fun millis => if millis < 0 then 0 else millis

/-- A clock that gives the readings of a list in turn and then the last one forever; one
without readings gives zero. -/
structure Readings where
  /-- The readings that are still to come. -/
  rest : List Int64

/-- The next reading and the clock after it. -/
def Readings.next : Readings → Int64 × Readings
  | ⟨[]⟩ => (0, ⟨[]⟩)
  | ⟨[last]⟩ => (last, ⟨[last]⟩)
  | ⟨reading :: rest⟩ => (reading, ⟨rest⟩)

/-- The times from each of the given starts to the successive readings of a clock, as far as the
program does not panic. -/
def Readings.elapsedSince (clock : Readings) : List Int64 → Except Panic (List Int64)
  | [] => .ok []
  | start :: starts => do
    let (now, clock) := clock.next
    return (← elapsed now start) :: (← clock.elapsedSince starts)

end ServiceHarness.Clock
