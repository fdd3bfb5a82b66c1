import ServiceHarness.Log.Directive
import ServiceHarness.Log.Record

/-!
# Log filters

A `Filter` is a list of directives and decides which records are shown.  Of the directives that
look at records the most special one counts that a record meets.  Those that look at spans show
more: whatever is told within a span that meets one of them, down to its limit.  The only span is
that of a run.
-/

namespace ServiceHarness.Log

/-- What is shown. -/
abbrev Filter := List Directive

/-- The variable that holds the filter. -/
def filterVariable : String :=
  "TESTBED_LOG"

/-- The variable that holds the format. -/
def formatVariable : String :=
  "TESTBED_LOG_FORMAT"

/-- The name of the span of a run. -/
def runSpan : String :=
  "run"

/-- The field of the span of a run. -/
def runField : String :=
  "run_id"

namespace Filter

/-- The filter that a text writes; with nothing in it nothing is shown. -/
def parse? (text : String) : Option Filter :=
  ((text.splitOn ",").filter (· ≠ "")).mapM Directive.parse?

/-- What is shown where nothing else is asked for. -/
def default : Filter :=
  [{ limit := 2 }, { origin := some "testbed", limit := 3 }]

/-- The filter that the value of a variable asks for. -/
def ofValue (value : Option String) : Filter :=
  (value.bind parse?).getD default

/-- The limit of the first of some directives that is asked. -/
def firstLimit (directives : List Directive) : Nat :=
  let first := directives.foldl
    (fun best d => if best.all d.goesBefore then some d else best) (none : Option Directive)
  (first.map (·.limit)).getD 0

/-- The depth down to which a record is shown wherever it is told. -/
def recordLimit (f : Filter) (r : Record) : Nat :=
  firstLimit (f.filter fun d =>
    d.looksAtRecords && d.meetsOrigin r.origin && d.meetsFields r.fieldNames)

/-- The depth down to which anything is shown at all. -/
def deepest (f : Filter) : Nat :=
  if f.any fun d => d.fields.any (·.value.isSome) then 5
  else (f.map (·.limit)).foldl max 0

/-- The directives that look at spans without those whose place a later one takes. -/
def spanDirectives : Filter → List Directive
  | [] => []
  | d :: rest =>
    if !d.looksAtSpans || rest.any fun e => { e with limit := d.limit } == d then
      spanDirectives rest
    else d :: spanDirectives rest

/-- The directives that look at the span of a run. -/
def runDirectives (f : Filter) : List Directive :=
  (spanDirectives f).filter fun d =>
    d.meetsOrigin runOrigin && d.span.all (· == runSpan) && d.meetsFields [runField]

/-- Whether the span of a run is shown. -/
def showsRuns (f : Filter) : Bool :=
  let limit := firstLimit (f.filter fun d => d.looksAtRecords && d.meetsOrigin runOrigin)
  3 ≤ f.deepest && (!f.runDirectives.isEmpty || 3 ≤ limit)

/-- The depth down to which everything is shown within a run.  The name of a run is like no value
that can be told beforehand. -/
def runLimit (f : Filter) : Nat :=
  if f.showsRuns then
    ((f.runDirectives.filter fun d => d.fields.all (·.value.isNone)).map (·.limit)).foldl max 0
  else 0

/-- Whether a record is shown that is told within a run or without. -/
def admits (f : Filter) (inRun : Bool) (r : Record) : Bool :=
  r.depth.number ≤ f.recordLimit r || inRun && r.depth.number ≤ f.runLimit

end Filter

end ServiceHarness.Log
