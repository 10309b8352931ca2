import TlaDigest.JsonValue
import TlaDigest.ToolRun
import TlaDigest.Transpiler

/-!
# Reports

What a command found, in the two forms in which it is printed. The human form has one line for each
diagnostic, with further lines of its message indented below it, then the obligations, the verdict
and a summary; positions count from one again.
-/

namespace TlaDigest

structure Report where
  findings : Findings
  obligations : List ObligationRecord
  verdict : Option Verdict
  /-- A note for each tool that failed without reporting anything. -/
  silentFailures : List String
deriving DecidableEq, Repr

namespace Report

/-! ### Making reports -/

def ofFindings (f : Findings) : Report := ⟨f, [], none, []⟩

/-- The report on an analysis; the verdict is given in extended mode only. -/
def ofAnalysis (a : Analysis) (extended : Bool) : Report :=
  ⟨a.findings, a.obligations, if extended then some a.verdict else none, []⟩

/-- The note that a tool failed silently. -/
def silentFailure (tool : String) (exit : Exit) : String :=
  tool ++ " exited with " ++ exit.text ++ " without reporting problems"

def noteFailure (r : Report) (failed : Bool) (tool : String) (exit : Exit) : Report :=
  if failed then { r with silentFailures := r.silentFailures ++ [silentFailure tool exit] } else r

def ofTranspiler (run : ToolRun Findings) : Report :=
  (ofFindings run.output).noteFailure run.transpilerFailedSilently Transpiler.tool run.exit

def ofAnalyzer (run : ToolRun Analysis) (extended : Bool) : Report :=
  (ofAnalysis run.output extended).noteFailure run.analyzerFailedSilently Analyzer.tool run.exit

/-- The report on both tools. A silent failure is laid to the transpiler if it failed. -/
def ofModule (run : ModuleRun) (extended : Bool) : Report :=
  let report := ofAnalysis ⟨run.findings, run.modules, run.obligations⟩ extended
  if run.transpilerExit.success then
    report.noteFailure run.failedSilently Analyzer.tool run.analyzerExit
  else report.noteFailure run.failedSilently Transpiler.tool run.transpilerExit

/-- The exit code of the command: 1 when an error was found or a tool failed silently. -/
def exitCode (r : Report) : Nat :=
  if r.findings.hasErrors || !r.silentFailures.isEmpty then 1 else 0

/-! ### The human form -/

/-- A coordinate as people count. -/
def fromOne (n : UInt32) : String := toString (n + 1).toNat

/-- A diagnostic: its first line names the place, further lines are indented. -/
def diagnosticLines (path : Path) (d : Diagnostic) : List String :=
  let message := (Text.lines d.message.toList).map String.ofList
  let place := path.text ++ ":" ++ fromOne d.range.start.line ++ ":" ++ fromOne d.range.start.column
  (place ++ ": " ++ d.severity.tag ++ ": " ++ message.headD "") ::
    message.tail.map fun line => "    " ++ line

def findingsLines (f : Findings) : List String :=
  f.files.flatMap fun entry => entry.2.flatMap (diagnosticLines entry.1)

def obligationLine (r : ObligationRecord) : String :=
  let o := r.obligation
  let count (n : UInt32) := toString n.toNat
  "obligation " ++ o.role ++ " at " ++ fromOne o.range.start.line ++ ":" ++
    fromOne o.range.start.column ++ ": " ++ o.status ++ " (" ++ count r.counts.proved ++ " of " ++
    count r.counts.total ++ " proved, " ++ count r.counts.failed ++ " failed)"

def verdictLine (v : Verdict) : String := "proof: " ++ v.outcome.name ++ ": " ++ v.reason

/-- The summary, unless there is nothing to sum up. -/
def summaryLines (f : Findings) : List String :=
  let errors := f.count .error
  let warnings := f.count .warning
  if 0 < errors + warnings then [s!"{errors} error(s), {warnings} warning(s)"] else []

def humanLines (r : Report) : List String :=
  findingsLines r.findings ++ r.obligations.map obligationLine ++
    r.verdict.toList.map verdictLine ++ summaryLines r.findings

def printed (lines : List String) : String := String.join (lines.map (· ++ "\n"))

def human (r : Report) : String := printed r.humanLines

/-! ### The JSON form -/

def wordJson (n : UInt32) : JsonValue := .number n.toNat

def optionalJson : Option String → JsonValue
  | some s => .string s
  | none => .null

def positionJson (p : Position) : JsonValue :=
  .object [("line", wordJson p.line), ("column", wordJson p.column)]

def rangeJson (r : Range) : JsonValue :=
  .object [("start", positionJson r.start), ("end", positionJson r.stop)]

def diagnosticJson (d : Diagnostic) : JsonValue :=
  .object [("range", rangeJson d.range), ("severity", .string d.severity.tag),
    ("message", .string d.message)]

def findingsJson (f : Findings) : JsonValue :=
  .object (f.files.map fun entry => (entry.1.text, .array (entry.2.map diagnosticJson)))

/-- What a prover said; what it left out is null. -/
def resultJson (r : ProverResult) : JsonValue :=
  .object [("prover", .string r.prover), ("meth", .string r.method), ("status", .string r.status),
    ("reason", optionalJson r.reason), ("obligation", optionalJson r.obligation)]

def obligationJson (o : Obligation) : JsonValue :=
  .object [("role", .string o.role), ("range", rangeJson o.range), ("status", .string o.status),
    ("normalized", .string o.normalized), ("results", .array (o.results.map resultJson))]

def tallyJson (t : Tally) : JsonValue :=
  .object [("proved", wordJson t.proved), ("failed", wordJson t.failed),
    ("omitted", wordJson t.omitted), ("missing", wordJson t.missing),
    ("pending", wordJson t.pending), ("progress", wordJson t.progress)]

def recordJson (r : ObligationRecord) : JsonValue :=
  .object [("obligation", obligationJson r.obligation), ("counts", tallyJson r.counts)]

def verdictJson (v : Verdict) : JsonValue :=
  .object [("status", .string v.outcome.name), ("reason", .string v.reason)]

/-- The report as one object. Obligations and verdict are left out where there are none. -/
def json (r : Report) : JsonValue :=
  let obligations := if r.obligations.isEmpty then []
    else [("obligations", JsonValue.array (r.obligations.map recordJson))]
  let proof := r.verdict.toList.map fun v => ("proof", verdictJson v)
  .object ([("diagnostics", findingsJson r.findings)] ++ obligations ++ proof ++
    [("silent_failures", .array (r.silentFailures.map .string))])

/-! ### Printing -/

structure Printout where
  out : String
  err : String
  exitCode : Nat
deriving DecidableEq, Repr

def note (text : String) : String := "tla: " ++ text

/-- The report in one of its forms; the silent failures go to the error output. -/
def print (r : Report) (asJson : Bool) : Printout where
  out := if asJson then r.json.pretty ++ "\n" else r.human
  err := printed (r.silentFailures.map note)
  exitCode := r.exitCode

end Report

end TlaDigest
