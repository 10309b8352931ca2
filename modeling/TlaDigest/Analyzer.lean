import TlaDigest.Draft
import TlaDigest.Line
import TlaDigest.LineParser
import TlaDigest.Obligation

/-!
# The analyzer's output

The output of the syntax and semantic analyzer. Banners cut it into phases. Outside the obligation
report, headers open diagnostics, whose severity the phase settles. The obligation report is read in
extended mode only: a record opens an obligation, prover results and text add to it, and a tally,
another record of that kind or a banner closes it.
-/

namespace TlaDigest

structure Analysis where
  findings : Findings
  /-- The files that were parsed, by module. -/
  modules : Catalog String Path
  obligations : List ObligationRecord
deriving DecidableEq, Repr

namespace Analysis

def empty : Analysis := ⟨.empty, [], []⟩

def verdict (a : Analysis) : Verdict := ProofStep.verdict a.obligations

def proofStep? (a : Analysis) (path : Path) : Option ProofStep :=
  ProofStep.ofRecords? path a.obligations

end Analysis

namespace Analyzer

def tool : String := "sany"

/-! ### States -/

/-- The part of the output that the last banner opened. -/
inductive Phase where
  | idle
  | parseErrors
  | semanticErrors
  | semanticWarnings
  | obligations
deriving DecidableEq, Repr

namespace Phase

def ofSection : Section → Phase
  | .parsing _ => .parseErrors
  | .semanticErrors => .semanticErrors
  | .semanticWarnings => .semanticWarnings
  | .obligations => .obligations
  | .done => .idle

/-- The severity of a header in a phase. Only outside the error and warning phases does the tag of
    the header count. -/
def severity (phase : Phase) (h : Header) : Severity :=
  match phase with
  | .semanticWarnings => .warning
  | .parseErrors | .semanticErrors => .error
  | .idle | .obligations => h.severity.getD .error

end Phase

/-- Where text goes that follows in an open obligation. -/
inductive TextSlot where
  | normalized
  | result (index : Nat)
deriving DecidableEq, Repr

structure OpenObligation where
  obligation : Obligation
  slot : TextSlot
deriving DecidableEq, Repr

structure State where
  phase : Phase
  draft : Option Draft
  current : Option OpenObligation
  /-- The file of the last banner that named one. -/
  lastParsed : Option Path
  output : Analysis
deriving DecidableEq, Repr

def State.initial : State := ⟨.idle, none, none, none, .empty⟩

/-! ### Obligations -/

/-- `text` on a line of its own after `old`. -/
def appendText (old text : String) : String := if old = "" then text else old ++ "\n" ++ text

/-- Adds text to an open obligation. Blank text does not count. -/
def OpenObligation.addText (o : OpenObligation) (text : String) : OpenObligation :=
  match Text.trim text.toList with
  | [] => o
  | cs =>
    let text := String.ofList cs
    match o.slot with
    | .normalized =>
      { o with obligation :=
          { o.obligation with normalized := appendText o.obligation.normalized text } }
    | .result index =>
      let add (r : ProverResult) : ProverResult :=
        { r with obligation := some (appendText (r.obligation.getD "") text) }
      { o with obligation := { o.obligation with results := o.obligation.results.modify index add } }

/-- Adds the result of a prover; the text that follows belongs to it. -/
def OpenObligation.addResult (o : OpenObligation) (r : ProverResult) : OpenObligation :=
  ⟨{ o.obligation with results := o.obligation.results ++ [r] }, .result o.obligation.results.length⟩

def State.close (s : State) (counts : Tally) : State :=
  match s.current with
  | none => s
  | some o =>
    let record : ObligationRecord := ⟨o.obligation, counts⟩
    { s with
      current := none
      output := { s.output with obligations := s.output.obligations ++ [record] } }

def State.takeStatus (s : State) : Status → State
  | .obligation role span status normalized =>
    let o : Obligation := ⟨role, span.toRange, status, normalized.getD "", []⟩
    { s.close .zero with current := some ⟨o, .normalized⟩ }
  | .prover name method status reason =>
    { s with current := s.current.map (·.addResult ⟨name, method.getD "", status, reason, none⟩) }
  | .tally counts => s.close counts

/-! ### Diagnostics -/

def State.settle (s : State) : State :=
  { s with
    draft := none
    output := { s.output with findings := s.output.findings.settle s.draft } }

def State.parsed (s : State) (file : Path) : State :=
  let modules := match file.stem? with
    | some name => Catalog.put (fun a b => a == b) name file s.output.modules
    | none => s.output.modules
  { s with lastParsed := some file, output := { s.output with modules := modules } }

/-- Takes a banner: what is open is closed, and the phase changes. -/
def State.enter (s : State) (sec : Section) : State :=
  let s := s.settle.close .zero
  let s := match sec with
    | .parsing (some file) => s.parsed file
    | _ => s
  { s with phase := .ofSection sec }

/-- The file that a header names: the input is the file parsed last, and a module is looked up among
    the parsed files before it is sought beside the last one. -/
def State.resolve (s : State) : Target → Path
  | .path path => if path = Header.inputPath then s.lastParsed.getD path else path
  | .module name =>
    match Catalog.get? (fun a b => a == b) name s.output.modules with
    | some path => path
    | none => (s.lastParsed.getD ⟨""⟩).siblingModule name

def State.takeHeader (s : State) (h : Header) : State :=
  let draft := Draft.start ⟨s.resolve h.target, h.span⟩ (s.phase.severity h) h.message
  { s.settle with draft := some draft }

/-! ### Lines -/

/-- Takes text. In the obligation report it belongs to the open obligation, elsewhere to the draft;
    without either it is dropped. -/
def State.addText (s : State) (extended : Bool) (text : String) : State :=
  if s.phase = .obligations then
    if extended then { s with current := s.current.map (·.addText text) } else s
  else { s with draft := s.draft.map (·.push text) }

def feed (extended : Bool) (s : State) (line : String) : State :=
  match Line.classify line with
  | .banner sec => s.enter sec
  | .header h => if s.phase = .obligations then s.addText extended line else s.takeHeader h
  | .status status =>
    if s.phase = .obligations then if extended then s.takeStatus status else s
    else s.addText extended line
  | .message text => s.addText extended text
  | .unrecognized text => s.addText extended text

def finish (s : State) : Analysis := (s.settle.close .zero).output

/-- The parser; in extended mode it keeps the obligations too. -/
def parser (extended : Bool) : LineParser State Analysis := ⟨tool, .initial, feed extended, finish⟩

end Analyzer

end TlaDigest
