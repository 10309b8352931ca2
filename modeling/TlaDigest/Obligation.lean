import TlaDigest.Path
import TlaDigest.Position
import TlaDigest.Tally

/-!
# Proof obligations and their rollup

The obligations of a module are summed up as one proof step, which covers all of them, and as a
verdict on the run.
-/

namespace TlaDigest

structure ProverResult where
  prover : String
  method : String
  status : String
  reason : Option String
  /-- The obligation as the prover printed it. -/
  obligation : Option String
deriving DecidableEq, Repr

/-- An obligation and the results reported for it, in order. -/
structure Obligation where
  role : String
  range : Range
  status : String
  normalized : String
  results : List ProverResult
deriving DecidableEq, Repr

/-- An obligation with the tally that closed it. -/
structure ObligationRecord where
  obligation : Obligation
  counts : Tally
deriving DecidableEq, Repr

namespace ObligationRecord

/-- The obligation or its tally reports a failure. -/
def isFailed (r : ObligationRecord) : Bool :=
  r.obligation.status == "failed" || 0 < r.counts.failed || 0 < r.counts.missing

end ObligationRecord

inductive Outcome where
  | success
  | failure
  | skipped
deriving DecidableEq, Repr

namespace Outcome

def name : Outcome → String
  | .success => "success"
  | .failure => "failure"
  | .skipped => "skipped"

end Outcome

structure Verdict where
  outcome : Outcome
  reason : String
deriving DecidableEq, Repr

/-- All obligations of a module as one step. -/
structure ProofStep where
  kind : String
  status : String
  path : Path
  range : Range
  obligations : List Obligation
  counts : Tally
deriving DecidableEq, Repr

namespace ProofStep

def verdict (records : List ObligationRecord) : Verdict :=
  let total := records.length
  let failed := records.countP ObligationRecord.isFailed
  if total = 0 then ⟨.skipped, "no obligations were checked"⟩
  else if failed = 0 then ⟨.success, s!"{total} obligation(s) proved"⟩
  else ⟨.failure, s!"{failed} of {total} obligation(s) failed"⟩

/-- The records of a run as one step in the file `path`. There is no step without obligations. -/
def ofRecords? (path : Path) (records : List ObligationRecord) : Option ProofStep :=
  match records with
  | [] => none
  | first :: _ =>
    some {
      kind := "module"
      status := if (verdict records).outcome = .failure then "failed" else "proved"
      path := path
      range := records.foldl (fun r record => r.hull record.obligation.range) first.obligation.range
      obligations := records.map (·.obligation)
      counts := records.foldl (fun t record => t.add record.counts) .zero }

end ProofStep

end TlaDigest
