import Mathlib.Data.List.Induction
import TlaDigest.Proofs.Findings

/-!
# How findings come about

They start empty, and every call adds one diagnostic or all of other findings, which were made by
calls of their own (`History`). Merging goes file by file, so the calls do not reach the findings in
the order in which the diagnostics were reported; all the same, the outcome is that of one flat log,
replayed report by report (`findings_eq_ofLog`).

Everything that can be asked of the findings is then a question about the log. `Records` lists the
answers, and `records_log` proves them for every history. Files are compared by their components:
two spellings are one file, which keeps the spelling of its first report.
-/

namespace TlaDigest

/-- The calls that made some findings; the last call stands outermost. -/
inductive History where
  | start
  | add (before : History) (finding : Finding)
  | addAll (before other : History)
deriving DecidableEq, Repr

namespace History

def findings : History → Findings
  | .start => .empty
  | .add before finding => before.findings.add finding.path finding.diagnostic
  | .addAll before other => before.findings.merge other.findings

/-- The reports that were made, those of merged findings where they were merged. -/
def log : History → List Finding
  | .start => []
  | .add before finding => before.log ++ [finding]
  | .addAll before other => before.log ++ other.log

/-- **Merging is flat.** However deep the calls are nested, they replay one log. -/
theorem findings_eq_ofLog (h : History) : h.findings = .ofLog h.log := by
  induction h with
  | start => rfl
  | add before finding ih =>
    have hlast : Findings.ofLog (before.log ++ [finding]) =
        (Findings.ofLog before.log).add finding.path finding.diagnostic :=
      Findings.replay_append _ _ _
    rw [findings, log, hlast, ih]
  | addAll before other ih ihother =>
    have hrest : Findings.ofLog (before.log ++ other.log) =
        (Findings.ofLog before.log).replay other.log :=
      Findings.replay_append _ _ _
    rw [findings, log, hrest, ih, ihother, Findings.merge_ofLog]

end History

/-! ### Files in the order of their first report -/

/-- The last element of a list is kept if none of those kept before it is the same. -/
theorem eraseDupsBy_concat {α : Type} (r : α → α → Bool) (as : List α) (a : α) :
    (as ++ [a]).eraseDupsBy r =
      as.eraseDupsBy r ++ if (as.eraseDupsBy r).any (r a) then [] else [a] := by
  -- the loop keeps what it found so far in reverse, so the statement is generalised over that
  have hloop : ∀ kept : List α, List.eraseDupsBy.loop r (as ++ [a]) kept =
      List.eraseDupsBy.loop r as kept ++
        if (List.eraseDupsBy.loop r as kept).any (r a) then [] else [a] := by
    induction as with
    | nil =>
      intro kept
      simp only [List.nil_append, List.eraseDupsBy.loop, List.any_reverse]
      cases kept.any (r a) with
      | true => simp
      | false => simp
    | cons first as ih =>
      intro kept
      have hfirst : ∀ rest, List.eraseDupsBy.loop r (first :: rest) kept =
          List.eraseDupsBy.loop r rest (if kept.any (r first) then kept else first :: kept) := by
        intro rest
        rw [List.eraseDupsBy.loop]
        cases kept.any (r first) with
        | true => rfl
        | false => rfl
      rw [List.cons_append, hfirst, hfirst]
      exact ih _
  exact hloop []

namespace Findings

theorem paths_add (f : Findings) (path : Path) (d : Diagnostic) :
    (f.add path d).paths = f.paths ++ if f.paths.any path.same then [] else [path] := by
  have hkeys := Catalog.keys_alter Path.same path (appendRule [d]) f.files
  have hhas : Catalog.has Path.same path f.files = f.paths.any path.same := by
    rw [Catalog.has]
    congr 1
    funext key
    exact Path.keyTest_same.comm key path
  rw [hhas] at hkeys
  exact hkeys

/-- The files stand in the order of their first reports, and are spelled as in these. -/
theorem paths_ofLog (log : List Finding) :
    (ofLog log).paths = (log.map (·.path)).eraseDupsBy Path.same := by
  induction log using List.reverseRecOn with
  | nil => rfl
  | append_singleton log finding ih =>
    have hlast : ofLog (log ++ [finding]) =
        (ofLog log).add finding.path finding.diagnostic := replay_append _ _ _
    rw [hlast, paths_add, List.map_append, List.map_singleton, eraseDupsBy_concat, ih]

/-! ### Looking a file up -/

theorem get_append (f : Findings) (path other : Path) (items : List Diagnostic) :
    (f.append path items).get other = f.get other ++ if path.same other then items else [] := by
  rw [get, files_append, Catalog.get?_alter Path.keyTest_same]
  cases path.same other with
  | true => rfl
  | false => simp [get]

/-- Replaying a log adds to a file its reports in the log, whatever their spelling. -/
theorem get_replay (f : Findings) (log : List Finding) (path : Path) :
    (f.replay log).get path =
      f.get path ++ (log.filter fun r => r.path.same path).map (·.diagnostic) := by
  induction log generalizing f with
  | nil => simp [replay]
  | cons finding log ih =>
    have hadd : (f.add finding.path finding.diagnostic).get path = _ := get_append f _ path _
    rw [replay, List.foldl_cons, ← replay, ih, hadd, List.filter_cons]
    cases finding.path.same path with
    | true => simp
    | false => simp

theorem get_ofLog (log : List Finding) (path : Path) :
    (ofLog log).get path = (log.filter fun r => r.path.same path).map (·.diagnostic) :=
  get_replay empty log path

/-! ### What findings tell of their log -/

/-- No file without diagnostics: then there are no files where there are no diagnostics. -/
theorem Tidy.paths_eq_nil_iff {f : Findings} (h : f.Tidy) : f.paths = [] ↔ f.size = 0 := by
  obtain ⟨files⟩ := f
  cases files with
  | nil => simp [paths, size, diagnostics]
  | cons entry files =>
    have hentry : entry.2 ≠ [] := h.reported entry List.mem_cons_self
    simp [paths, size, diagnostics, hentry]

structure Records (f : Findings) (log : List Finding) : Prop where
  replayed : f = ofLog log
  /-- No file stands twice, in whatever spellings. -/
  distinct : f.paths.Pairwise fun p q => p.same q = false
  /-- The files are those of the log, in the order of first report and spelled as there. -/
  firstReported : f.paths = (log.map (·.path)).eraseDupsBy Path.same
  /-- No file stands without a diagnostic. -/
  reported : ∀ entry ∈ f.files, entry.2 ≠ []
  /-- In any spelling of it, a file has its reports in the order of the log. -/
  filed : ∀ path, f.get path = (log.filter fun r => r.path.same path).map (·.diagnostic)
  size_eq : f.size = log.length
  counted : f.count .error + f.count .warning = f.size
  isEmpty_iff : f.isEmpty = true ↔ f.size = 0
  paths_eq_nil_iff : f.paths = [] ↔ f.size = 0

/-- **Findings are a faithful log.** Whatever calls made them, the findings are those of the flat
    log of all reports: file by file, in the order of first report, with nothing lost, added or put
    out of order. -/
theorem records_log (h : History) : h.findings.Records h.log := by
  have htidy : (ofLog h.log).Tidy := tidy_ofLog h.log
  rw [h.findings_eq_ofLog]
  exact {
    replayed := rfl
    distinct := htidy.distinct
    firstReported := paths_ofLog h.log
    reported := htidy.reported
    filed := get_ofLog h.log
    size_eq := size_ofLog h.log
    counted := count_error_add_count_warning _
    isEmpty_iff := isEmpty_iff _
    paths_eq_nil_iff := htidy.paths_eq_nil_iff }

end Findings

end TlaDigest
