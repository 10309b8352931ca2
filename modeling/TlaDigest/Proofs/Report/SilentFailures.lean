import TlaDigest.Proofs.Findings
import TlaDigest.Report

/-!
# Silent failures in the report on both tools

A tool that is run alone fails silently when it reports nothing itself; when both are run, silence
is judged on what the two reported together. The report on both therefore has no note as soon as one
of the tools reported something, and otherwise the first of the notes that the tools would have
alone.

What this does to the exit code is `ofModule_eq_separate`: it is the larger of the two, except where
the failure is masked. A failure is masked when one tool fails silently and the other has warnings
but no error (`masked`): the separate reports exit with 1 then, and the report on both with 0.
-/

namespace TlaDigest

namespace Findings

@[simp]
theorem isEmpty_merge (f g : Findings) : (f.merge g).isEmpty = (f.isEmpty && g.isEmpty) := by
  have hsize : (f.merge g).size = f.size + g.size := by
    rw [size, (diagnostics_merge_perm f g).length_eq, List.length_append]
    rfl
  rw [Bool.eq_iff_iff, Bool.and_eq_true, isEmpty_iff, isEmpty_iff, isEmpty_iff, hsize]
  omega

@[simp] theorem hasErrors_merge (f g : Findings) :
    (f.merge g).hasErrors = (f.hasErrors || g.hasErrors) := by
  unfold hasErrors
  rw [count_merge, Bool.eq_iff_iff, Bool.or_eq_true]
  simp only [decide_eq_true_eq]
  omega

theorem hasErrors_of_isEmpty {f : Findings} (h : f.isEmpty = true) : f.hasErrors = false := by
  have hcount := f.count_error_add_count_warning
  rw [f.isEmpty_iff.mp h] at hcount
  exact decide_eq_false (by omega)

def onlyWarns (f : Findings) : Bool := !f.isEmpty && !f.hasErrors

end Findings

namespace Report

/-! ### Notes -/

@[simp]
theorem silentFailures_noteFailure (r : Report) (failed : Bool) (tool : String) (exit : Exit) :
    (r.noteFailure failed tool exit).silentFailures =
      r.silentFailures ++ if failed then [silentFailure tool exit] else [] := by
  cases failed with
  | true => rfl
  | false => exact (List.append_nil _).symm

@[simp] theorem findings_noteFailure (r : Report) (failed : Bool) (tool : String) (exit : Exit) :
    (r.noteFailure failed tool exit).findings = r.findings := by
  cases failed with
  | true => rfl
  | false => rfl

theorem silentFailures_ofTranspiler (t : ToolRun Findings) :
    (ofTranspiler t).silentFailures =
      if t.transpilerFailedSilently then [silentFailure Transpiler.tool t.exit] else [] :=
  silentFailures_noteFailure _ _ _ _

theorem silentFailures_ofAnalyzer (a : ToolRun Analysis) (extended : Bool) :
    (ofAnalyzer a extended).silentFailures =
      if a.analyzerFailedSilently then [silentFailure Analyzer.tool a.exit] else [] :=
  silentFailures_noteFailure _ _ _ _

/-- Silence of both is judged on what they reported together. -/
theorem failedSilently_ofRuns (t : ToolRun Findings) (a : ToolRun Analysis) :
    (ModuleRun.ofRuns t a).failedSilently =
      (t.output.isEmpty && a.output.findings.isEmpty && !(t.exit.success && a.exit.success)) := by
  rw [← Findings.isEmpty_merge]
  rfl

/-- There is at most one note on both tools, and it is on the transpiler if that failed. -/
theorem silentFailures_ofModule (t : ToolRun Findings) (a : ToolRun Analysis) (extended : Bool) :
    (ofModule (.ofRuns t a) extended).silentFailures =
      if (ModuleRun.ofRuns t a).failedSilently then
        [if t.exit.success then silentFailure Analyzer.tool a.exit
          else silentFailure Transpiler.tool t.exit]
      else [] := by
  have htranspiler : (ModuleRun.ofRuns t a).transpilerExit = t.exit := rfl
  have hanalyzer : (ModuleRun.ofRuns t a).analyzerExit = a.exit := rfl
  rw [ofModule, htranspiler, hanalyzer]
  cases t.exit.success with
  | true => simp only [if_true, silentFailures_noteFailure, ofAnalysis, List.nil_append]
  | false =>
    simp only [Bool.false_eq_true, if_false, silentFailures_noteFailure, ofAnalysis,
      List.nil_append]

/-- When something was reported there is no note. Otherwise there is the first of the notes on the
    tools alone. -/
theorem silentFailures_ofModule_eq_take (t : ToolRun Findings) (a : ToolRun Analysis)
    (extended : Bool) :
    (ofModule (.ofRuns t a) extended).silentFailures =
      if t.output.isEmpty && a.output.findings.isEmpty then
        ((ofTranspiler t).silentFailures ++ (ofAnalyzer a extended).silentFailures).take 1
      else [] := by
  rw [silentFailures_ofModule, failedSilently_ofRuns, silentFailures_ofTranspiler,
    silentFailures_ofAnalyzer, ToolRun.transpilerFailedSilently, ToolRun.analyzerFailedSilently,
    Findings.failedSilently, Findings.failedSilently]
  -- nothing is left but how the processes ended and whether the tools were silent
  cases t.output.isEmpty <;> cases a.output.findings.isEmpty <;> cases t.exit.success <;>
    cases a.exit.success <;> simp

/-! ### Exit codes -/

theorem exitCode_eq (r : Report) :
    r.exitCode = (r.findings.hasErrors || !r.silentFailures.isEmpty).toNat := by
  rw [exitCode]
  cases r.findings.hasErrors || !r.silentFailures.isEmpty with
  | true => rfl
  | false => rfl

theorem exitCode_ofTranspiler (t : ToolRun Findings) :
    (ofTranspiler t).exitCode = (t.output.hasErrors || t.transpilerFailedSilently).toNat := by
  have hfindings : (ofTranspiler t).findings = t.output := findings_noteFailure _ _ _ _
  rw [exitCode_eq, hfindings, silentFailures_ofTranspiler]
  cases t.transpilerFailedSilently with
  | true => rfl
  | false => rfl

theorem exitCode_ofAnalyzer (a : ToolRun Analysis) (extended : Bool) :
    (ofAnalyzer a extended).exitCode =
      (a.output.findings.hasErrors || a.analyzerFailedSilently).toNat := by
  have hfindings : (ofAnalyzer a extended).findings = a.output.findings :=
    findings_noteFailure _ _ _ _
  rw [exitCode_eq, hfindings, silentFailures_ofAnalyzer]
  cases a.analyzerFailedSilently with
  | true => rfl
  | false => rfl

theorem findings_ofModule (t : ToolRun Findings) (a : ToolRun Analysis) (extended : Bool) :
    (ofModule (.ofRuns t a) extended).findings = t.output.merge a.output.findings := by
  rw [ofModule]
  split
  · exact findings_noteFailure _ _ _ _
  · exact findings_noteFailure _ _ _ _

theorem exitCode_ofModule (t : ToolRun Findings) (a : ToolRun Analysis) (extended : Bool) :
    (ofModule (.ofRuns t a) extended).exitCode =
      (t.output.hasErrors || a.output.findings.hasErrors ||
        (ModuleRun.ofRuns t a).failedSilently).toNat := by
  rw [exitCode_eq, findings_ofModule, Findings.hasErrors_merge, silentFailures_ofModule]
  cases (ModuleRun.ofRuns t a).failedSilently with
  | true => rfl
  | false => rfl

/-- One tool fails silently, and the other has warnings but no error. -/
def masked (t : ToolRun Findings) (a : ToolRun Analysis) : Bool :=
  t.transpilerFailedSilently && a.output.findings.onlyWarns ||
    a.analyzerFailedSilently && t.output.onlyWarns

/-- **What the report on both tools shows of their failures.** When neither tool reported anything,
    its only note is the first that the separate reports have, if they have one; when something was
    reported it has no note. Its exit code is the larger of the two, unless a failure is masked: it
    is 0 then, where a separate report has 1. -/
theorem ofModule_eq_separate (t : ToolRun Findings) (a : ToolRun Analysis) (extended : Bool) :
    let both := ofModule (.ofRuns t a) extended
    let transpiled := ofTranspiler t
    let analyzed := ofAnalyzer a extended
    (both.silentFailures =
        if t.output.isEmpty && a.output.findings.isEmpty then
          (transpiled.silentFailures ++ analyzed.silentFailures).take 1
        else []) ∧
      if masked t a then
        both.exitCode = 0 ∧ max transpiled.exitCode analyzed.exitCode = 1
      else both.exitCode = max transpiled.exitCode analyzed.exitCode := by
  intro both transpiled analyzed
  refine ⟨silentFailures_ofModule_eq_take t a extended, ?_⟩
  have ht := Findings.hasErrors_of_isEmpty (f := t.output)
  have ha := Findings.hasErrors_of_isEmpty (f := a.output.findings)
  rw [exitCode_ofModule, exitCode_ofTranspiler, exitCode_ofAnalyzer, failedSilently_ofRuns, masked,
    Findings.onlyWarns, Findings.onlyWarns, ToolRun.transpilerFailedSilently,
    ToolRun.analyzerFailedSilently, Findings.failedSilently, Findings.failedSilently]
  -- six truth values are left, and findings that are empty hold no error
  revert ht ha
  generalize t.output.isEmpty = silent, a.output.findings.isEmpty = silent',
    t.output.hasErrors = errors, a.output.findings.hasErrors = errors', t.exit.success = success,
    a.exit.success = success'
  revert silent silent' errors errors' success success'
  decide

/-- A transpiler that fails silently is hidden by a warning of the analyzer. -/
theorem ofModule_hides_failure :
    let t : ToolRun Findings := ⟨.empty, .ofCode 1⟩
    let a : ToolRun Analysis :=
      ⟨⟨Findings.empty.add ⟨"Queue.tla"⟩ ⟨.point ⟨1, 0⟩, .warning, "unused"⟩, [], []⟩, .ofCode 0⟩
    let both := ofModule (.ofRuns t a) false
    both.silentFailures ≠ (ofTranspiler t).silentFailures ++ (ofAnalyzer a false).silentFailures ∧
      both.exitCode ≠ max (ofTranspiler t).exitCode (ofAnalyzer a false).exitCode := by
  decide +kernel

end Report

end TlaDigest
