import TlaDigest.Proofs.Catalog
import TlaDigest.Proofs.Messages

/-!
# Findings and logs

Findings are made by reports that come one after the other, in a log; they group the reports by
file. Grouping loses nothing that matters: findings that were made from a log can be merged into
others as a whole, with the same result as replaying the log there (`merge_ofLog`), and a log can be
read off them that makes them again (`ofLog_log`).

For the second fact the findings have to be tidy (`Tidy`): each file stands once, and none without a
diagnostic. Findings made from a log are tidy (`tidy_ofLog`).
-/

namespace TlaDigest

/-- Paths with the same components are one key. -/
theorem Path.keyTest_same : Catalog.KeyTest Path.same where
  refl path := beq_self_eq_true path.components
  congr hsame key := by
    have heq := eq_of_beq hsame
    rw [Path.same, Path.same, heq]

namespace Findings

def appendRule (items : List Diagnostic) (old : Option (List Diagnostic)) : List Diagnostic :=
  old.getD [] ++ items

theorem absorbs_appendRule : Catalog.Absorbs appendRule where
  first items old := by simp [appendRule]
  again items others old := by simp [appendRule]

theorem files_append (f : Findings) (path : Path) (items : List Diagnostic) :
    (f.append path items).files = Catalog.alter Path.same path (appendRule items) f.files := rfl

/-- Findings are merged as tables are. -/
theorem files_merge (f g : Findings) :
    (f.merge g).files = Catalog.insertAll Path.same appendRule f.files g.files := by
  obtain ⟨files⟩ := g
  unfold merge Catalog.insertAll
  simp only
  induction files generalizing f with
  | nil => rfl
  | cons entry files ih =>
    rw [List.foldl_cons, List.foldl_cons, ih, files_append]

theorem ext_files {f g : Findings} (h : f.files = g.files) : f = g := by
  cases f
  cases g
  exact congrArg Findings.mk h

/-! ### Counting -/

theorem diagnostics_merge_perm (f g : Findings) :
    (f.merge g).diagnostics.Perm (f.diagnostics ++ g.diagnostics) := by
  obtain ⟨files⟩ := g
  simp only [merge]
  induction files generalizing f with
  | nil => simp [diagnostics]
  | cons entry files ih =>
    have hstep := (ih (f.append entry.1 entry.2)).trans
      ((diagnostics_append_perm f entry.1 entry.2).append_right _)
    rwa [List.append_assoc] at hstep

/-- Merging adds up what was counted. -/
@[simp] theorem count_merge (f g : Findings) (s : Severity) :
    (f.merge g).count s = f.count s + g.count s := by
  rw [count, (diagnostics_merge_perm f g).countP_eq, List.countP_append]
  rfl

theorem count_error_add_count_warning (f : Findings) :
    f.count .error + f.count .warning = f.size := by
  unfold count size
  induction f.diagnostics with
  | nil => rfl
  | cons d ds ih =>
    rw [List.countP_cons, List.countP_cons, List.length_cons]
    cases d.severity <;> simp <;> omega

theorem isEmpty_iff (f : Findings) : f.isEmpty = true ↔ f.size = 0 := by
  rw [isEmpty, size, List.length_eq_zero_iff, diagnostics, List.flatMap_eq_nil_iff,
    List.all_eq_true]
  simp

/-! ### Tidy findings -/

structure Tidy (f : Findings) : Prop where
  distinct : Catalog.Distinct Path.same f.files
  reported : ∀ entry ∈ f.files, entry.2 ≠ []

theorem tidy_empty : Tidy empty := ⟨List.Pairwise.nil, by simp [empty]⟩

theorem tidy_add {f : Findings} (h : Tidy f) (path : Path) (d : Diagnostic) :
    Tidy (f.add path d) := by
  refine ⟨Catalog.distinct_alter h.distinct path _, ?_⟩
  intro entry hentry
  rcases Catalog.mem_alter hentry with hmem | ⟨old, hmade⟩
  · exact h.reported entry hmem
  · rw [hmade]
    simp

theorem tidy_replay {f : Findings} (h : Tidy f) (log : List Finding) : Tidy (f.replay log) := by
  induction log generalizing f with
  | nil => exact h
  | cons finding log ih => exact ih (tidy_add h finding.path finding.diagnostic)

theorem tidy_ofLog (log : List Finding) : Tidy (ofLog log) := tidy_replay tidy_empty log

/-! ### Merging and replaying -/

/-- A report may be added before or after merging. -/
theorem merge_add (f : Findings) {g : Findings} (hg : Tidy g) (path : Path) (d : Diagnostic) :
    f.merge (g.add path d) = (f.merge g).add path d := by
  apply ext_files
  rw [files_merge, add, files_append, add, files_append, files_merge]
  exact Catalog.insertAll_alter Path.keyTest_same absorbs_appendRule path [d] hg.distinct f.files

theorem merge_replay (f : Findings) {g : Findings} (hg : Tidy g) (log : List Finding) :
    f.merge (g.replay log) = (f.merge g).replay log := by
  induction log generalizing g with
  | nil => rfl
  | cons finding log ih =>
    have hnext := ih (tidy_add hg finding.path finding.diagnostic)
    rw [merge_add f hg] at hnext
    exact hnext

/-- **Merging findings is replaying their log**, with the order of the files and their spellings. -/
theorem merge_ofLog (f : Findings) (log : List Finding) : f.merge (ofLog log) = f.replay log :=
  merge_replay f tidy_empty log

def log (f : Findings) : List Finding :=
  f.files.flatMap fun entry => entry.2.map fun d => ⟨entry.1, d⟩

/-- Reports for one file that follow each other are added at once. -/
theorem replay_map (f : Findings) (path : Path) {items : List Diagnostic} (h : items ≠ []) :
    f.replay (items.map fun d => ⟨path, d⟩) = f.append path items := by
  induction items generalizing f with
  | nil => exact absurd rfl h
  | cons d items ih =>
    by_cases hnil : items = []
    · subst hnil
      rfl
    · have hstep : f.replay ((d :: items).map fun d => ⟨path, d⟩) =
          (f.add path d).append path items := ih (f.add path d) hnil
      rw [hstep]
      apply ext_files
      rw [add, files_append, files_append, files_append,
        Catalog.alter_alter_of_same Path.keyTest_same (Path.keyTest_same.refl path)]
      congr 1
      funext old
      simp [appendRule]

theorem replay_log (f : Findings) {g : Findings} (hg : ∀ entry ∈ g.files, entry.2 ≠ []) :
    f.replay g.log = f.merge g := by
  obtain ⟨files⟩ := g
  unfold log merge
  simp only at hg ⊢
  induction files generalizing f with
  | nil => rfl
  | cons entry files ih =>
    rw [List.flatMap_cons, replay_append, replay_map f entry.1 (hg entry (by simp)),
      List.foldl_cons]
    exact ih _ fun other hother => hg other (by simp [hother])

/-- Merging into nothing changes nothing. -/
theorem empty_merge {g : Findings} (hg : Tidy g) : empty.merge g = g := by
  apply ext_files
  rw [files_merge]
  exact Catalog.insertAll_eq_append (fun items => by simp [appendRule]) hg.distinct

/-- **Tidy findings are made again from their reports.** -/
theorem ofLog_log {g : Findings} (hg : Tidy g) : ofLog g.log = g := by
  rw [ofLog, replay_log empty hg.reported, empty_merge hg]

end Findings

end TlaDigest
