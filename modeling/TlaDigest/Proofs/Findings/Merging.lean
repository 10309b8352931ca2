import Mathlib.Data.List.Perm.Subperm
import TlaDigest.Proofs.Findings.Histories

/-!
# The laws of merging

The laws of merging, for findings that calls can make (`Reachable`). With the order of the files and
their spellings, merging is associative and the empty findings are neutral: both sides replay the
same log.

Findings agree when they have the same files with the same diagnostics, in any order of the files
and in any spelling. The test for it walks one table and looks its entries up in the other, and
leaves it to the number of files that the other has no more. `agree_iff` says what it tests: that
every file has the same diagnostics on both sides. For a file, merging is putting one list after the
other (`get_merge`), so merged findings agree if their parts do, and the order of merging does not
matter where no file is on both sides. The main statement is `merge_monoid`.
-/

namespace TlaDigest.Findings

variable {f g h : Findings}

/-! ### Findings that calls can make -/

def Reachable (f : Findings) : Prop := ∃ history : History, history.findings = f

theorem Reachable.exists_log (hf : f.Reachable) : ∃ log, f = ofLog log := by
  obtain ⟨history, rfl⟩ := hf
  exact ⟨history.log, history.findings_eq_ofLog⟩

theorem Reachable.tidy (hf : f.Reachable) : f.Tidy := by
  obtain ⟨log, rfl⟩ := hf.exists_log
  exact tidy_ofLog log

theorem Reachable.merge (hf : f.Reachable) (hg : g.Reachable) : (f.merge g).Reachable := by
  obtain ⟨first, rfl⟩ := hf
  obtain ⟨second, rfl⟩ := hg
  exact ⟨.addAll first second, rfl⟩

theorem merge_assoc (f : Findings) (hg : g.Reachable) (hh : h.Reachable) :
    (f.merge g).merge h = f.merge (g.merge h) := by
  obtain ⟨log, rfl⟩ := hg.exists_log
  obtain ⟨more, rfl⟩ := hh.exists_log
  have hboth : (ofLog log).merge (ofLog more) = ofLog (log ++ more) := by
    rw [merge_ofLog]
    exact (replay_append empty log more).symm
  rw [hboth, merge_ofLog, merge_ofLog, merge_ofLog, replay_append]

theorem get_merge (f : Findings) (hg : g.Reachable) (path : Path) :
    (f.merge g).get path = f.get path ++ g.get path := by
  obtain ⟨log, rfl⟩ := hg.exists_log
  rw [merge_ofLog, get_replay, get_ofLog]

/-! ### Agreement -/

/-- The files, apart from their spellings. -/
def places (f : Findings) : List (List Path.Component) := f.paths.map Path.components

theorem Tidy.nodup_places (hf : f.Tidy) : f.places.Nodup := by
  refine List.pairwise_map.mpr (hf.distinct.imp ?_)
  intro p q hpq heq
  rw [Path.same, heq, beq_self_eq_true] at hpq
  cases hpq

/-- A file that is entered has diagnostics, so looking it up never gives an empty list. -/
theorem Tidy.get?_eq_some_iff (hf : f.Tidy) {path : Path} {items : List Diagnostic} :
    Catalog.get? Path.same path f.files = some items ↔ f.get path = items ∧ items ≠ [] := by
  constructor
  · intro hfound
    obtain ⟨key, hmem, -⟩ := Catalog.mem_of_get? hfound
    exact ⟨by rw [get, hfound, Option.getD_some], hf.reported _ hmem⟩
  · rintro ⟨hget, hitems⟩
    rw [get] at hget
    cases hfound : Catalog.get? Path.same path f.files with
    | none =>
      rw [hfound] at hget
      exact absurd hget.symm hitems
    | some found =>
      rw [hfound, Option.getD_some] at hget
      rw [hget]

theorem Tidy.mem_places_iff (hf : f.Tidy) (path : Path) :
    path.components ∈ f.places ↔ f.get path ≠ [] := by
  constructor
  · intro hmem
    obtain ⟨key, hkey, heq⟩ := List.mem_map.mp hmem
    obtain ⟨⟨_, items⟩, hentry, rfl⟩ := List.mem_map.mp hkey
    have hfound := Catalog.get?_of_mem Path.keyTest_same hf.distinct hentry (k := path)
      (by rw [Path.same, heq, beq_self_eq_true])
    obtain ⟨hget, hitems⟩ := hf.get?_eq_some_iff.mp hfound
    rwa [hget]
  · intro hget
    obtain ⟨key, hmem, hsame⟩ := Catalog.mem_of_get? (hf.get?_eq_some_iff.mpr ⟨rfl, hget⟩)
    rw [← eq_of_beq hsame]
    exact List.mem_map_of_mem (List.mem_map_of_mem hmem)

theorem places_subset (hf : f.Tidy) (hg : g.Tidy) (hget : ∀ path, f.get path = g.get path) :
    f.places ⊆ g.places := by
  intro place hplace
  obtain ⟨path, -, rfl⟩ := List.mem_map.mp hplace
  rw [hg.mem_places_iff, ← hget]
  exact (hf.mem_places_iff path).mp hplace

theorem agree_eq_true_iff (f g : Findings) :
    f.agree g = true ↔ f.places.length = g.places.length ∧
      ∀ entry ∈ f.files, Catalog.get? Path.same entry.1 g.files = some entry.2 := by
  simp [agree, places, paths]

/-- **Findings agree when every file has the same diagnostics in both.** -/
theorem agree_iff (hf : f.Tidy) (hg : g.Tidy) :
    f.agree g = true ↔ ∀ path, f.get path = g.get path := by
  rw [agree_eq_true_iff]
  constructor
  · rintro ⟨hlength, hentries⟩
    have hsubset : f.places ⊆ g.places := by
      intro place hplace
      obtain ⟨path, hpath, rfl⟩ := List.mem_map.mp hplace
      obtain ⟨entry, hentry, rfl⟩ := List.mem_map.mp hpath
      obtain ⟨hget, hitems⟩ := hg.get?_eq_some_iff.mp (hentries entry hentry)
      rw [hg.mem_places_iff, hget]
      exact hitems
    -- as many files on both sides: none is left over in the second
    have hperm : f.places.Perm g.places :=
      (List.subperm_of_subset hf.nodup_places hsubset).perm_of_length_le hlength.ge
    intro path
    by_cases hget : f.get path = []
    · have habsent : path.components ∉ g.places := by
        rw [← hperm.mem_iff, hf.mem_places_iff]
        exact not_not_intro hget
      rw [hget]
      exact (Classical.not_not.mp (mt (hg.mem_places_iff path).mpr habsent)).symm
    · obtain ⟨key, hmem, hsame⟩ := Catalog.mem_of_get? (hf.get?_eq_some_iff.mpr ⟨rfl, hget⟩)
      have hfound := hentries _ hmem
      rw [Catalog.get?_congr Path.keyTest_same hsame] at hfound
      exact (hg.get?_eq_some_iff.mp hfound).1.symm
  · intro hget
    refine ⟨?_, ?_⟩
    · have hleft := List.subperm_of_subset hf.nodup_places (places_subset hf hg hget)
      have hright := List.subperm_of_subset hg.nodup_places
        (places_subset hg hf fun path => (hget path).symm)
      exact (hleft.antisymm hright).length_eq
    · rintro ⟨key, items⟩ hentry
      have hfound := Catalog.get?_of_mem Path.keyTest_same hf.distinct hentry
        (Path.keyTest_same.refl key)
      rw [hf.get?_eq_some_iff, hget key] at hfound
      exact hg.get?_eq_some_iff.mpr hfound

/-! ### The laws -/

/-- A file that only one side has. -/
theorem get_eq_nil_of_apart (hf : f.Tidy) (hg : g.Tidy)
    (happart : ∀ p ∈ f.paths, ∀ q ∈ g.paths, p.same q = false) (path : Path) :
    f.get path = [] ∨ g.get path = [] := by
  by_contra hboth
  rw [not_or, ← ne_eq, ← ne_eq, ← hf.mem_places_iff, ← hg.mem_places_iff] at hboth
  obtain ⟨p, hp, hpath⟩ := List.mem_map.mp hboth.1
  obtain ⟨q, hq, hpath'⟩ := List.mem_map.mp hboth.2
  have hsame := happart p hp q hq
  rw [Path.same, hpath, hpath', beq_self_eq_true] at hsame
  cases hsame

/-- **Merging is a monoid, and goes with agreement.** It is associative with the empty findings
    neutral on both sides, to the order of the files and their spellings. Findings that agree may
    be put for each other, and findings without a common file may be merged in either order; the
    outcome agrees. -/
theorem merge_monoid (hf : f.Reachable) (hg : g.Reachable) (hh : h.Reachable) :
    (f.merge g).merge h = f.merge (g.merge h) ∧
      empty.merge f = f ∧ f.merge empty = f ∧
      (∀ f' g' : Findings, f'.Reachable → g'.Reachable → f.agree f' = true → g.agree g' = true →
        (f.merge g).agree (f'.merge g') = true) ∧
      ((∀ p ∈ f.paths, ∀ q ∈ g.paths, p.same q = false) →
        (f.merge g).agree (g.merge f) = true) := by
  refine ⟨merge_assoc f hg hh, empty_merge hf.tidy, rfl, ?_, ?_⟩
  · intro f' g' hf' hg' hfagree hgagree
    rw [agree_iff hf.tidy hf'.tidy] at hfagree
    rw [agree_iff hg.tidy hg'.tidy] at hgagree
    rw [agree_iff (hf.merge hg).tidy (hf'.merge hg').tidy]
    intro path
    rw [get_merge f hg, get_merge f' hg', hfagree, hgagree]
  · intro happart
    rw [agree_iff (hf.merge hg).tidy (hg.merge hf).tidy]
    intro path
    rw [get_merge f hg, get_merge g hf]
    rcases get_eq_nil_of_apart hf.tidy hg.tidy happart path with hnil | hnil
    · rw [hnil, List.nil_append, List.append_nil]
    · rw [hnil, List.nil_append, List.append_nil]

/-- Two files in either order, one of them in two spellings, and a third file beside them. -/
theorem merge_monoid_of_two_spellings :
    let note (message : String) : Diagnostic := ⟨.origin, .warning, message⟩
    let first : History := .add (.add .start ⟨⟨"a//M.tla"⟩, note "one"⟩) ⟨⟨"b.tla"⟩, note "two"⟩
    let other : History := .add (.add .start ⟨⟨"b.tla"⟩, note "two"⟩) ⟨⟨"a/./M.tla"⟩, note "one"⟩
    let second : History := .add .start ⟨⟨"c.tla"⟩, note "three"⟩
    let f := first.findings
    let f' := other.findings
    let g := second.findings
    f ≠ f' ∧ f.agree f' = true ∧ (∀ p ∈ f.paths, ∀ q ∈ g.paths, p.same q = false) ∧
      (f.merge g).merge f' = f.merge (g.merge f') ∧
      (f.merge g).agree (f'.merge g) = true ∧ (f.merge g).agree (g.merge f) = true := by
  intro note first other second f f' g
  have hf : f.Reachable := ⟨first, rfl⟩
  have hf' : f'.Reachable := ⟨other, rfl⟩
  have hg : g.Reachable := ⟨second, rfl⟩
  have hagree : f.agree f' = true := by decide +kernel
  have happart : ∀ p ∈ f.paths, ∀ q ∈ g.paths, p.same q = false := by decide +kernel
  obtain ⟨hassoc, -, -, hcongr, hcomm⟩ := merge_monoid hf hg hf'
  exact ⟨by decide +kernel, hagree, happart, hassoc,
    hcongr f' g hf' hg hagree (by decide +kernel), hcomm happart⟩

end TlaDigest.Findings
