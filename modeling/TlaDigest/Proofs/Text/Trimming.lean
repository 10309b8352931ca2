import Mathlib.Data.List.DropRight
import TlaDigest.Text.Blank

/-!
# Trimming and joining lines

Trimming a text twice changes nothing more (`trim_trim`), so it does not matter whether a line was
trimmed before it is looked at. The visible text of some lines (`texts`) is each of them trimmed,
without those that are blank; a line at a time, it is what every message is made of. Joining lines
goes on at the end by a line break and the next line (`joinLines_concat`).
-/

namespace TlaDigest.Text

/-! ### Trimming -/

/-- A text whose first character is visible has nothing to drop at the front, nor has any text that
    it starts with. -/
theorem trimStart_of_prefix {cs ds : List Char} (h : ds <+: trimStart cs) : trimStart ds = ds := by
  cases ds with
  | nil => rfl
  | cons d ds =>
    obtain ⟨rest, hrest⟩ := h
    have hidem : trimStart (trimStart cs) = trimStart cs := List.dropWhile_idempotent _ _
    rw [← hrest, List.cons_append] at hidem
    by_cases hd : isBlank d
    · -- a blank first character would be dropped, and the text get shorter
      have hlen : (trimStart (ds ++ rest)).length = (d :: (ds ++ rest)).length := by
        rw [← hidem]
        simp [trimStart, hd]
      have hle : (trimStart (ds ++ rest)).length ≤ (ds ++ rest).length :=
        (List.dropWhile_sublist _).length_le
      rw [List.length_cons] at hlen
      omega
    · simp [trimStart, hd]

/-- **Trimming is idempotent.** -/
@[simp] theorem trim_trim (cs : List Char) : trim (trim cs) = trim cs := by
  have hstart : trimStart (trim cs) = trim cs := trimStart_of_prefix (List.rdropWhile_prefix _ _)
  calc trim (trim cs)
      = trimEnd (trim cs) := congrArg trimEnd hstart
    _ = trim cs := List.rdropWhile_idempotent _ _

@[simp]
theorem trim_toList_trimmed (line : String) : trim (trimmed line).toList = trim line.toList := by
  rw [trimmed, String.toList_ofList, trim_trim]

@[simp]
theorem trimmed_eq_empty_iff (line : String) : trimmed line = "" ↔ trim line.toList = [] := by
  rw [trimmed]
  constructor
  · intro h
    simpa using congrArg String.toList h
  · intro h
    rw [h, String.ofList_nil]

/-- Blanks in front of a text do not count. -/
theorem trim_append_of_blank {u : List Char} (hu : ∀ c ∈ u, isBlank c = true) (cs : List Char) :
    trim (u ++ cs) = trim cs := by
  have hstart : trimStart (u ++ cs) = trimStart cs := List.dropWhile_append_of_pos hu
  rw [trim, hstart, trim]

/-- Nor do blanks at its end. -/
theorem trimEnd_append_of_blank (cs : List Char) {v : List Char}
    (hv : ∀ c ∈ v, isBlank c = true) : trimEnd (cs ++ v) = trimEnd cs := by
  have hstart : trimStart (v.reverse ++ cs.reverse) = trimStart cs.reverse :=
    List.dropWhile_append_of_pos fun c hc => hv c (List.mem_reverse.mp hc)
  rw [trimEnd, List.reverse_append, hstart, trimEnd]

theorem trim_append_of_blank_right (cs : List Char) {v : List Char}
    (hv : ∀ c ∈ v, isBlank c = true) : trim (cs ++ v) = trim cs := by
  by_cases hstart : trimStart cs = []
  · have hboth : trimStart (cs ++ v) = [] := by
      rw [trimStart, List.dropWhile_eq_nil_iff] at hstart ⊢
      intro c hc
      rcases List.mem_append.mp hc with hc | hc
      · exact hstart c hc
      · exact hv c hc
    rw [trim, trim, hboth, hstart]
  · have hboth : trimStart (cs ++ v) = trimStart cs ++ v := by
      unfold trimStart at hstart ⊢
      rw [List.dropWhile_append, if_neg (by simpa using hstart)]
    rw [trim, hboth, trimEnd_append_of_blank _ hv, trim]

/-- Nothing is dropped at the end before a visible character. -/
theorem trimEnd_append_cons (xs ys : List Char) {y : Char} (hy : isBlank y = false) :
    trimEnd (xs ++ y :: ys) = xs ++ y :: trimEnd ys := by
  have hstart : trimStart (ys.reverse ++ y :: xs.reverse) =
      trimStart ys.reverse ++ y :: xs.reverse := by
    unfold trimStart
    rw [List.dropWhile_append]
    split
    · next hnil => simp [List.isEmpty_iff.mp hnil, hy]
    · rfl
  have hreverse : (xs ++ y :: ys).reverse = ys.reverse ++ y :: xs.reverse := by simp
  rw [trimEnd, hreverse, hstart, trimEnd]
  simp

theorem trimEnd_of_visible {cs : List Char} (h : ∀ c ∈ cs, isBlank c = false) :
    trimEnd cs = cs := by
  obtain rfl | ⟨front, c, rfl⟩ := List.eq_nil_or_concat cs
  · rfl
  · rw [List.concat_eq_append, trimEnd_append_cons front [] (h c (by simp))]
    rfl

/-- What is dropped at the end is blank. -/
theorem exists_trimEnd (cs : List Char) :
    ∃ v, (∀ c ∈ v, isBlank c = true) ∧ cs = trimEnd cs ++ v := by
  refine ⟨(cs.reverse.takeWhile isBlank).reverse, ?_, ?_⟩
  · intro c hc
    exact List.mem_takeWhile_imp (List.mem_reverse.mp hc)
  · rw [trimEnd, trimStart, ← List.reverse_append, List.takeWhile_append_dropWhile,
      List.reverse_reverse]

theorem exists_trimStart (cs : List Char) :
    ∃ u, (∀ c ∈ u, isBlank c = true) ∧ cs = u ++ trimStart cs :=
  ⟨cs.takeWhile isBlank, fun _ hc => List.mem_takeWhile_imp hc,
    List.takeWhile_append_dropWhile.symm⟩

/-- Trimming adds no character. -/
theorem mem_of_mem_trim {cs : List Char} {c : Char} (h : c ∈ trim cs) : c ∈ cs := by
  have hend : trim cs <+: trimStart cs := List.rdropWhile_prefix _ _
  exact (List.dropWhile_sublist isBlank).subset (hend.subset h)

/-- A visible character stays. -/
theorem mem_trim_of_mem {cs : List Char} {c : Char} (hc : c ∈ cs) (hvisible : isBlank c = false) :
    c ∈ trim cs := by
  obtain ⟨u, hu, hstart⟩ := exists_trimStart cs
  obtain ⟨v, hv, hend⟩ := exists_trimEnd (trimStart cs)
  rw [hstart, hend, List.mem_append, List.mem_append] at hc
  rcases hc with hc | hc | hc
  · rw [hu c hc] at hvisible
    cases hvisible
  · exact hc
  · rw [hv c hc] at hvisible
    cases hvisible

/-- A trimmed text ends with a visible character. -/
theorem isBlank_of_getLast?_trim {cs : List Char} {c : Char} (h : (trim cs).getLast? = some c) :
    isBlank c = false := by
  obtain ⟨text, htext⟩ := List.getLast?_eq_some_iff.mp h
  have hidem : trimEnd (trim cs) = trim cs := List.rdropWhile_idempotent _ _
  rw [htext] at hidem
  cases hc : isBlank c with
  | false => rfl
  | true =>
    -- a blank last character would be dropped, and the text get shorter
    rw [trimEnd_append_of_blank text (by simp [hc])] at hidem
    have hle : (trimEnd text).length ≤ text.length :=
      (List.rdropWhile_prefix isBlank text).length_le
    rw [hidem, List.length_append] at hle
    exact absurd hle (Nat.not_succ_le_self _)

/-! ### The visible text of lines -/

/-- The text of some lines: each without the blanks around it, and no blank line. -/
def texts (lines : List String) : List String := (lines.map trimmed).filter (· ≠ "")

@[simp] theorem texts_nil : texts [] = [] := rfl

theorem texts_cons (line : String) (lines : List String) :
    texts (line :: lines) = texts [line] ++ texts lines := by
  rw [texts, texts, texts, ← List.filter_append]
  rfl

@[simp] theorem texts_of_blank {line : String} (h : trimmed line = "") : texts [line] = [] := by
  simp [texts, h]

@[simp] theorem texts_of_visible {line : String} (h : trimmed line ≠ "") :
    texts [line] = [trimmed line] := by
  simp [texts, h]

/-- A line contributes as it does when it is trimmed already. -/
@[simp] theorem texts_trimmed (line : String) : texts [trimmed line] = texts [line] := by
  have h : trimmed (trimmed line) = trimmed line := by
    rw [trimmed, trim_toList_trimmed]
    rfl
  rw [texts, List.map_singleton, h]
  rfl

/-! ### Joining lines -/

theorem joinWith_cons {α : Type} (sep : α) (piece : List α) {pieces : List (List α)}
    (h : pieces ≠ []) : joinWith sep (piece :: pieces) = piece ++ sep :: joinWith sep pieces := by
  cases pieces with
  | nil => exact absurd rfl h
  | cons next pieces => rfl

theorem joinWith_concat {α : Type} (sep : α) {pieces : List (List α)} (h : pieces ≠ [])
    (piece : List α) :
    joinWith sep (pieces ++ [piece]) = joinWith sep pieces ++ sep :: piece := by
  induction pieces with
  | nil => exact absurd rfl h
  | cons first pieces ih =>
    by_cases hne : pieces = []
    · subst hne
      rfl
    · rw [List.cons_append, joinWith_cons sep first (by simp), ih hne, joinWith_cons sep first hne]
      simp

@[simp] theorem joinLines_singleton (line : String) : joinLines [line] = line := by
  simp [joinLines, joinWith]

/-- One more line comes after a line break, except where it is the first. -/
theorem joinLines_concat {lines : List String} (h : lines ≠ []) (line : String) :
    joinLines (lines ++ [line]) = joinLines lines ++ "\n" ++ line := by
  have hne : lines.map String.toList ≠ [] := by simpa using h
  apply String.toList_injective
  simp [joinLines, joinWith_concat '\n' hne]

/-- Lines that are not empty join to the empty text only where there are none. -/
theorem joinLines_eq_empty_iff {lines : List String} (h : ∀ line ∈ lines, line ≠ "") :
    joinLines lines = "" ↔ lines = [] := by
  constructor
  · intro hempty
    cases lines with
    | nil => rfl
    | cons line lines =>
      have hline : line.toList ≠ [] := by simpa using h line (by simp)
      have hjoin : joinWith '\n' (line.toList :: lines.map String.toList) = [] := by
        simpa [joinLines] using congrArg String.toList hempty
      by_cases hne : lines.map String.toList = []
      · rw [hne] at hjoin
        exact absurd hjoin hline
      · rw [joinWith_cons '\n' _ hne] at hjoin
        exact absurd (List.append_eq_nil_iff.mp hjoin).1 hline
  · intro hnil
    rw [hnil]
    rfl

end TlaDigest.Text
