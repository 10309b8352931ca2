import Mathlib.Data.List.DropRight
import TlaDigest.Proofs.Stream.LossyText
import TlaDigest.Report

/-!
# Printed lines

A report is printed as its lines with a line break after each; splitting the text again gives the
lines, when none of them holds a line break or ends with a carriage return, which would be taken for
a part of the line break (`textLines_printed`). Taking off the last line of the text takes off the
last of the lines (`dropLastLine_printed`).
-/

namespace TlaDigest

open Text

/-! ### Lines of a printed text -/

/-- A line that is found again when it was printed: it holds no line break and does not end with a
    carriage return. -/
structure Printable (line : String) : Prop where
  unbroken : '\n' ∉ line.toList
  returnFree : line.toList.getLast? ≠ some '\r'

@[simp] theorem toList_printed (lines : List String) :
    (Report.printed lines).toList = (lines.map String.toList).flatMap (· ++ ['\n']) := by
  rw [Report.printed, String.toList_join, List.flatMap_map, List.flatMap_map]
  simp

theorem dropFinal_of_returnFree {cs : List Char} (h : cs.getLast? ≠ some '\r') :
    dropFinal '\r' cs = cs := if_neg h

@[simp] theorem map_ofList_map_toList (lines : List String) :
    (lines.map String.toList).map String.ofList = lines := by
  rw [List.map_map]
  refine (List.map_congr_left fun line _ => ?_).trans (List.map_id lines)
  exact String.ofList_toList

/-- **Lines that are printed are found again.** -/
theorem textLines_printed {lines : List String} (h : ∀ line ∈ lines, Printable line) :
    Stream.textLines (Report.printed lines) = lines := by
  have hunbroken : ∀ piece ∈ lines.map String.toList, '\n' ∉ piece := by
    intro piece hpiece
    obtain ⟨line, hline, rfl⟩ := List.mem_map.mp hpiece
    exact (h line hline).unbroken
  have hsplit : splitOn '\n' (Report.printed lines).toList = lines.map String.toList ++ [[]] := by
    rw [toList_printed, ← List.append_nil (List.flatMap _ _), splitOn_flatMap_append hunbroken]
    rfl
  have hlines : Stream.charLines (Report.printed lines).toList = lines.map String.toList := by
    rw [Stream.charLines, hsplit]
    simp only [List.getLast?_append, List.getLast?_singleton, Option.some_or, if_true,
      List.dropLast_concat, List.map_map]
    refine List.map_congr_left fun line hline => ?_
    exact dropFinal_of_returnFree (h line hline).returnFree
  rw [Stream.textLines_eq_charLines, hlines, map_ofList_map_toList]

/-- Lines that were split off a text hold no line break. -/
theorem unbroken_of_mem_textLines {text line : String} (h : line ∈ Stream.textLines text) :
    '\n' ∉ line.toList := by
  rw [Stream.textLines_eq_charLines] at h
  obtain ⟨cs, hcs, rfl⟩ := List.mem_map.mp h
  obtain ⟨piece, hpiece, rfl⟩ := List.mem_map.mp hcs
  have hsplit : piece ∈ splitOn '\n' text.toList := by
    split at hpiece
    · exact List.dropLast_subset _ hpiece
    · exact hpiece
  rw [String.toList_ofList]
  intro hmem
  refine notMem_of_mem_splitOn hsplit ?_
  unfold dropFinal at hmem
  split at hmem
  · exact List.dropLast_subset _ hmem
  · exact hmem

/-! ### The last line -/

def dropLastLine (text : String) : String :=
  String.ofList (text.toList.dropLast.rdropWhile (· ≠ '\n'))

/-- Printed lines end with a line break, so nothing is dropped from their end. -/
theorem rdropWhile_printed (lines : List String) :
    (Report.printed lines).toList.rdropWhile (· ≠ '\n') = (Report.printed lines).toList := by
  rcases List.eq_nil_or_concat lines with rfl | ⟨front, line, rfl⟩
  · rfl
  · rw [toList_printed, List.concat_eq_append, List.map_append, List.flatMap_append,
      List.map_singleton, List.flatMap_singleton, ← List.append_assoc]
    exact List.rdropWhile_concat_neg _ _ _ (by simp)

/-- The last of some printed lines is dropped. -/
theorem dropLastLine_printed (lines : List String) {line : String} (h : '\n' ∉ line.toList) :
    dropLastLine (Report.printed (lines ++ [line])) = Report.printed lines := by
  have hchars : (Report.printed (lines ++ [line])).toList =
      (Report.printed lines).toList ++ line.toList ++ ['\n'] := by
    simp
  have hline : ∀ c ∈ line.toList.reverse, decide (c ≠ '\n') = true := by
    intro c hc
    have hne : c ≠ '\n' := by
      rintro rfl
      exact h (List.mem_reverse.mp hc)
    simp [hne]
  apply String.toList_injective
  rw [dropLastLine, String.toList_ofList, hchars, List.dropLast_concat, List.rdropWhile,
    List.reverse_append, List.dropWhile_append_of_pos hline, ← List.rdropWhile, rdropWhile_printed]

end TlaDigest
