import TlaDigest.Completion
import TlaDigest.Proofs.Text.Readers

/-!
# What is offered while a word is being typed

The list depends on the text before the cursor through a few tests: whether it starts with a keyword
that claims the line, whether it ends in the name of an operator, and whether a proof step or a unit
can start at its end. Letters that are added at the end change none of them, except that they may
complete such a keyword (`offered_append`).

Most tests skip blanks or digits at the front, which letters are not, or the characters of a name at
the end, which letters are; so the skipping ends where it did before. The name of a proof step is
the one place where letters may or may not count. `startsProofStep_iff` gives the test as a form of
text with letters in two places, the name and the word behind it. A blank stands between the two, so
what is typed at the end lies in the word: the word may grow or shrink, and the name does neither.
-/

namespace TlaDigest.Completion

open Text

theorem isStepChar_eq_false_of_isBlank {c : Char} (h : isBlank c = true) : isStepChar c = false := by
  have hdigit := isDigit_eq_false_of_isBlank h
  have hother : ∀ mark ∈ ['<', '>', '.'], c ≠ mark := by
    rintro mark hmark rfl
    have hvisible : (['<', '>', '.'].all fun mark => !isBlank mark) = true := by decide
    simpa [h] using List.all_eq_true.mp hvisible c hmark
  simp [isStepChar, hdigit, isAlpha_eq_false_of_isBlank h, hother '<', hother '>', hother '.']

/-! ### Keywords and operators -/

section Word

variable {word : List Char} (h : ∀ c ∈ word, c.isAlpha = true)
include h

theorem trimStart_append (cs : List Char) : trimStart (cs ++ word) = trimStart cs ++ word := by
  have hword : trimStart word = word := by
    cases word with
    | nil => rfl
    | cons c word =>
      have hc := isBlank_eq_false_of_isAlpha (h c (by simp))
      simp [trimStart, hc]
  unfold trimStart at hword ⊢
  rw [List.dropWhile_append]
  split
  · next hnil => rw [hword, List.isEmpty_iff.mp hnil, List.nil_append]
  · rfl

theorem isPrefixOf_trimStart_append {keyword cs : List Char}
    (hnew : keyword <+: trimStart (cs ++ word) → keyword <+: trimStart cs) :
    keyword.isPrefixOf (trimStart (cs ++ word)) = keyword.isPrefixOf (trimStart cs) := by
  rw [Bool.eq_iff_iff, List.isPrefixOf_iff_prefix, List.isPrefixOf_iff_prefix]
  constructor
  · exact hnew
  · intro hprefix
    rw [trimStart_append h]
    exact hprefix.trans (List.prefix_append _ _)

/-- The name of the operator goes on, back to the same backslash. -/
theorem endsInOperator_append (cs : List Char) :
    endsInOperator (cs ++ word) = endsInOperator cs := by
  have hskip : ∀ c ∈ word.reverse, isNameChar c = true := by
    intro c hc
    exact isNameChar_of_isAlpha (h c (List.mem_reverse.mp hc))
  unfold endsInOperator
  rw [List.reverse_append, List.dropWhile_append_of_pos hskip]

theorem startsUnit_append (cs : List Char) : startsUnit (cs ++ word) = startsUnit cs := by
  have hword : word.all Char.isAlpha = true := List.all_eq_true.mpr h
  unfold startsUnit
  rw [trimStart_append h, List.all_append, hword, Bool.and_true]

end Word

/-! ### Proof steps -/

/-- What stands before the word that starts a proof step: the name of the step, which is its level
    and perhaps more, with a gap behind it. -/
structure StepFront where
  margin : List Char
  level : List Char
  name : List Char
  gap : List Char
  margin_blank : ∀ c ∈ margin, isBlank c = true
  level_run : Run isDigit level
  name_step : ∀ c ∈ name, isStepChar c = true
  gap_run : Run isBlank gap

namespace StepFront

def chars (front : StepFront) : List Char :=
  front.margin ++ '<' :: (front.level ++ '>' :: (front.name ++ front.gap))

theorem isBlank_of_getLast? (front : StepFront) {c : Char} (h : front.chars.getLast? = some c) :
    isBlank c = true := by
  obtain ⟨margin, level, name, gap, _, _, _, hgap⟩ := front
  have hchars : margin ++ '<' :: (level ++ '>' :: (name ++ gap)) =
      (margin ++ '<' :: (level ++ '>' :: name)) ++ gap := by simp
  rw [chars, hchars, List.getLast?_append_of_ne_nil _ hgap.ne_nil] at h
  exact hgap.all c (List.mem_of_getLast? h)

end StepFront

theorem exists_front_of_startsProofStep {cs : List Char} (h : startsProofStep cs = true) :
    ∃ (front : StepFront) (word : List Char),
      cs = front.chars ++ word ∧ ∀ c ∈ word, c.isAlpha = true := by
  unfold startsProofStep at h
  split at h
  · next afterMargin hmargin =>
    split at h
    · next level afterLevel hlevel =>
      split at h
      · cases h
      · next blank afterBlank hname =>
        rw [Bool.and_eq_true] at h
        obtain ⟨hblank, hword⟩ := h
        obtain ⟨margin, hmarginBlank, hcs⟩ := exists_trimStart cs
        obtain ⟨hrest, hlevelRun, -⟩ := digits?_eq_some_iff.mp hlevel
        obtain ⟨hafter, hnameStep, -⟩ := takeWhile_dropWhile_eq_iff.mp ⟨rfl, hname⟩
        generalize afterLevel.takeWhile isStepChar = name at hafter hnameStep
        obtain ⟨gap, hgapBlank, htail⟩ := exists_trimStart afterBlank
        have hgapRun : Run isBlank (blank :: gap) := by
          refine ⟨List.cons_ne_nil _ _, ?_⟩
          intro c hc
          rcases List.mem_cons.mp hc with rfl | hc
          · exact hblank
          · exact hgapBlank c hc
        refine ⟨⟨margin, level, name, blank :: gap, hmarginBlank, hlevelRun, hnameStep, hgapRun⟩,
          trimStart afterBlank, ?_, List.all_eq_true.mp hword⟩
        rw [hcs, hmargin, hrest, hafter]
        simpa [StepFront.chars] using htail
    · cases h
  · cases h

theorem startsProofStep_front_append (front : StepFront) {word : List Char}
    (hword : ∀ c ∈ word, c.isAlpha = true) : startsProofStep (front.chars ++ word) = true := by
  obtain ⟨margin, level, name, gap, hmargin, hlevel, hname, hgap⟩ := front
  obtain ⟨blank, gap, rfl⟩ := List.exists_cons_of_ne_nil hgap.ne_nil
  have hstart : ∀ rest, trimStart (margin ++ '<' :: rest) = '<' :: rest := by
    intro rest
    rw [trimStart, List.dropWhile_append_of_pos hmargin]
    rfl
  have hdigits : ∀ rest, digits? (level ++ '>' :: rest) = some (level, '>' :: rest) := by
    intro rest
    have hmark : isDigit '>' = false := by decide
    exact digits?_eq_some_iff.mpr ⟨rfl, hlevel, by simpa using hmark⟩
  have hblank : isBlank blank = true := hgap.all blank (by simp)
  have hskip : (name ++ blank :: (gap ++ word)).dropWhile isStepChar = blank :: (gap ++ word) := by
    apply (takeWhile_dropWhile_eq_iff.mpr ⟨rfl, hname, ?_⟩).2
    simpa using isStepChar_eq_false_of_isBlank hblank
  have hgapBlank : trimStart gap = [] := by
    rw [trimStart, List.dropWhile_eq_nil_iff]
    intro c hc
    exact hgap.all c (by simp [hc])
  have hchars : StepFront.chars ⟨margin, level, name, blank :: gap, hmargin, hlevel, hname, hgap⟩ ++
      word = margin ++ '<' :: (level ++ '>' :: (name ++ blank :: (gap ++ word))) := by
    simp [StepFront.chars]
  unfold startsProofStep
  rw [hchars, hstart]
  simp only [hdigits, hskip, hblank, Bool.true_and]
  rw [trimStart_append hword, hgapBlank]
  simpa using hword

/-- **The test for a proof step**: the name of a step, a gap, and letters up to the end. -/
theorem startsProofStep_iff {cs : List Char} :
    startsProofStep cs = true ↔
      ∃ (front : StepFront) (word : List Char),
        cs = front.chars ++ word ∧ ∀ c ∈ word, c.isAlpha = true := by
  constructor
  · exact exists_front_of_startsProofStep
  · rintro ⟨front, word, rfl, hword⟩
    exact startsProofStep_front_append front hword

/-- **What is typed lies in the word.** The gap before it ends in a blank, which no letter is. -/
theorem startsProofStep_append {word : List Char} (h : ∀ c ∈ word, c.isAlpha = true)
    (cs : List Char) : startsProofStep (cs ++ word) = startsProofStep cs := by
  rw [Bool.eq_iff_iff, startsProofStep_iff, startsProofStep_iff]
  constructor
  · rintro ⟨front, all, hall, hletters⟩
    rcases List.append_eq_append_iff.mp hall with ⟨mid, hfront, hword⟩ | ⟨mid, hcs, hword⟩
    · -- the word reaches back into the front only if nothing of it does
      obtain rfl | ⟨init, c, rfl⟩ := List.eq_nil_or_concat mid
      · refine ⟨front, [], ?_, by simp⟩
        rw [hfront]
        simp
      · have hblank : isBlank c = true := by
          apply front.isBlank_of_getLast?
          rw [hfront]
          simp
        have hletter := h c (by rw [hword]; simp)
        rw [isBlank_eq_false_of_isAlpha hletter] at hblank
        cases hblank
    · refine ⟨front, mid, hcs, ?_⟩
      intro c hc
      exact hletters c (by rw [hword]; simp [hc])
  · rintro ⟨front, typed, rfl, htyped⟩
    refine ⟨front, typed ++ word, List.append_assoc _ _ _, ?_⟩
    intro c hc
    rcases List.mem_append.mp hc with hc | hc
    · exact htyped c hc
    · exact h c hc

/-! ### What is offered -/

theorem generalItems_append {word : List Char} (h : ∀ c ∈ word, c.isAlpha = true)
    (cs : List Char) {p p' : Position} {o : Outline}
    (hplace : o.inAlgorithm p' = o.inAlgorithm p) :
    generalItems (cs ++ word) p' o = generalItems cs p o := by
  unfold generalItems startingItems
  rw [startsProofStep_append h, startsUnit_append h, hplace]

/-- **The list is stable while a word is being typed.** Letters at the end of the text change nothing
    of what is offered, wherever the cursor goes on the same side of the algorithm's bounds, unless
    they complete a keyword that claims the line. -/
theorem offered_append (o : Outline) {text word : String} {p p' : Position}
    (hword : ∀ c ∈ word.toList, c.isAlpha = true)
    (hplace : o.inAlgorithm p' = o.inAlgorithm p)
    (hnew : ∀ keyword ∈ ["EXTENDS", "CONSTANT", "RECURSIVE"],
      keyword.toList <+: trimStart (text ++ word).toList →
        keyword.toList <+: trimStart text.toList) :
    offered (text ++ word) p' o = offered text p o := by
  rw [String.toList_append] at hnew
  have hopens : ∀ keyword ∈ ["EXTENDS", "CONSTANT", "RECURSIVE"],
      keyword.toList.isPrefixOf (trimStart (text.toList ++ word.toList)) =
        keyword.toList.isPrefixOf (trimStart text.toList) := by
    intro keyword hkeyword
    exact isPrefixOf_trimStart_append hword (hnew keyword hkeyword)
  unfold offered
  simp only [String.toList_append, hopens "EXTENDS" (by simp), hopens "CONSTANT" (by simp),
    hopens "RECURSIVE" (by simp), endsInOperator_append hword,
    generalItems_append hword _ hplace]

/-- A step below the algorithm, with letters in its name and behind a blank that is no space. -/
theorem offered_append_to_step_name :
    let o : Outline := ⟨[⟨"queue", .variable, .origin⟩], some ⟨⟨3, 0⟩, ⟨9, 2⟩⟩⟩
    o.inAlgorithm ⟨12, 9⟩ = o.inAlgorithm ⟨12, 7⟩ ∧
      offered ("  <1>a.b\u3000Q" ++ "ED") ⟨12, 9⟩ o = offered "  <1>a.b\u3000Q" ⟨12, 7⟩ o := by
  intro o
  have hword : "ED".toList.all Char.isAlpha = true := by decide
  have hplace : o.inAlgorithm ⟨12, 9⟩ = o.inAlgorithm ⟨12, 7⟩ := by decide
  exact ⟨hplace, offered_append o (List.all_eq_true.mp hword) hplace (by decide)⟩

/-- A keyword that is completed claims the line. -/
example : offered ("EXTEND" ++ "S") ⟨0, 0⟩ ⟨[], none⟩ ≠ offered "EXTEND" ⟨0, 0⟩ ⟨[], none⟩ := by
  decide

end TlaDigest.Completion
