import TlaDigest.Proofs.Text.Trimming
import TlaDigest.Text.Word

/-!
# What the small readers accept

Each of them takes a piece off the front of a text: a fixed word (`after?`), everything up to a
character of some kind (`cutAt`), or a run of digits (`digits?`). The statements say exactly when
they succeed, as an equation for the text with a condition on what comes next, so that the readers
of whole lines can be opened and closed again step by step.
-/

namespace TlaDigest.Text

/-- A run of characters of one kind: some of them, and no others. -/
structure Run (kind : Char → Bool) (cs : List Char) : Prop where
  ne_nil : cs ≠ []
  all : ∀ c ∈ cs, kind c = true

theorem Run.notMem {kind : Char → Bool} {cs : List Char} (h : Run kind cs) {c : Char}
    (hc : kind c = false) : c ∉ cs := by
  intro hmem
  rw [h.all c hmem] at hc
  cases hc

/-- A reader that goes on after another one succeeds where both do. -/
theorem bind_eq_ok_iff {ε α β : Type} {x : Except ε α} {f : α → Except ε β} {b : β} :
    (x >>= f) = .ok b ↔ ∃ a, x = .ok a ∧ f a = .ok b := by
  cases x with
  | error e => exact ⟨fun h => (nomatch h), fun ⟨_, h, _⟩ => (nomatch h)⟩
  | ok a => exact ⟨fun h => ⟨a, rfl, h⟩, fun ⟨_, ha, h⟩ => Except.ok.inj ha ▸ h⟩

theorem after?_eq_some_iff {word cs rest : List Char} :
    after? word cs = some rest ↔ cs = word ++ rest := by
  induction word generalizing cs with
  | nil => simp [after?]
  | cons w word ih =>
    cases cs with
    | nil => simp [after?]
    | cons c cs =>
      rw [after?]
      by_cases hc : w = c
      · subst hc
        rw [if_pos rfl, ih]
        simp
      · rw [if_neg hc]
        constructor
        · intro h
          cases h
        · intro h
          exact absurd (List.cons.inj h).1.symm hc

/-- The front of a list that is kept, and the rest. -/
theorem takeWhile_dropWhile_eq_iff {α : Type} {keep : α → Bool} {xs front rest : List α} :
    xs.takeWhile keep = front ∧ xs.dropWhile keep = rest ↔
      xs = front ++ rest ∧ (∀ x ∈ front, keep x = true) ∧ ∀ x ∈ rest.head?, keep x = false := by
  constructor
  · rintro ⟨rfl, rfl⟩
    refine ⟨List.takeWhile_append_dropWhile.symm, fun x hx => List.mem_takeWhile_imp hx, ?_⟩
    intro x hx
    have hnot := List.head?_dropWhile_not keep xs
    rw [Option.mem_def.mp hx] at hnot
    exact hnot
  · rintro ⟨rfl, hfront, hrest⟩
    rw [List.takeWhile_append_of_pos hfront, List.dropWhile_append_of_pos hfront]
    cases rest with
    | nil => simp
    | cons x rest => simp [hrest x rfl]

/-- A cut: nothing before it stops, and what follows starts with something that does. -/
theorem cutAt_eq_iff {α : Type} {stop : α → Bool} {xs front rest : List α} :
    cutAt stop xs = (front, rest) ↔
      xs = front ++ rest ∧ (∀ x ∈ front, stop x = false) ∧ ∀ x ∈ rest.head?, stop x = true := by
  rw [cutAt, Prod.mk.injEq, takeWhile_dropWhile_eq_iff]
  simp

theorem digits?_eq_some_iff {cs run rest : List Char} :
    digits? cs = some (run, rest) ↔
      cs = run ++ rest ∧ Run isDigit run ∧ ∀ c ∈ rest.head?, isDigit c = false := by
  have hspan : digits? cs = some (run, rest) ↔
      run ≠ [] ∧ cs.takeWhile isDigit = run ∧ cs.dropWhile isDigit = rest := by
    unfold digits?
    split
    · next hnil =>
      constructor
      · intro h
        cases h
      · rintro ⟨hne, hrun, -⟩
        exact absurd (hrun.symm.trans hnil) hne
    · next hne =>
      rw [Option.some.injEq, Prod.mk.injEq]
      constructor
      · rintro ⟨rfl, rfl⟩
        exact ⟨hne, rfl, rfl⟩
      · rintro ⟨-, hrun, hrest⟩
        exact ⟨hrun, hrest⟩
  rw [hspan, takeWhile_dropWhile_eq_iff]
  constructor
  · rintro ⟨hne, hcs, hall, hrest⟩
    exact ⟨hcs, ⟨hne, hall⟩, hrest⟩
  · rintro ⟨hcs, hrun, hrest⟩
    exact ⟨hrun.ne_nil, hcs, hrun.all, hrest⟩

/-! ### Kinds of characters -/

/-- The ASCII letters by their bounds. -/
theorem isAlpha_eq (c : Char) :
    c.isAlpha = (('a' ≤ c && c ≤ 'z') || ('A' ≤ c && c ≤ 'Z')) := by
  delta Char.isAlpha Char.isUpper Char.isLower
  rw [Bool.eq_iff_iff]
  simp only [Char.le_def, Bool.or_eq_true, Bool.and_eq_true, decide_eq_true_eq, ge_iff_le]
  exact or_comm

def blankRanges : CharRanges := [
  (0x09, 0x0D), (0x20, 0x20), (0x85, 0x85), (0xA0, 0xA0), (0x1680, 0x1680), (0x2000, 0x200A),
  (0x2028, 0x2028), (0x2029, 0x2029), (0x202F, 0x202F), (0x205F, 0x205F), (0x3000, 0x3000)]

theorem has_blankRanges_of_isBlank {c : Char} (h : isBlank c = true) :
    blankRanges.has c = true := by
  simp only [isBlank, Bool.or_eq_true, Bool.and_eq_true, decide_eq_true_eq, beq_iff_eq] at h
  simp only [CharRanges.has, blankRanges, List.any_cons, List.any_nil, Bool.or_false,
    Bool.or_eq_true, Bool.and_eq_true, decide_eq_true_eq]
  omega

def letterRanges : CharRanges := [(0x41, 0x5A), (0x61, 0x7A)]

theorem has_letterRanges_of_isAlpha {c : Char} (h : c.isAlpha = true) :
    letterRanges.has c = true := by
  simp only [isAlpha_eq, Char.le_def, UInt32.le_iff_toNat_le, Bool.or_eq_true, Bool.and_eq_true,
    decide_eq_true_eq] at h
  simp only [CharRanges.has, letterRanges, List.any_cons, List.any_nil, Bool.or_false,
    Bool.or_eq_true, Bool.and_eq_true, decide_eq_true_eq]
  exact h.symm

def nameRanges : CharRanges := [(0x30, 0x39), (0x41, 0x5A), (0x5F, 0x5F), (0x61, 0x7A)]

theorem isNameChar_of_isAlpha {c : Char} (h : c.isAlpha = true) : isNameChar c = true := by
  unfold isNameChar
  delta Char.isAlphanum
  rw [h]
  rfl

theorem has_nameRanges_of_isNameChar {c : Char} (h : isNameChar c = true) :
    nameRanges.has c = true := by
  unfold isNameChar at h
  delta Char.isAlphanum Char.isDigit at h
  simp only [isAlpha_eq, Char.le_def, UInt32.le_iff_toNat_le, Bool.or_eq_true, Bool.and_eq_true,
    decide_eq_true_eq, beq_iff_eq, ← Char.toNat_inj, ge_iff_le] at h
  change (((97 ≤ c.toNat ∧ c.toNat ≤ 122) ∨ (65 ≤ c.toNat ∧ c.toNat ≤ 90)) ∨
    (48 ≤ c.toNat ∧ c.toNat ≤ 57)) ∨ c.toNat = 95 at h
  simp only [CharRanges.has, nameRanges, List.any_cons, List.any_nil, Bool.or_false,
    Bool.or_eq_true, Bool.and_eq_true, decide_eq_true_eq]
  omega

/-- Every range of the first table lies before or behind every one of the second. -/
def CharRanges.apart (ranges others : CharRanges) : Bool :=
  ranges.all fun r => others.all fun s => r.2.blt s.1 || s.2.blt r.1

theorem has_eq_false_of_apart {ranges others : CharRanges} (h : ranges.apart others = true)
    {c : Char} (hc : ranges.has c = true) : others.has c = false := by
  obtain ⟨r, hr, hin⟩ := List.any_eq_true.mp hc
  simp only [Bool.and_eq_true, decide_eq_true_eq] at hin
  refine List.any_eq_false.mpr fun s hs => ?_
  have hapart := List.all_eq_true.mp (List.all_eq_true.mp h r hr) s hs
  simp only [Bool.or_eq_true, Nat.blt_eq] at hapart
  simp only [Bool.and_eq_true, decide_eq_true_eq]
  omega

/-- No blank is part of a word. -/
theorem isWord_eq_false_of_isBlank {c : Char} (h : isBlank c = true) : isWord c = false :=
  has_eq_false_of_apart (by decide +kernel) (has_blankRanges_of_isBlank h)

theorem isDigit_eq_false_of_isBlank {c : Char} (h : isBlank c = true) : isDigit c = false :=
  has_eq_false_of_apart (by decide +kernel) (has_blankRanges_of_isBlank h)

theorem isBlank_eq_false_of_isNameChar {c : Char} (h : isNameChar c = true) :
    isBlank c = false := by
  have hapart : nameRanges.apart blankRanges = true := by decide
  have hhas := has_eq_false_of_apart hapart (has_nameRanges_of_isNameChar h)
  cases hblank : isBlank c with
  | false => rfl
  | true =>
    rw [has_blankRanges_of_isBlank hblank] at hhas
    cases hhas

theorem isBlank_eq_false_of_isAlpha {c : Char} (h : c.isAlpha = true) : isBlank c = false :=
  isBlank_eq_false_of_isNameChar (isNameChar_of_isAlpha h)

theorem isAlpha_eq_false_of_isBlank {c : Char} (h : isBlank c = true) : c.isAlpha = false := by
  cases halpha : c.isAlpha with
  | false => rfl
  | true =>
    rw [isBlank_eq_false_of_isAlpha halpha] at h
    cases h

theorem isDigit_eq_false_of_isAlpha {c : Char} (h : c.isAlpha = true) : isDigit c = false :=
  has_eq_false_of_apart (by decide +kernel) (has_letterRanges_of_isAlpha h)

end TlaDigest.Text
