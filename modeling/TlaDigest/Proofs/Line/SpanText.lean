import TlaDigest.Proofs.Line.Indentation

/-!
# Numerals and spans as text

A numeral is a run of ASCII digits with the number it denotes (`Numeral`); it is read as a word
exactly when the number is one (`word32?_eq_some_iff`). A span is written with two or four runs of
digits, of any script, and `Span.text?_eq_some_iff` says which text the reader takes for one;
`Span.Text.value?_eq_some_iff` says which span its runs denote.
-/

namespace TlaDigest

open Text

namespace Text

/-! ### Numerals -/

/-- The ASCII digits `cs` denote `n` in decimal. Leading zeros are free. -/
structure Numeral (cs : List Char) (n : Nat) : Prop where
  run : Run Char.isDigit cs
  value : Nat.ofDigitChars 10 cs 0 = n

theorem digitValue?_eq_some_iff {c : Char} {d : Nat} :
    digitValue? c = some d ↔ c.isDigit = true ∧ c.toNat - '0'.toNat = d := by
  have hdigit : c.isDigit = true ↔ '0' ≤ c ∧ c ≤ '9' := by
    simp [Char.isDigit, Char.le_def]
  unfold digitValue?
  rw [hdigit]
  by_cases h : '0' ≤ c ∧ c ≤ '9'
  · rw [if_pos h, Option.some.injEq]
    exact ⟨fun hd => ⟨h, hd⟩, fun hd => hd.2⟩
  · rw [if_neg h]
    constructor
    · intro hd
      cases hd
    · intro hd
      exact absurd hd.1 h

theorem natFrom?_eq_some_iff {cs : List Char} {n m : Nat} :
    natFrom? n cs = some m ↔
      (∀ c ∈ cs, c.isDigit = true) ∧ Nat.ofDigitChars 10 cs n = m := by
  induction cs generalizing n with
  | nil => simp [natFrom?, Nat.ofDigitChars]
  | cons c cs ih =>
    rw [natFrom?, Option.bind_eq_some_iff, Nat.ofDigitChars_cons]
    simp only [digitValue?_eq_some_iff, ih, List.mem_cons, forall_eq_or_imp]
    constructor
    · rintro ⟨d, ⟨hc, rfl⟩, hcs, hm⟩
      rw [Nat.mul_comm] at hm
      exact ⟨⟨hc, hcs⟩, hm⟩
    · rintro ⟨⟨hc, hcs⟩, hm⟩
      rw [Nat.mul_comm] at hm
      exact ⟨_, ⟨hc, rfl⟩, hcs, hm⟩

theorem nat?_eq_some_iff {cs : List Char} {n : Nat} : nat? cs = some n ↔ Numeral cs n := by
  cases cs with
  | nil =>
    constructor
    · intro h
      cases h
    · intro h
      exact absurd rfl h.run.ne_nil
  | cons c cs =>
    change natFrom? 0 (c :: cs) = some n ↔ _
    rw [natFrom?_eq_some_iff]
    exact ⟨fun h => ⟨⟨by simp, h.1⟩, h.2⟩, fun h => ⟨h.run.all, h.value⟩⟩

/-- **A numeral is read as the word it denotes**, and as nothing where it denotes none. -/
theorem word32?_eq_some_iff {cs : List Char} {w : UInt32} :
    word32? cs = some w ↔ Numeral cs w.toNat := by
  rw [word32?, Option.bind_eq_some_iff]
  simp only [nat?_eq_some_iff]
  constructor
  · rintro ⟨n, hn, hw⟩
    split at hw
    · next hlt =>
      obtain rfl : UInt32.ofNat n = w := by simpa using hw
      rwa [UInt32.toNat_ofNat_of_lt' hlt]
    · cases hw
  · intro h
    exact ⟨w.toNat, h, by rw [if_pos w.toNat_lt, UInt32.ofNat_toNat]⟩

theorem numeral_decimal (n : Nat) : Numeral (decimal n) n where
  run := ⟨Nat.toDigits_ne_nil, fun _ hc => Nat.isDigit_of_mem_toDigits (by decide) (by decide) hc⟩
  value := Nat.ofDigitChars_ten_toDigits

/-- A word that is written in decimal is read back unchanged. -/
@[simp] theorem word32?_decimal (n : UInt32) : word32? (decimal n.toNat) = some n :=
  word32?_eq_some_iff.mpr (numeral_decimal n.toNat)

theorem Numeral.digits {cs : List Char} {n : Nat} (h : Numeral cs n) : Run isDigit cs := by
  refine ⟨h.run.ne_nil, ?_⟩
  intro c hc
  have hascii := h.run.all c hc
  simp only [Char.isDigit, Bool.and_eq_true, decide_eq_true_eq, ge_iff_le,
    UInt32.le_iff_toNat_le] at hascii
  change 48 ≤ c.toNat ∧ c.toNat ≤ 57 at hascii
  simp [isDigit, digitRanges, CharRanges.has, hascii]

end Text

/-! ### Spans -/

namespace Span

def SpotText.chars (t : SpotText) : List Char := t.line ++ ':' :: t.column

def Text.chars (t : Text) : List Char :=
  match t.last with
  | none => t.first.chars
  | some last => t.first.chars ++ '-' :: last.chars

structure Text.Runs (t : Text) : Prop where
  first : Header.SpotRuns t.first
  last : ∀ spot ∈ t.last, Header.SpotRuns spot

/-- The runs of a spot are ASCII and denote its line and its column. -/
structure SpotText.Denotes (t : SpotText) (spot : Spot) : Prop where
  line : Numeral t.line spot.line.toNat
  column : Numeral t.column spot.column.toNat

structure Text.Denotes (t : Text) (span : Span) : Prop where
  first : t.first.Denotes span.first
  last : Option.Rel SpotText.Denotes t.last span.last

theorem SpotText.value?_eq_some_iff {t : SpotText} {spot : Spot} :
    t.value? = some spot ↔ t.Denotes spot := by
  obtain ⟨line, column⟩ := spot
  simp only [SpotText.value?, Option.bind_eq_bind, Option.bind_eq_some_iff, Option.pure_def,
    Option.some.injEq, Spot.mk.injEq, word32?_eq_some_iff]
  constructor
  · rintro ⟨_, hline, _, hcolumn, rfl, rfl⟩
    exact ⟨hline, hcolumn⟩
  · rintro ⟨hline, hcolumn⟩
    exact ⟨line, hline, column, hcolumn, rfl, rfl⟩

theorem Text.value?_eq_some_iff {t : Text} {span : Span} :
    t.value? = some span ↔ t.Denotes span := by
  obtain ⟨first, last⟩ := t
  obtain ⟨start, stop⟩ := span
  cases last with
  | none =>
    simp only [Text.value?, Option.bind_eq_bind, Option.bind_eq_some_iff, Option.pure_def,
      Option.some.injEq, Span.mk.injEq, SpotText.value?_eq_some_iff]
    constructor
    · rintro ⟨_, hfirst, rfl, rfl⟩
      exact ⟨hfirst, .none⟩
    · rintro ⟨hfirst, hlast⟩
      cases hlast
      exact ⟨start, hfirst, rfl, rfl⟩
  | some last =>
    simp only [Text.value?, Option.bind_eq_bind, Option.bind_eq_some_iff, Option.pure_def,
      Option.some.injEq, Span.mk.injEq, SpotText.value?_eq_some_iff]
    constructor
    · rintro ⟨_, hfirst, _, hlast, rfl, rfl⟩
      exact ⟨hfirst, .some hlast⟩
    · rintro ⟨hfirst, hlast⟩
      cases hlast with
      | some hlast => exact ⟨start, hfirst, _, hlast, rfl, rfl⟩

theorem Text.Denotes.runs {t : Text} {span : Span} (h : t.Denotes span) : t.Runs := by
  obtain ⟨first, last⟩ := t
  refine ⟨⟨h.first.line.digits, h.first.column.digits⟩, ?_⟩
  intro spot hspot
  obtain rfl : last = some spot := hspot
  have hlast := h.last
  cases hstop : span.last with
  | none =>
    rw [hstop] at hlast
    cases hlast
  | some stop =>
    rw [hstop] at hlast
    cases hlast with
    | some hlast => exact ⟨hlast.line.digits, hlast.column.digits⟩

theorem spotText?_eq_some_iff {cs rest : List Char} {t : SpotText} :
    spotText? cs = some (t, rest) ↔
      cs = t.chars ++ rest ∧ Header.SpotRuns t ∧ ∀ c ∈ rest.head?, isDigit c = false := by
  obtain ⟨line, column⟩ := t
  have hchars : SpotText.chars ⟨line, column⟩ ++ rest = line ++ ':' :: (column ++ rest) := by
    simp [SpotText.chars]
  rw [hchars]
  simp only [spotText?, Option.bind_eq_bind, Option.bind_eq_some_iff, Prod.exists,
    digits?_eq_some_iff]
  constructor
  · rintro ⟨run, more, ⟨rfl, hline, -⟩, h⟩
    split at h
    · next back =>
      simp only [Option.bind_eq_some_iff, Prod.exists, digits?_eq_some_iff, Option.pure_def,
        Option.some.injEq, Prod.mk.injEq, SpotText.mk.injEq] at h
      obtain ⟨_, _, ⟨rfl, hcolumn, hrest⟩, ⟨rfl, rfl⟩, rfl⟩ := h
      exact ⟨rfl, ⟨hline, hcolumn⟩, hrest⟩
    · cases h
  · rintro ⟨rfl, ⟨hline, hcolumn⟩, hrest⟩
    refine ⟨line, ':' :: (column ++ rest), ⟨rfl, hline, by rintro c ⟨⟩; decide⟩, ?_⟩
    have hdigits : digits? (column ++ rest) = some (column, rest) :=
      digits?_eq_some_iff.mpr ⟨rfl, hcolumn, hrest⟩
    simp [hdigits]

/-- **The text of a span**: its runs are as long as can be, and a dash belongs to it. -/
theorem text?_eq_some_iff {cs rest : List Char} {t : Text} :
    text? cs = some (t, rest) ↔
      cs = t.chars ++ rest ∧ t.Runs ∧ (∀ c ∈ rest.head?, isDigit c = false) ∧
        (t.last = none → rest.head? ≠ some '-') := by
  obtain ⟨first, last⟩ := t
  simp only [text?, Option.bind_eq_bind, Option.bind_eq_some_iff, Prod.exists,
    spotText?_eq_some_iff]
  constructor
  · rintro ⟨spot, more, ⟨rfl, hfirst, hmore⟩, h⟩
    split at h
    · next back =>
      simp only [Option.bind_eq_some_iff, Prod.exists, spotText?_eq_some_iff, Option.pure_def,
        Option.some.injEq, Prod.mk.injEq, Text.mk.injEq] at h
      obtain ⟨spot', _, ⟨rfl, hlast, hrest⟩, ⟨rfl, rfl⟩, rfl⟩ := h
      refine ⟨by simp [Text.chars], ⟨hfirst, ?_⟩, hrest, by simp⟩
      rintro _ ⟨⟩
      exact hlast
    · next hdash =>
      simp only [Option.pure_def, Option.some.injEq, Prod.mk.injEq, Text.mk.injEq] at h
      obtain ⟨⟨rfl, rfl⟩, rfl⟩ := h
      refine ⟨rfl, ⟨hfirst, by simp⟩, hmore, ?_⟩
      intro _ hhead
      obtain ⟨back, rfl⟩ := List.head?_eq_some_iff.mp hhead
      exact hdash back rfl
  · rintro ⟨rfl, hruns, hrest, hdash⟩
    cases last with
    | none =>
      refine ⟨first, rest, ⟨rfl, hruns.first, hrest⟩, ?_⟩
      split
      · exact absurd rfl (hdash rfl)
      · rfl
    | some last =>
      have hchars : Text.chars ⟨first, some last⟩ ++ rest =
          first.chars ++ '-' :: (last.chars ++ rest) := by simp [Text.chars]
      refine ⟨first, '-' :: (last.chars ++ rest), ⟨hchars, hruns.first, by rintro c ⟨⟩; decide⟩, ?_⟩
      have hlast : spotText? (last.chars ++ rest) = some (last, rest) :=
        spotText?_eq_some_iff.mpr ⟨rfl, hruns.last last rfl, hrest⟩
      simp [hlast]

/-- A span that is written in decimal is a text that denotes it. -/
theorem exists_denotes (span : Span) : ∃ t : Text, t.Denotes span ∧ span.chars = t.chars := by
  obtain ⟨first, last⟩ := span
  have hspot : ∀ spot : Spot,
      SpotText.Denotes ⟨decimal spot.line.toNat, decimal spot.column.toNat⟩ spot := by
    intro spot
    exact ⟨numeral_decimal _, numeral_decimal _⟩
  cases last with
  | none => exact ⟨⟨_, none⟩, ⟨hspot first, .none⟩, rfl⟩
  | some last => exact ⟨⟨_, some _⟩, ⟨hspot first, .some (hspot last)⟩, rfl⟩

/-- A text that denotes a span is read as that span. -/
theorem parse?_of_denotes {t : Text} {span : Span} (h : t.Denotes span) :
    parse? (String.ofList t.chars) = some span := by
  have htext : text? t.chars = some (t, []) :=
    text?_eq_some_iff.mpr ⟨by simp, h.runs, by simp, by simp⟩
  rw [parse?, String.toList_ofList, ofText?, htext]
  exact Text.value?_eq_some_iff.mpr h

end Span

end TlaDigest
