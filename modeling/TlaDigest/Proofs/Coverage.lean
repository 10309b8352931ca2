import Mathlib.Data.Prod.Lex
import TlaDigest.Proofs.Report.Ranges

/-!
# Which characters a range covers

A span counts from one and includes its end; a range counts from zero and excludes it. Of the four
coordinates three lose one on the way and the end column keeps its value, so that the two changes to
it cancel out: `place_lt_limit_iff` is the one place where this is used, and with
`place_le_place_iff` it carries the order of spots over to positions.

The main statement is `toRange_covers`: a range holds the characters from the first spot of its span
to the last and no others. That an inverted end falls onto the start needs no case of its own, as
such a range is empty whether or not its end was moved (`Range.contains_between_iff`).
-/

namespace TlaDigest

/-! ### Spots in the order of reading -/

namespace Spot

def key (s : Spot) : ℕ ×ₗ ℕ := toLex (s.line.toNat, s.column.toNat)

theorem key_injective : Function.Injective key := by
  intro s t h
  obtain ⟨hline, hcolumn⟩ := Prod.mk.inj (toLex_inj.mp h)
  cases s
  cases t
  rw [Spot.mk.injEq]
  exact ⟨UInt32.toNat_inj.mp hline, UInt32.toNat_inj.mp hcolumn⟩

instance : LinearOrder Spot := LinearOrder.lift' key key_injective

theorem le_iff (s t : Spot) :
    s ≤ t ↔ s.line.toNat < t.line.toNat ∨
      (s.line.toNat = t.line.toNat ∧ s.column.toNat ≤ t.column.toNat) :=
  Prod.Lex.toLex_le_toLex

structure Counted (s : Spot) : Prop where
  line : 1 ≤ s.line
  column : 1 ≤ s.column

/-- Where the character at a spot stands in the document. -/
def place (s : Spot) : Position := ⟨s.line - 1, s.column - 1⟩

/-- Where a span that ends at a spot ends in the document. -/
def limit (s : Spot) : Position := ⟨s.line - 1, s.column⟩

end Spot

theorem toNat_sub_one {n : UInt32} (h : 1 ≤ n) : (n - 1).toNat + 1 = n.toNat := by
  have hone : 1 ≤ n.toNat := UInt32.le_iff_toNat_le.mp h
  rw [UInt32.toNat_sub_of_le _ _ h]
  exact Nat.sub_add_cancel hone

theorem predecessor_eq_sub {n : UInt32} (h : 1 ≤ n) : predecessor n = n - 1 := by
  have hsub := toNat_sub_one h
  apply UInt32.toNat_inj.mp
  rw [toNat_predecessor]
  omega

/-- Taking one off both coordinates keeps the order of spots. -/
theorem place_le_place_iff {s t : Spot} (hs : s.Counted) (ht : t.Counted) :
    s.place ≤ t.place ↔ s ≤ t := by
  have hsline := toNat_sub_one hs.line
  have hscolumn := toNat_sub_one hs.column
  have htline := toNat_sub_one ht.line
  have htcolumn := toNat_sub_one ht.column
  rw [Position.le_iff, Spot.le_iff]
  simp only [Spot.place]
  omega

/-- **The included end is the excluded one as it stands.** -/
theorem place_lt_limit_iff {s last : Spot} (hs : s.Counted) (hlast : 1 ≤ last.line) :
    s.place < last.limit ↔ s ≤ last := by
  have hsline := toNat_sub_one hs.line
  have hscolumn := toNat_sub_one hs.column
  have hline := toNat_sub_one hlast
  rw [Position.lt_iff, Spot.le_iff]
  simp only [Spot.place, Spot.limit]
  omega

/-! ### Ranges between two positions -/

namespace Range

theorem contains_iff (r : Range) (p : Position) :
    r.contains p = true ↔ r.start ≤ p ∧ p < r.stop := by
  simp [contains]

/-- Moving the end onto the start adds nothing: where it is moved, there was nothing before. -/
theorem contains_between_iff (start stop p : Position) :
    (between start stop).contains p = true ↔ start ≤ p ∧ p < stop := by
  rw [contains_iff]
  change start ≤ p ∧ p < max stop start ↔ _
  constructor
  · rintro ⟨hstart, hstop⟩
    rcases lt_max_iff.mp hstop with h | h
    · exact ⟨hstart, h⟩
    · exact absurd h (not_lt_of_ge hstart)
  · rintro ⟨hstart, hstop⟩
    exact ⟨hstart, lt_max_of_lt_left hstop⟩

theorem isEmpty_between_iff (start stop : Position) :
    (between start stop).isEmpty = true ↔ stop ≤ start := by
  rw [isEmpty, beq_iff_eq]
  change start = max stop start ↔ _
  rw [eq_comm, max_eq_right_iff]

theorem contains_of_isEmpty {r : Range} (h : r.isEmpty = true) (p : Position) :
    r.contains p = false := by
  rw [isEmpty, beq_iff_eq] at h
  rw [Bool.eq_false_iff, Ne, contains_iff, ← h]
  rintro ⟨hstart, hstop⟩
  exact absurd hstop (not_lt_of_ge hstart)

end Range

/-! ### The range of a span -/

namespace Span

theorem toRange_of_last {s : Span} {last : Spot} (h : s.last = some last) (hfirst : s.first.Counted)
    (hlast : 1 ≤ last.line) : s.toRange = .between s.first.place last.limit := by
  have hline := predecessor_eq_sub hfirst.line
  have hcolumn := predecessor_eq_sub hfirst.column
  have hend := predecessor_eq_sub hlast
  simp only [toRange, h, hline, hcolumn, hend, Spot.place, Spot.limit]

theorem isEmpty_toRange_iff {s : Span} {last : Spot} (h : s.last = some last)
    (hfirst : s.first.Counted) (hlast : 1 ≤ last.line) :
    s.toRange.isEmpty = true ↔ last < s.first := by
  rw [toRange_of_last h hfirst hlast, Range.isEmpty_between_iff, ← not_lt,
    place_lt_limit_iff hfirst hlast, not_le]

/-- **The range of a span covers the characters of the span.** With an end, a character is covered
    exactly if it stands between the first spot and the last, so an inverted span covers nothing;
    without one, nothing is covered and the range sits at the first spot. -/
theorem toRange_covers (s : Span) :
    (∀ last, s.last = some last → s.first.Counted → 1 ≤ last.line →
      (∀ t : Spot, t.Counted →
        (s.toRange.contains ⟨t.line - 1, t.column - 1⟩ = true ↔ s.first ≤ t ∧ t ≤ last)) ∧
      (s.toRange.isEmpty = true ↔ last < s.first) ∧
      (last < s.first → ∀ p, s.toRange.contains p = false)) ∧
    (s.last = none →
      (∀ p, s.toRange.contains p = false) ∧ s.toRange.isEmpty = true ∧
      s.toRange.start.line.toNat = s.first.line.toNat - 1 ∧
      s.toRange.start.column.toNat = s.first.column.toNat - 1) := by
  constructor
  · intro last h hfirst hlast
    have hempty := isEmpty_toRange_iff h hfirst hlast
    refine ⟨?_, hempty, ?_⟩
    · intro t ht
      change s.toRange.contains t.place = true ↔ _
      rw [toRange_of_last h hfirst hlast, Range.contains_between_iff,
        place_le_place_iff hfirst ht, place_lt_limit_iff ht hlast]
    · intro hinverted
      exact Range.contains_of_isEmpty (hempty.mpr hinverted)
  · intro h
    have hpoint : s.toRange = .point ⟨predecessor s.first.line, predecessor s.first.column⟩ := by
      rw [toRange, h]
    have hempty : s.toRange.isEmpty = true := by
      rw [hpoint, Range.isEmpty, beq_iff_eq]
      rfl
    refine ⟨Range.contains_of_isEmpty hempty, hempty, ?_, ?_⟩
    · rw [hpoint]
      exact toNat_predecessor _
    · rw [hpoint]
      exact toNat_predecessor _

/-- From the greatest column of a line up to an end before the first column of the next; an end just
    before the start; and no end. -/
theorem toRange_covers_greatest_column :
    Range.contains (toRange ⟨⟨2, 4294967295⟩, some ⟨3, 0⟩⟩) ⟨1, 4294967294⟩ = true ∧
      Range.contains (toRange ⟨⟨2, 4294967295⟩, some ⟨3, 0⟩⟩) ⟨2, 0⟩ ≠ true ∧
      Range.isEmpty (toRange ⟨⟨2, 5⟩, some ⟨2, 4⟩⟩) = true ∧
      Range.isEmpty (toRange ⟨⟨2, 5⟩, none⟩) = true := by
  have hfirst : Spot.Counted ⟨2, 4294967295⟩ := ⟨by decide, by decide⟩
  obtain ⟨hcovers, -, -⟩ :=
    (toRange_covers ⟨⟨2, 4294967295⟩, some ⟨3, 0⟩⟩).1 ⟨3, 0⟩ rfl hfirst (by decide)
  obtain ⟨-, hinverted, -⟩ :=
    (toRange_covers ⟨⟨2, 5⟩, some ⟨2, 4⟩⟩).1 ⟨2, 4⟩ rfl ⟨by decide, by decide⟩ (by decide)
  obtain ⟨-, hpoint, -, -⟩ := (toRange_covers ⟨⟨2, 5⟩, none⟩).2 rfl
  refine ⟨?_, ?_, ?_, hpoint⟩
  · refine (hcovers ⟨2, 4294967295⟩ hfirst).mpr ⟨le_refl _, ?_⟩
    rw [Spot.le_iff]
    decide
  · intro hbehind
    obtain ⟨-, hend⟩ := (hcovers ⟨3, 1⟩ ⟨by decide, by decide⟩).mp hbehind
    rw [Spot.le_iff] at hend
    exact absurd hend (by decide)
  · rw [hinverted, ← not_le, Spot.le_iff]
    decide

end Span

end TlaDigest
