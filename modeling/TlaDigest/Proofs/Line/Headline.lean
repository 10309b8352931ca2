import TlaDigest.Proofs.Line.SpanText

/-!
# Headers as they are written

Headers as they are written: `path:line:column: tag: text`. For a path without blanks, colons and
equals signs the line is read back as that header and as nothing else (`classify_headline`): the
first colon ends the path, so the line is no record, as a key has no colon, and no banner, as no
banner has a colon before its first blank and something behind it.
-/

namespace TlaDigest

open Text

/-- A path that can stand in front of a header: it is not empty and holds no blank, no colon and no
    equals sign. -/
structure Path.IsPlain (p : Path) : Prop where
  ne_nil : p.text.toList ≠ []
  visible : ∀ c ∈ p.text.toList, isBlank c = false
  colon_notMem : ':' ∉ p.text.toList
  equals_notMem : '=' ∉ p.text.toList

instance (p : Path) : Decidable p.IsPlain :=
  decidable_of_iff
    (p.text.toList ≠ [] ∧ (p.text.toList.all fun c => !isBlank c) = true ∧ ':' ∉ p.text.toList ∧
      '=' ∉ p.text.toList)
    ⟨fun ⟨hne, hvisible, hcolon, hequals⟩ => ⟨hne, by simpa using hvisible, hcolon, hequals⟩,
      fun h => ⟨h.ne_nil, by simpa using h.visible, h.colon_notMem, h.equals_notMem⟩⟩

def endsWord (c : Char) : Bool := c == ':' || isBlank c

/-- A text that does not start with a field is no sequence of fields. -/
theorem Field.allFrom?_of_first? {cs : List Char} (hne : cs ≠ []) (h : first? cs = none) :
    allFrom? cs = none := by
  cases cs with
  | nil => exact absurd rfl hne
  | cons c cs =>
    rw [allFrom?]
    split
    · rfl
    · next hsome =>
      rw [h] at hsome
      cases hsome

namespace Path.IsPlain

variable {p : Path} (hp : p.IsPlain)
include hp

theorem endsWord_eq_false : ∀ c ∈ p.text.toList, endsWord c = false := by
  intro c hc
  have hcolon : c ≠ ':' := by
    rintro rfl
    exact hp.colon_notMem hc
  simp [endsWord, hcolon, hp.visible c hc]

/-- A colon behind the path ends the first word of the line. -/
theorem cutAt_endsWord (tail : List Char) :
    cutAt endsWord (p.text.toList ++ ':' :: tail) = (p.text.toList, ':' :: tail) :=
  cutAt_eq_iff.mpr ⟨rfl, hp.endsWord_eq_false, by simp [endsWord]⟩

/-- Nothing before the tail is trimmed. -/
theorem trim_append_colon (tail : List Char) :
    trim (p.text.toList ++ ':' :: tail) = p.text.toList ++ ':' :: trimEnd tail := by
  have hstart : trimStart (p.text.toList ++ ':' :: tail) = p.text.toList ++ ':' :: tail := by
    cases htext : p.text.toList with
    | nil => exact absurd htext hp.ne_nil
    | cons c cs =>
      have hc := hp.visible c (by rw [htext]; simp)
      rw [List.cons_append, trimStart, List.dropWhile_cons_of_neg (by simp [hc])]
  rw [trim, hstart, trimEnd_append_cons _ _ (by decide)]

/-- What stands before an equals sign holds a colon, so it is no key. -/
theorem first?_eq_none (tail : List Char) :
    Field.first? (p.text.toList ++ ':' :: tail) = none := by
  have hkeep : ∀ c ∈ p.text.toList ++ [':'], (!(c == '=')) = true := by
    intro c hc
    have hne : c ≠ '=' := by
      rintro rfl
      exact hp.equals_notMem (by simpa using hc)
    simp [hne]
  have hcut : cutAt (· == '=') (p.text.toList ++ [':'] ++ tail) =
      (p.text.toList ++ [':'] ++ (cutAt (· == '=') tail).1, (cutAt (· == '=') tail).2) := by
    rw [cutAt, List.takeWhile_append_of_pos hkeep, List.dropWhile_append_of_pos hkeep]
    rfl
  have hkey : ∀ front, (p.text.toList ++ [':'] ++ front).all isNameChar = false := by
    intro front
    simp [show isNameChar ':' = false by decide]
  rw [List.append_cons, Field.first?, hcut]
  split
  · rfl
  · next key _ _ heq =>
    have hno : key.all isNameChar = false := by
      rw [← (Prod.mk.inj heq).1, hkey]
    exact if_pos (.inr (by simp [hno]))

/-- A line that starts with a path and a colon is no record. -/
theorem status_eq_none (tail : List Char) :
    Status.ofLine? (p.text.toList ++ ':' :: tail) = none := by
  have hfields : Field.all? (p.text.toList ++ ':' :: tail) = none := by
    rw [Field.all?, hp.trim_append_colon]
    split
    · rfl
    · exact Field.allFrom?_of_first? (by simp) (hp.first?_eq_none _)
  rw [Status.ofLine?, hfields]
  rfl

/-- A banner that starts with a word and a blank is none that starts with a path and a colon. -/
theorem after?_eq_none {word more : List Char} (hword : (word.all fun c => !endsWord c) = true)
    (tail : List Char) : after? (word ++ ' ' :: more) (p.text.toList ++ ':' :: tail) = none := by
  refine Option.eq_none_iff_forall_ne_some.mpr fun rest h => ?_
  have hcut : cutAt endsWord (p.text.toList ++ ':' :: tail) = (word, ' ' :: (more ++ rest)) :=
    cutAt_eq_iff.mpr ⟨by rw [after?_eq_some_iff.mp h]; simp, by simpa using hword,
      by simp [endsWord]; decide⟩
  rw [hp.cutAt_endsWord, Prod.mk.injEq, List.cons.injEq] at hcut
  exact absurd hcut.2.1 (by decide)

/-- A line that starts with a path, a colon and more is no banner. -/
theorem section_eq_none {tail : List Char} (htail : trimEnd tail ≠ []) :
    Section.ofLine? (p.text.toList ++ ':' :: tail) = none := by
  rw [Section.ofLine?, hp.trim_append_colon]
  generalize trimEnd tail = tail at htail
  have hfixed : Section.fixed? (p.text.toList ++ ':' :: tail) = none := by
    -- no fixed text has more behind a colon that ends its first word
    have hends : ∀ entry ∈ Section.fixed,
        (cutAt endsWord entry.1.toList).2.head? = some ':' →
          (cutAt endsWord entry.1.toList).2.tail = [] := by decide +kernel
    rw [Section.fixed?, Option.map_eq_none_iff, List.find?_eq_none]
    intro entry hentry hsame
    have hcut := hends entry hentry
    rw [beq_iff_eq.mp hsame, hp.cutAt_endsWord] at hcut
    exact htail (hcut rfl)
  have hparsing : after? "Parsing file ".toList (p.text.toList ++ ':' :: tail) = none := by
    change after? ("Parsing".toList ++ ' ' :: "file ".toList) _ = none
    exact hp.after?_eq_none (by decide) tail
  have herrors : after? "*** Errors: ".toList (p.text.toList ++ ':' :: tail) = none := by
    change after? ("***".toList ++ ' ' :: "Errors: ".toList) _ = none
    exact hp.after?_eq_none (by decide) tail
  have hwarnings : after? "*** Warnings: ".toList (p.text.toList ++ ':' :: tail) = none := by
    change after? ("***".toList ++ ' ' :: "Warnings: ".toList) _ = none
    exact hp.after?_eq_none (by decide) tail
  have hmodule :
      after? "Semantic processing of module ".toList (p.text.toList ++ ':' :: tail) = none := by
    change after? ("Semantic".toList ++ ' ' :: "processing of module ".toList) _ = none
    exact hp.after?_eq_none (by decide) tail
  rw [Section.ofText?, hfixed, Section.parsingFile?, hparsing, Section.counted?, herrors,
    Section.counted?, hwarnings, Section.counted?, hmodule]
  rfl

/-- A line that starts with a path, a colon and more is a header or loose text. -/
theorem classify_eq {line : String} {tail : List Char}
    (hline : line.toList = p.text.toList ++ ':' :: tail) (htail : trimEnd tail ≠ []) :
    Line.classify line = ((Header.ofLine? line.toList).map .header).getD (Line.loose line) := by
  have hstatus : Status.ofLine? line.toList = none := by
    rw [hline]
    exact hp.status_eq_none tail
  have hsection : Section.ofLine? line.toList = none := by
    rw [hline]
    exact hp.section_eq_none htail
  rw [Line.classify, hstatus, hsection]
  cases Header.ofLine? line.toList <;> rfl

end Path.IsPlain

/-! ### Written headers -/

theorem run_decimal (n : Nat) : Run isDigit (decimal n) := (numeral_decimal n).digits

/-- A text that nothing is trimmed from has nothing to trim at the front. -/
theorem trimStart_of_trimmed {cs : List Char} (h : trim cs = cs) : trimStart cs = cs := by
  have hprefix : trim cs <+: trimStart cs := List.rdropWhile_prefix _ _
  rw [h] at hprefix
  exact trimStart_of_prefix hprefix

namespace Header

def headline (path : Path) (spot : Spot) (severity : Severity) (text : List Char) : List Char :=
  path.text.toList ++ ':' :: (Span.spotChars spot ++
    ':' :: ' ' :: (severity.tag.toList ++ ':' :: ' ' :: text))

@[simp] theorem ofTag?_tag (severity : Severity) :
    Severity.ofTag? severity.tag.toList = some severity := by
  cases severity <;> decide

/-- A tag and a text on one line. -/
theorem tagged?_tag (severity : Severity) {text : List Char} (htrim : trim text = text)
    (hbreak : '\n' ∉ text) :
    tagged? (' ' :: (severity.tag.toList ++ ':' :: ' ' :: text)) =
      some ⟨severity, messageOf text⟩ := by
  have hstart : trimStart (' ' :: (severity.tag.toList ++ ':' :: ' ' :: text)) =
      severity.tag.toList ++ ':' :: ' ' :: text := by
    cases severity <;> rfl
  have hcut : cutAt (· == ':') (severity.tag.toList ++ ':' :: ' ' :: text) =
      (severity.tag.toList, ':' :: ' ' :: text) := by
    have hcolon : (severity.tag.toList.all fun c => !(c == ':')) = true := by
      cases severity <;> decide
    exact cutAt_eq_iff.mpr ⟨rfl, by simpa using hcolon, by simp⟩
  have htext : trimStart (' ' :: text) = text := trimStart_of_trimmed htrim
  rw [tagged?, hstart, hcut]
  simp only [ofTag?_tag, htext]
  rw [if_neg (by simpa using hbreak)]

theorem spotText?_spotChars (spot : Spot) {rest : List Char}
    (hrest : ∀ c ∈ rest.head?, isDigit c = false) :
    Span.spotText? (Span.spotChars spot ++ rest) =
      some (⟨decimal spot.line.toNat, decimal spot.column.toNat⟩, rest) := by
  have hline : digits? (Span.spotChars spot ++ rest) =
      some (decimal spot.line.toNat, ':' :: (decimal spot.column.toNat ++ rest)) :=
    digits?_eq_some_iff.mpr ⟨by simp [Span.spotChars], run_decimal _, by rintro c ⟨⟩; decide⟩
  have hcolumn : digits? (decimal spot.column.toNat ++ rest) =
      some (decimal spot.column.toNat, rest) :=
    digits?_eq_some_iff.mpr ⟨rfl, run_decimal _, hrest⟩
  simp [Span.spotText?, hline, hcolumn]

theorem value?_decimal (spot : Spot) :
    Span.SpotText.value? ⟨decimal spot.line.toNat, decimal spot.column.toNat⟩ = some spot := by
  simp [Span.SpotText.value?]

/-- A position without an end, a tag and a text. -/
theorem placed?_spotChars (spot : Spot) (severity : Severity) {text : List Char}
    (htrim : trim text = text) (hbreak : '\n' ∉ text) :
    placed? (Span.spotChars spot ++ ':' :: ' ' :: (severity.tag.toList ++ ':' :: ' ' :: text)) =
      some (⟨⟨decimal spot.line.toNat, decimal spot.column.toNat⟩, none⟩,
        ⟨severity, messageOf text⟩) := by
  have hcolon : ∀ tail : List Char, ∀ c ∈ (':' :: tail).head?, isDigit c = false := by
    rintro tail c ⟨⟩
    decide
  simp [placed?, Span.text?, spotText?_spotChars spot (hcolon _), tagged?_tag severity htrim hbreak]

/-- The search for the end of the path passes over characters that are neither colon nor line
    break. -/
theorem positionedFrom?_append {front : List Char} (hcolon : ':' ∉ front) (hbreak : '\n' ∉ front)
    (path rest : List Char) :
    positionedFrom? path (front ++ rest) = positionedFrom? (front.reverse ++ path) rest := by
  induction front generalizing path with
  | nil => rfl
  | cons c front ih =>
    simp only [List.mem_cons, not_or] at hcolon hbreak
    rw [List.cons_append, positionedFrom?_cons_of_ne _ _ (Ne.symm hcolon.1),
      if_neg (Ne.symm hbreak.1), ih hcolon.2 hbreak.2]
    simp

/-- A plain path ends at the first colon of the line. -/
theorem positioned?_of_placed? {path : Path} (hpath : path.IsPlain) {cs : List Char}
    {found : Span.Text × Tagged} (h : placed? cs = some found) :
    positioned? (path.text.toList ++ ':' :: cs) = some (path.text.toList, found) := by
  have hbreak : '\n' ∉ path.text.toList := fun hmem =>
    absurd (hpath.visible _ hmem) (by decide)
  have hcolon := hpath.colon_notMem
  cases htext : path.text.toList with
  | nil => exact absurd htext hpath.ne_nil
  | cons c front =>
    rw [htext, List.mem_cons, not_or] at hcolon hbreak
    have hc : isBlank c = false := hpath.visible c (by rw [htext]; simp)
    rw [List.cons_append, positioned?, if_neg (by simp [hc]),
      positionedFrom?_append hcolon.2 hbreak.2, positionedFrom?, if_pos rfl, h]
    simp

/-- **A header that is written is read back.** -/
theorem ofLine?_headline {path : Path} (hpath : path.IsPlain) (spot : Spot) (severity : Severity)
    {text : List Char} (htrim : trim text = text) (hbreak : '\n' ∉ text) :
    ofLine? (headline path spot severity text) =
      some ⟨.path path, some ⟨spot, none⟩, some severity, messageOf text⟩ := by
  have hpositioned : positioned? (headline path spot severity text) =
      some (path.text.toList, ⟨⟨decimal spot.line.toNat, decimal spot.column.toNat⟩, none⟩,
        ⟨severity, messageOf text⟩) :=
    positioned?_of_placed? hpath (placed?_spotChars spot severity htrim hbreak)
  rw [ofLine?, hpositioned]
  simp [Span.Text.value?, value?_decimal]

end Header

/-- **The written line is that header** and neither record nor banner. -/
theorem Line.classify_headline {path : Path} (hpath : path.IsPlain) (spot : Spot)
    (severity : Severity) {text : List Char} (htrim : trim text = text) (hbreak : '\n' ∉ text) :
    classify (String.ofList (Header.headline path spot severity text)) =
      .header ⟨.path path, some ⟨spot, none⟩, some severity, Header.messageOf text⟩ := by
  have hline : (String.ofList (Header.headline path spot severity text)).toList =
      Header.headline path spot severity text := String.toList_ofList
  have hclassify := hpath.classify_eq hline
  rw [hline, Header.ofLine?_headline hpath spot severity htrim hbreak] at hclassify
  apply hclassify
  rw [trimEnd_append_cons _ _ (by decide)]
  simp

end TlaDigest
