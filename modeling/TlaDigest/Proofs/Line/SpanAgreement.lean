import TlaDigest.Proofs.Line.Headline
import TlaDigest.Proofs.Line.HeaderGrammar

/-!
# The two readers of spans agree

A span is read on its own, as the value of a field, and behind the path of a header; the second
reader does not know where the path ends and looks for the shortest one that leaves a header.
`span_readers_agree` says that for a plain path this makes no difference: a text that is a span by
itself is the span of the header, and a text of digits, colons and dashes that is none leaves no
header for that path. Such a text may still be taken apart and give a header for a longer path, so
the proof follows the colons of the line (`colon_cuts`): the path of any header either is the plain
one or holds a colon, and then it names another file (`Path.mem_text_of_same`).
-/

namespace TlaDigest

open Text

/-! ### Characters of paths that name the same file -/

theorem Text.exists_mem_splitOn_iff {α : Type} [DecidableEq α] {sep x : α} (h : x ≠ sep)
    (xs : List α) : (∃ piece ∈ splitOn sep xs, x ∈ piece) ↔ x ∈ xs := by
  induction xs with
  | nil => simp [splitOn]
  | cons y ys ih =>
    rw [splitOn, List.mem_cons, ← ih]
    split
    · next hy =>
      rw [hy]
      simp [h]
    · cases hsplit : splitOn sep ys with
      | nil => exact absurd hsplit (splitOn_ne_nil sep ys)
      | cons piece pieces => simp [or_assoc]

namespace Path

theorem componentOf_eq_name_iff {segment name : List Char} :
    componentOf segment = .name name ↔ segment = name ∧ name ≠ ['.', '.'] := by
  unfold componentOf
  split
  · next hup =>
    constructor
    · intro h
      cases h
    · rintro ⟨rfl, hne⟩
      exact absurd hup hne
  · next hup =>
    rw [Component.name.injEq]
    constructor
    · rintro rfl
      exact ⟨rfl, hup⟩
    · rintro ⟨rfl, -⟩
      rfl

/-- A segment that can be a name: it is not empty and no dots. -/
def IsName (segment : List Char) : Prop := segment ≠ [] ∧ segment ≠ ['.'] ∧ segment ≠ ['.', '.']

theorem name_mem_laterComponents_iff {segments : List (List Char)} {name : List Char} :
    Component.name name ∈ laterComponents segments ↔ name ∈ segments ∧ IsName name := by
  simp only [laterComponents, List.mem_map, List.mem_filter, componentOf_eq_name_iff, isIgnored]
  constructor
  · rintro ⟨segment, ⟨hmem, hkept⟩, rfl, hup⟩
    simp only [Bool.not_or, Bool.and_eq_true, Bool.not_eq_true', beq_eq_false_iff_ne] at hkept
    exact ⟨hmem, hkept.1, hkept.2, hup⟩
  · rintro ⟨hmem, hempty, hhere, hup⟩
    exact ⟨name, ⟨hmem, by simp [hempty, hhere]⟩, rfl, hup⟩

theorem name_mem_cons_iff {component : Component} {first name : List Char}
    {rest : List (List Char)} (h : component = .name name ↔ first = name ∧ IsName name) :
    Component.name name ∈ component :: laterComponents rest ↔
      name ∈ first :: rest ∧ IsName name := by
  rw [List.mem_cons, List.mem_cons, name_mem_laterComponents_iff, eq_comm, h, eq_comm (a := name),
    or_and_right]

/-- The names among the components are the segments that can be one. -/
theorem name_mem_components_iff {p : Path} {name : List Char} :
    Component.name name ∈ p.components ↔ name ∈ p.segments ∧ IsName name := by
  unfold components
  split
  · next hsegments => simp [hsegments]
  · next hsegments =>
    rw [hsegments, List.mem_singleton]
    constructor
    · intro h
      cases h
    · rintro ⟨rfl, hname⟩
      exact absurd rfl hname.1
  · next hsegments =>
    rw [hsegments]
    apply name_mem_cons_iff
    constructor
    · intro h
      cases h
    · rintro ⟨rfl, hname⟩
      exact absurd rfl hname.1
  · next hsegments =>
    rw [hsegments]
    apply name_mem_cons_iff
    constructor
    · intro h
      cases h
    · rintro ⟨rfl, hname⟩
      exact absurd rfl hname.2.1
  · next first rest hempty hroot hhere hsegments =>
    rw [hsegments]
    apply name_mem_cons_iff
    rw [componentOf_eq_name_iff]
    constructor
    · rintro ⟨rfl, hup⟩
      refine ⟨rfl, ?_, ?_, hup⟩
      · rintro rfl
        exact hroot rfl
      · rintro rfl
        exact hhere rfl
    · rintro ⟨hfirst, hname⟩
      exact ⟨hfirst, hname.2.2⟩

/-- A character that is neither slash nor dot stands in all spellings of a path or in none. -/
theorem mem_text_of_same {p q : Path} (h : p.same q = true) {c : Char} (hslash : c ≠ '/')
    (hdot : c ≠ '.') (hc : c ∈ p.text.toList) : c ∈ q.text.toList := by
  obtain ⟨name, hname, hmem⟩ := (exists_mem_splitOn_iff hslash _).mpr hc
  have hnames : Component.name name ∈ p.components := by
    refine name_mem_components_iff.mpr ⟨hname, ?_, ?_, ?_⟩
    · rintro rfl
      cases hmem
    · rintro rfl
      simp [hdot] at hmem
    · rintro rfl
      simp [hdot] at hmem
  rw [beq_iff_eq.mp h] at hnames
  exact (exists_mem_splitOn_iff hslash _).mp ⟨name, (name_mem_components_iff.mp hnames).1, hmem⟩

end Path

/-! ### Spans on their own -/

namespace Span

theorem ofText?_eq_some_iff {cs : List Char} {span : Span} :
    ofText? cs = some span ↔ ∃ t : Text, cs = t.chars ∧ t.Denotes span := by
  constructor
  · intro h
    unfold ofText? at h
    split at h
    · next t htext =>
      obtain ⟨hcs, -, -, -⟩ := text?_eq_some_iff.mp htext
      exact ⟨t, by simpa using hcs, Text.value?_eq_some_iff.mp h⟩
    · cases h
  · rintro ⟨t, rfl, hdenotes⟩
    have hparse := parse?_of_denotes hdenotes
    rwa [parse?, String.toList_ofList] at hparse

/-- How many zeros stand in front of the line and of the column. -/
structure Zeros where
  line : Nat
  column : Nat

def padded (zeros : Nat) (n : UInt32) : List Char :=
  List.replicate zeros '0' ++ decimal n.toNat

def paddedSpot (zeros : Zeros) (spot : Spot) : SpotText :=
  ⟨padded zeros.line spot.line, padded zeros.column spot.column⟩

def paddedText (first last : Zeros) (span : Span) : Text :=
  ⟨paddedSpot first span.first, span.last.map (paddedSpot last)⟩

theorem numeral_padded (zeros : Nat) (n : UInt32) : Numeral (padded zeros n) n.toNat := by
  have hdecimal := numeral_decimal n.toNat
  refine ⟨⟨?_, ?_⟩, ?_⟩
  · exact List.append_ne_nil_of_right_ne_nil _ hdecimal.run.ne_nil
  · intro c hc
    rcases List.mem_append.mp hc with hzero | hdigit
    · rw [List.eq_of_mem_replicate hzero]
      decide
    · exact hdecimal.run.all c hdigit
  · rw [padded, Nat.ofDigitChars_append, Nat.ofDigitChars_replicate_zero, Nat.mul_zero]
    exact hdecimal.value

theorem denotes_paddedText (first last : Zeros) (span : Span) :
    (paddedText first last span).Denotes span := by
  obtain ⟨start, stop⟩ := span
  have hspot : ∀ zeros spot, (paddedSpot zeros spot).Denotes spot := by
    intro zeros spot
    exact ⟨numeral_padded _ _, numeral_padded _ _⟩
  cases stop with
  | none => exact ⟨hspot first start, .none⟩
  | some stop => exact ⟨hspot first start, .some (hspot last stop)⟩

end Span

/-! ### Spans behind a path -/

namespace Header

def isCoordinate (c : Char) : Bool := isDigit c || c == ':' || c == '-'

theorem isCoordinate_eq_false {c : Char} (h : isBlank c = true ∨ c.isAlpha = true) :
    isCoordinate c = false := by
  have hdigit : isDigit c = false := by
    rcases h with hblank | hletter
    · exact isDigit_eq_false_of_isBlank hblank
    · exact isDigit_eq_false_of_isAlpha hletter
  have hcolon : c ≠ ':' := by
    rintro rfl
    exact absurd h (by decide)
  have hdash : c ≠ '-' := by
    rintro rfl
    exact absurd h (by decide)
  simp [isCoordinate, hdigit, hcolon, hdash]

/-- A tag starts with a blank or with a letter. -/
theorem TagText.exists_chars_eq_cons (t : TagText) :
    ∃ c rest, t.chars = c :: rest ∧ (isBlank c = true ∨ c.isAlpha = true) := by
  cases hblanks : t.blanks with
  | cons c blanks =>
    refine ⟨c, blanks ++ (t.tag ++ t.tail), by rw [chars, hblanks]; rfl, .inl ?_⟩
    exact t.blank c (by rw [hblanks]; simp)
  | nil =>
    cases htag : t.tag with
    | nil => exact absurd htag t.tag_ne_nil
    | cons c tag =>
      refine ⟨c, tag ++ t.tail, by rw [chars, hblanks, htag]; rfl, .inr ?_⟩
      exact isAlpha_of_mem (t := t) (by rw [htag]; simp)

/-- No part of a span stands in front of a tag. -/
theorem TagText.chars_ne {t : TagText} {front tail : List Char}
    (hfront : ∀ c ∈ front, isCoordinate c = true) : t.chars ≠ front ++ ':' :: tail := by
  intro h
  obtain ⟨c, rest, hchars, hc⟩ := t.exists_chars_eq_cons
  rw [hchars] at h
  have hcoordinate : isCoordinate c = true := by
    cases front with
    | nil =>
      rw [(List.cons.inj h).1]
      decide
    | cons d front =>
      rw [(List.cons.inj h).1]
      exact hfront d (by simp)
  rw [isCoordinate_eq_false hc] at hcoordinate
  cases hcoordinate

/-- Two ways to cut a text at a colon. -/
theorem colon_cuts {a b x y : List Char} (h : a ++ ':' :: x = b ++ ':' :: y) :
    (a = b ∧ x = y) ∨ (∃ m, a = b ++ ':' :: m ∧ y = m ++ ':' :: x) ∨
      ∃ m, b = a ++ ':' :: m ∧ x = m ++ ':' :: y := by
  rcases List.append_eq_append_iff.mp h with ⟨m, rfl, hx⟩ | ⟨m, rfl, hy⟩
  · cases m with
    | nil => exact .inl ⟨by simp, (List.cons.inj hx).2⟩
    | cons c m =>
      obtain ⟨rfl, rfl⟩ := List.cons.inj hx
      exact .inr (.inr ⟨m, rfl, rfl⟩)
  · cases m with
    | nil => exact .inl ⟨by simp, (List.cons.inj hy).2.symm⟩
    | cons c m =>
      obtain ⟨rfl, rfl⟩ := List.cons.inj hy
      exact .inr (.inl ⟨m, rfl, rfl⟩)

/-- The path of a header is the plain path in front of it, or it reaches over a colon. -/
theorem path_cases {p : Path} (hp : p.IsPlain) {path rest tail : List Char}
    (h : path ++ ':' :: rest = p.text.toList ++ ':' :: tail) :
    (path = p.text.toList ∧ rest = tail) ∨ ':' ∈ path := by
  rcases colon_cuts h with hsame | ⟨m, rfl, -⟩ | ⟨m, hpath, -⟩
  · exact .inl hsame
  · exact .inr (by simp)
  · refine absurd ?_ hp.colon_notMem
    rw [hpath]
    simp

def errorTag : TagText where
  blanks := [' ']
  blank := by
    intro c hc
    rw [List.mem_singleton.mp hc]
    decide
  tag := "error".toList
  severity := .error
  spelled := by decide
  message := none
  unbroken := by simp

theorem ofLine?_of_ofText? {p : Path} (hp : p.IsPlain) {t : List Char} {span : Span}
    (h : Span.ofText? t = some span) :
    ofLine? (p.text.toList ++ ':' :: (t ++ ':' :: errorTag.chars)) =
      some ⟨.path p, some span, some .error, none⟩ := by
  obtain ⟨text, rfl, hdenotes⟩ := Span.ofText?_eq_some_iff.mp h
  have hplaced := placed?_eq_some_iff.mpr ⟨errorTag, rfl, hdenotes.runs, rfl⟩
  rw [ofLine?, positioned?_of_placed? hp hplaced]
  simp only [Span.Text.value?_eq_some_iff.mpr hdenotes, Option.map_some, String.ofList_toList]
  rfl

/-- What is no span leaves only headers with a longer path. -/
theorem colon_mem_of_ofLine? {p : Path} (hp : p.IsPlain) {t : List Char}
    (ht : ∀ c ∈ t, isCoordinate c = true) (hnone : Span.ofText? t = none) {h : Header} {q : Path}
    (hh : ofLine? (p.text.toList ++ ':' :: (t ++ ':' :: errorTag.chars)) = some h)
    (hq : h.target = .path q) : ':' ∈ q.text.toList := by
  unfold ofLine? at hh
  split at hh
  · next path span tagged hpositioned =>
    obtain ⟨value, hvalue, rfl⟩ := Option.map_eq_some_iff.mp hh
    obtain rfl := Target.path.inj hq
    obtain ⟨d, hd, rfl, rfl, rfl⟩ := exists_shortest_of_positioned? hpositioned
    rw [String.toList_ofList]
    rcases path_cases hp hd.chars_eq with ⟨-, hrest⟩ | hcolon
    · exfalso
      rcases colon_cuts hrest with ⟨htext, -⟩ | ⟨m, -, htag⟩ | ⟨m, rfl, htag⟩
      · -- the span of the header is the whole text, which then is a span
        have hsome := Span.ofText?_eq_some_iff.mpr
          ⟨d.span, htext.symm, Span.Text.value?_eq_some_iff.mp hvalue⟩
        rw [hnone] at hsome
        cases hsome
      · have hcolon : ':' ∈ errorTag.chars := by simp [htag]
        exact absurd hcolon (by decide)
      · exact TagText.chars_ne (fun c hc => ht c (by simp [hc])) htag
    · exact hcolon
  · split at hh
    · next path tagged hunpositioned =>
      cases hh
      obtain rfl := Target.path.inj hq
      obtain ⟨d, hd, rfl, -⟩ := unpositioned?_eq_some_iff.mp hunpositioned
      rw [String.toList_ofList]
      rcases path_cases hp hd.chars_eq with ⟨-, htag⟩ | hcolon
      · exact absurd htag (TagText.chars_ne ht)
      · exact hcolon
    · split at hh
      · obtain ⟨value, -, rfl⟩ := Option.map_eq_some_iff.mp hh
        cases hq
      · cases hh

end Header

namespace Line

theorem classify_of_plain {p : Path} (hp : p.IsPlain) (t : String) :
    classify (p.text ++ ":" ++ t ++ ": error") =
      ((Header.ofLine? (p.text.toList ++ ':' :: (t.toList ++ ':' :: Header.errorTag.chars))).map
        .header).getD (loose (p.text ++ ":" ++ t ++ ": error")) := by
  have hline : (p.text ++ ":" ++ t ++ ": error").toList =
      p.text.toList ++ ':' :: (t.toList ++ ':' :: Header.errorTag.chars) := by
    have hend : ": error".toList = ':' :: Header.errorTag.chars := by decide
    simp only [String.toList_append, hend]
    simp
  rw [hp.classify_eq hline, hline]
  rw [trimEnd_append_cons _ _ (by decide)]
  simp

/-- **The two readers of spans agree.** Behind a plain path and in front of a tag, a text that is
    read as a span by itself is the span of the header. A text of digits, colons and dashes that is
    read as none, because of its form or because a number of it is no word, leaves no header for
    that path or for another spelling of it. A span that is written in decimal is read back, with an
    end or without and with any number of zeros in front of its numbers. -/
theorem span_readers_agree :
    (∀ (p : Path) (t : String), p.IsPlain →
      (∀ span, Span.parse? t = some span →
        classify (p.text ++ ":" ++ t ++ ": error") =
          .header ⟨.path p, some span, some .error, none⟩) ∧
      ((∀ c ∈ t.toList, Header.isCoordinate c = true) → Span.parse? t = none →
        ∀ h q, classify (p.text ++ ":" ++ t ++ ": error") = .header h → h.target = .path q →
          q.same p = false)) ∧
    ∀ (first last : Span.Zeros) (span : Span),
      Span.parse? (String.ofList (Span.paddedText first last span).chars) = some span := by
  refine ⟨?_, fun first last span => Span.parse?_of_denotes (Span.denotes_paddedText _ _ span)⟩
  intro p t hp
  have hclassify := classify_of_plain hp t
  constructor
  · intro span hspan
    rw [hclassify, Header.ofLine?_of_ofText? hp hspan]
    rfl
  · intro ht hnone h q hheader hq
    cases hofLine : Header.ofLine?
        (p.text.toList ++ ':' :: (t.toList ++ ':' :: Header.errorTag.chars)) with
    | none =>
      rw [hofLine] at hclassify
      rcases loose_cases (p.text ++ ":" ++ t ++ ": error") with hloose | hloose <;>
        simp [hclassify, hloose] at hheader
    | some found =>
      rw [hofLine] at hclassify
      obtain rfl : found = h := Line.header.inj (hclassify.symm.trans hheader)
      have hcolon := Header.colon_mem_of_ofLine? hp ht hnone hofLine hq
      cases hsame : q.same p with
      | false => rfl
      | true =>
        exact absurd (Path.mem_text_of_same hsame (by decide) (by decide) hcolon) hp.colon_notMem

/-- A span with zeros in front at the greatest word, and a text that is no span but gives a header
    for a longer path. -/
theorem span_readers_agree_on_rival_path :
    Span.parse? "007:4294967295-1:0" = some ⟨⟨7, 4294967295⟩, some ⟨1, 0⟩⟩ ∧
      classify "q:007:4294967295-1:0: error" =
        .header ⟨.path ⟨"q"⟩, some ⟨⟨7, 4294967295⟩, some ⟨1, 0⟩⟩, some .error, none⟩ ∧
      Span.parse? "9:1:2" = none ∧
      classify "q:9:1:2: error" =
        .header ⟨.path ⟨"q:9"⟩, some ⟨⟨1, 2⟩, none⟩, some .error, none⟩ ∧
      Path.same ⟨"q:9"⟩ ⟨"q"⟩ = false := by
  have hpath : Path.IsPlain ⟨"q"⟩ := by decide +kernel
  have hspan : Span.parse? "007:4294967295-1:0" = some ⟨⟨7, 4294967295⟩, some ⟨1, 0⟩⟩ := by
    decide +kernel
  have hnone : Span.parse? "9:1:2" = none := by decide +kernel
  have hrival : classify "q:9:1:2: error" =
      .header ⟨.path ⟨"q:9"⟩, some ⟨⟨1, 2⟩, none⟩, some .error, none⟩ := by decide +kernel
  have hcoordinates : ∀ c ∈ "9:1:2".toList, Header.isCoordinate c = true := by
    have hall : "9:1:2".toList.all Header.isCoordinate = true := by decide +kernel
    exact List.all_eq_true.mp hall
  obtain ⟨hread, -⟩ := span_readers_agree.1 ⟨"q"⟩ "007:4294967295-1:0" hpath
  obtain ⟨-, hleft⟩ := span_readers_agree.1 ⟨"q"⟩ "9:1:2" hpath
  exact ⟨hspan, hread _ hspan, hnone, hrival, hleft hcoordinates hnone _ _ hrival rfl⟩

end Line

end TlaDigest
