import TlaDigest.Proofs.Messages
import TlaDigest.Proofs.Text.Readers

/-!
# Lines that are indented

Records and banners are read from a line without the blanks around it, and so are module headers
(`module?_eq_some_iff` gives the text they have then); headers with a path start with no blank.
Indenting a line that is none of these leaves it text: `endsMessage_of_indented` says that an
indented line ends a message only if the line without its indentation does.
-/

namespace TlaDigest

open Text

/-- A record is read from the trimmed line. -/
theorem Status.ofLine?_congr {cs ds : List Char} (h : trim cs = trim ds) :
    Status.ofLine? cs = Status.ofLine? ds := by
  rw [Status.ofLine?, Status.ofLine?, Field.all?, Field.all?, h]

/-- A banner is read from the trimmed line. -/
theorem Section.ofLine?_congr {cs ds : List Char} (h : trim cs = trim ds) :
    Section.ofLine? cs = Section.ofLine? ds := by
  rw [Section.ofLine?, Section.ofLine?, h]

namespace Header

/-! ### Module headers -/

def lineColChars (spot : Span.SpotText) : List Char :=
  "line ".toList ++ spot.line ++ ", col ".toList ++ spot.column

def moduleChars (first last : Span.SpotText) (name : List Char) : List Char :=
  lineColChars first ++ " to ".toList ++ lineColChars last ++ " of module ".toList ++ name

structure SpotRuns (spot : Span.SpotText) : Prop where
  line : Run isDigit spot.line
  column : Run isDigit spot.column

theorem lineColChars_append (spot : Span.SpotText) (rest : List Char) :
    lineColChars spot ++ rest =
      "line ".toList ++ (spot.line ++ (", col ".toList ++ (spot.column ++ rest))) := by
  change ("line ".toList ++ spot.line ++ ", col ".toList ++ spot.column) ++ rest = _
  simp only [List.append_assoc]

theorem moduleChars_append (first last : Span.SpotText) (name rest : List Char) :
    moduleChars first last name ++ rest =
      lineColChars first ++ (" to ".toList ++ (lineColChars last ++
        (" of module ".toList ++ (name ++ rest)))) := by
  change (lineColChars first ++ " to ".toList ++ lineColChars last ++ " of module ".toList ++
    name) ++ rest = _
  simp only [List.append_assoc]

theorem lineCol?_eq_some_iff {cs rest : List Char} {spot : Span.SpotText} :
    lineCol? cs = some (spot, rest) ↔
      cs = lineColChars spot ++ rest ∧ SpotRuns spot ∧ ∀ c ∈ rest.head?, isDigit c = false := by
  obtain ⟨line, column⟩ := spot
  unfold lineCol?
  simp only [Option.bind_eq_bind, Option.bind_eq_some_iff, Option.pure_def, Option.some.injEq,
    Prod.exists, after?_eq_some_iff, digits?_eq_some_iff, Prod.mk.injEq, Span.SpotText.mk.injEq,
    lineColChars_append]
  constructor
  · rintro ⟨_, rfl, l, _, ⟨rfl, hl, -⟩, _, rfl, c, _, ⟨rfl, hc, hrest⟩, ⟨rfl, rfl⟩, rfl⟩
    exact ⟨rfl, ⟨hl, hc⟩, hrest⟩
  · rintro ⟨rfl, ⟨hl, hc⟩, hrest⟩
    have hcomma : ∀ c ∈ (", col ".toList ++ (column ++ rest)).head?, isDigit c = false := by
      rintro c ⟨⟩
      decide
    exact ⟨_, rfl, line, _, ⟨rfl, hl, hcomma⟩, _, rfl, column, rest, ⟨rfl, hc, hrest⟩, ⟨rfl, rfl⟩,
      rfl⟩

/-- The name of a module leaves nothing to trim behind it. -/
theorem trimEnd_append_of_word (cs : List Char) {name : List Char} (h : Run isWord name) :
    trimEnd (cs ++ name) = cs ++ name := by
  obtain hnil | ⟨front, c, rfl⟩ := List.eq_nil_or_concat name
  · exact absurd hnil h.ne_nil
  have hc : isBlank c = false := by
    cases hblank : isBlank c with
    | false => rfl
    | true =>
      have hword := h.all c (by simp)
      rw [isWord_eq_false_of_isBlank hblank] at hword
      exact absurd hword (by decide)
  rw [List.concat_eq_append, ← List.append_assoc, trimEnd_append_cons _ [] hc]
  rfl

/-- **Module headers** are the lines that read as one when the blanks around them are dropped. -/
theorem module?_eq_some_iff {cs name : List Char} {span : Span.Text} :
    module? cs = some (span, name) ↔
      ∃ first last, span = ⟨first, some last⟩ ∧ trim cs = moduleChars first last name ∧
        SpotRuns first ∧ SpotRuns last ∧ Run isWord name := by
  have hto : ∀ tail : List Char, ∀ c ∈ (" to ".toList ++ tail).head?, isDigit c = false := by
    rintro tail c ⟨⟩
    decide
  have hof : ∀ tail : List Char, ∀ c ∈ (" of module ".toList ++ tail).head?, isDigit c = false := by
    rintro tail c ⟨⟩
    decide
  unfold module?
  simp only [Option.bind_eq_bind, Option.bind_eq_some_iff, Prod.exists, after?_eq_some_iff,
    lineCol?_eq_some_iff]
  constructor
  · rintro ⟨first, _, ⟨hcs, hfirst, -⟩, _, rfl, last, _, ⟨rfl, hlast, -⟩, rest, rfl, h⟩
    rcases hcut : cutAt (fun c => !isWord c) rest with ⟨front, tail⟩
    obtain ⟨rfl, hfront, -⟩ := cutAt_eq_iff.mp hcut
    simp only [hcut] at h
    split at h
    · next hend =>
      obtain ⟨rfl, rfl⟩ : (⟨first, some last⟩ : Span.Text) = span ∧ front = name := by
        simpa using h
      have hname : Run isWord front := ⟨hend.1, fun c hc => by simpa using hfront c hc⟩
      refine ⟨first, last, rfl, ?_, hfirst, hlast, hname⟩
      rw [trim, hcs, ← moduleChars_append,
        trimEnd_append_of_blank _ (List.all_eq_true.mp hend.2)]
      exact trimEnd_append_of_word _ hname
    · cases h
  · rintro ⟨first, last, rfl, htrim, hfirst, hlast, hname⟩
    obtain ⟨tail, htail, hcs⟩ := exists_trimEnd (trimStart cs)
    rw [← trim, htrim, moduleChars_append] at hcs
    have hcut : cutAt (fun c => !isWord c) (name ++ tail) = (name, tail) := by
      refine cutAt_eq_iff.mpr ⟨rfl, fun c hc => by simp [hname.all c hc], fun c hc => ?_⟩
      rw [isWord_eq_false_of_isBlank (htail c (List.mem_of_mem_head? hc))]
      rfl
    refine ⟨first, _, ⟨hcs, hfirst, hto _⟩, _, rfl, last, _, ⟨rfl, hlast, hof _⟩, _, rfl, ?_⟩
    simp only [hcut]
    rw [if_pos ⟨hname.ne_nil, List.all_eq_true.mpr htail⟩]
    rfl

/-- A module header is read from the trimmed line. -/
theorem module?_congr {cs ds : List Char} (h : trim cs = trim ds) : module? cs = module? ds := by
  apply Option.ext
  rintro ⟨span, name⟩
  rw [module?_eq_some_iff, module?_eq_some_iff, h]

/-! ### Headers with a path -/

theorem positionedFrom?_cons_of_ne (path cs : List Char) {c : Char} (hc : c ≠ ':') :
    positionedFrom? path (c :: cs) =
      if c = '\n' then none else positionedFrom? (c :: path) cs := by
  rw [positionedFrom?, if_neg hc]

theorem colon_mem_of_positionedFrom? {path cs : List Char}
    {found : List Char × Span.Text × Tagged} (h : positionedFrom? path cs = some found) :
    ':' ∈ cs := by
  induction cs generalizing path with
  | nil => simp [positionedFrom?] at h
  | cons c cs ih =>
    by_cases hc : c = ':'
    · simp [hc]
    · rw [positionedFrom?_cons_of_ne path cs hc] at h
      split at h
      · cases h
      · exact List.mem_cons_of_mem c (ih h)

theorem colon_mem_of_positioned? {cs : List Char} {found : List Char × Span.Text × Tagged}
    (h : positioned? cs = some found) : ':' ∈ cs := by
  unfold positioned? at h
  split at h
  · cases h
  · split at h
    · cases h
    · exact List.mem_cons_of_mem _ (colon_mem_of_positionedFrom? h)

theorem colon_mem_of_plain? {cs : List Char} {found : List Char × Tagged}
    (h : plain? cs = some found) : ':' ∈ cs := by
  unfold plain? at h
  split at h
  · cases h
  · next hcut =>
    rw [(cutAt_eq_iff.mp hcut).1]
    simp
  · cases h

theorem colon_mem_of_unpositioned? {cs : List Char} {found : List Char × Tagged}
    (h : unpositioned? cs = some found) : ':' ∈ cs := by
  unfold unpositioned? driven? at h
  split at h
  · simp
  · exact colon_mem_of_plain? (by simpa using h)

theorem colon_notMem_lineColChars {spot : Span.SpotText} (h : SpotRuns spot) :
    ':' ∉ lineColChars spot := by
  change ':' ∉ "line ".toList ++ spot.line ++ ", col ".toList ++ spot.column
  have hdigit : isDigit ':' = false := by decide
  simp [h.line.notMem hdigit, h.column.notMem hdigit]

/-- A module header has no colon. -/
theorem colon_notMem_of_module? {cs name : List Char} {span : Span.Text}
    (h : module? cs = some (span, name)) : ':' ∉ cs := by
  obtain ⟨first, last, rfl, htrim, hfirst, hlast, hname⟩ := module?_eq_some_iff.mp h
  intro hmem
  have hchars := mem_trim_of_mem hmem (by decide)
  rw [htrim] at hchars
  change ':' ∈ lineColChars first ++ " to ".toList ++ lineColChars last ++
    " of module ".toList ++ name at hchars
  simp [colon_notMem_lineColChars hfirst, colon_notMem_lineColChars hlast,
    hname.notMem (c := ':') (by decide +kernel)] at hchars

/-! ### All headers -/

def ofModule? (m : Span.Text × List Char) : Option Header :=
  m.1.value?.map fun span => ⟨.module (String.ofList m.2), some span, none, none⟩

/-- A line that names no path is a header only as a module header. -/
theorem ofLine?_of_unplaced {line : List Char} (hpos : positioned? line = none)
    (hplain : unpositioned? line = none) : ofLine? line = (module? line).bind ofModule? := by
  rw [ofLine?, hpos, hplain]
  cases module? line <;> rfl

/-- An indented line is a header only as a module header. -/
theorem ofLine?_of_blank {c : Char} (hc : isBlank c = true) (cs : List Char) :
    ofLine? (c :: cs) = (module? (c :: cs)).bind ofModule? := by
  apply ofLine?_of_unplaced
  · rw [positioned?, if_pos hc]
  · have hdriven : driven? (c :: cs) = none := by
      unfold driven?
      split
      · next hcons =>
        rw [← (List.cons.inj hcons).1, isAlpha_eq_false_of_isBlank hc]
        rfl
      · rfl
    have hplain : plain? (c :: cs) = none := by
      simp [plain?, cutAt, hc]
    rw [unpositioned?, hdriven, hplain]
    rfl

theorem ofLine?_of_module? {line : List Char} {m : Span.Text × List Char}
    (h : module? line = some m) : ofLine? line = ofModule? m := by
  have hcolon := colon_notMem_of_module? h
  rw [ofLine?_of_unplaced, h, Option.bind_some]
  · exact Option.eq_none_iff_forall_ne_some.mpr fun _ hsome =>
      hcolon (colon_mem_of_positioned? hsome)
  · exact Option.eq_none_iff_forall_ne_some.mpr fun _ hsome =>
      hcolon (colon_mem_of_unpositioned? hsome)

end Header

/-! ### Indented lines -/

namespace Line

/-- Loose text is a message or nothing known. -/
theorem loose_cases (line : String) :
    loose line = .message (trimmed line) ∨ loose line = .unrecognized line := by
  unfold loose
  split
  · exact .inr rfl
  · split
    · exact .inl rfl
    · exact .inr rfl

theorem endsMessage_loose (line : String) : (loose line).endsMessage = false := by
  unfold loose
  split
  · rfl
  · split <;> rfl

/-- The lines that end a message: banners and headers that are no records. -/
theorem endsMessage_classify_iff (line : String) :
    (classify line).endsMessage = true ↔
      Status.ofLine? line.toList = none ∧
        ((Section.ofLine? line.toList).isSome = true ∨
          (Header.ofLine? line.toList).isSome = true) := by
  unfold classify
  cases Status.ofLine? line.toList with
  | some s => simp [endsMessage, isHeader, isBanner]
  | none =>
    cases Section.ofLine? line.toList with
    | some s => simp [endsMessage, isHeader, isBanner]
    | none =>
      cases Header.ofLine? line.toList with
      | some h => simp [endsMessage, isHeader, isBanner]
      | none => simp [endsMessage_loose]

/-- **Indented text stays text.** An indented line ends a message only if every line with the same
    visible text does. -/
theorem endsMessage_of_indented {line other : String} {c : Char} {cs : List Char}
    (hline : line.toList = c :: cs) (hc : isBlank c = true)
    (htrim : trim line.toList = trim other.toList)
    (h : (classify line).endsMessage = true) : (classify other).endsMessage = true := by
  rw [endsMessage_classify_iff, Status.ofLine?_congr htrim, Section.ofLine?_congr htrim] at h
  refine (endsMessage_classify_iff other).mpr ⟨h.1, h.2.imp_right fun hheader => ?_⟩
  rw [hline, Header.ofLine?_of_blank hc, ← hline, Header.module?_congr htrim] at hheader
  cases hmodule : Header.module? other.toList with
  | none =>
    rw [hmodule] at hheader
    cases hheader
  | some m =>
    rw [hmodule] at hheader
    rw [Header.ofLine?_of_module? hmodule]
    exact hheader

end Line

end TlaDigest
