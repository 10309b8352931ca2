import TlaDigest.Proofs.Line.HeaderGrammar
import TlaDigest.Proofs.Line.Renderings

/-!
# Blanks around a line

What blanks around a line change, and what the order of the readers does. Records, banners and
module headers are the same with blanks around them, so that indenting a line turns a header with a
path into text and changes nothing else (`classify_margins`). The four readers whose forms are tried
one after the other are apart in pairs: in a record the first character that belongs to no key is an
equals sign, which is so in no banner, and a header with a path has a colon, which no module header
has.
-/

namespace TlaDigest

open Text

/-! ### Records and banners -/

/-- The first character that cannot stand in a key. -/
def firstBreak (cs : List Char) : Option Char := (cs.dropWhile isNameChar).head?

theorem firstBreak_append {text : List Char} {c : Char} (h : firstBreak text = some c)
    (rest : List Char) : firstBreak (text ++ rest) = some c := by
  unfold firstBreak at h ⊢
  obtain ⟨more, hmore⟩ := List.head?_eq_some_iff.mp h
  rw [List.dropWhile_append, hmore]
  rfl

theorem Field.Reading.firstBreak_chars (r : Field.Reading) : firstBreak r.chars = some '=' := by
  have hkey : ∀ c ∈ r.first.key, isNameChar c = true := r.first.run.all
  rw [r.chars_eq]
  apply firstBreak_append
  rw [firstBreak, Field.Token.chars, List.dropWhile_append_of_pos hkey]
  rfl

namespace Section

theorem firstBreak_of_after? {text cs rest : List Char} {c : Char} (h : after? text cs = some rest)
    (hc : firstBreak text = some c) : firstBreak cs = some c := by
  rw [after?_eq_some_iff.mp h]
  exact firstBreak_append hc rest

theorem firstBreak_of_fixed? {cs : List Char} {s : Section} (h : fixed? cs = some s) :
    firstBreak cs ≠ some '=' := by
  have hfixed : (fixed.all fun entry => firstBreak entry.1.toList != some '=') = true := by
    decide +kernel
  obtain ⟨entry, hentry, -⟩ := Option.map_eq_some_iff.mp h
  have hsame := List.find?_some hentry
  have hbreak := List.all_eq_true.mp hfixed entry (List.mem_of_find?_eq_some hentry)
  rw [beq_iff_eq.mp hsame] at hbreak
  simpa using hbreak

theorem firstBreak_of_parsingFile? {cs : List Char} {s : Section} (h : parsingFile? cs = some s) :
    firstBreak cs = some ' ' := by
  unfold parsingFile? at h
  split at h
  · next hafter => exact firstBreak_of_after? hafter (by decide +kernel)
  · cases h

theorem firstBreak_of_counted? {text : String} {ok : Char → Bool} {s s' : Section} {cs : List Char}
    {c : Char} (h : counted? text ok s cs = some s') (hc : firstBreak text.toList = some c) :
    firstBreak cs = some c := by
  unfold counted? at h
  split at h
  · next hafter => exact firstBreak_of_after? hafter hc
  · cases h

/-- No banner has an equals sign where its first word ends. -/
theorem firstBreak_of_ofText? {cs : List Char} {s : Section} (h : ofText? cs = some s) :
    firstBreak cs ≠ some '=' := by
  simp only [ofText?, Option.orElse_eq_orElse, Option.orElse_eq_or, Option.or_eq_some_iff] at h
  rcases h with h | ⟨-, h | ⟨-, h | ⟨-, h | ⟨-, h⟩⟩⟩⟩
  · exact firstBreak_of_fixed? h
  · rw [firstBreak_of_parsingFile? h]
    decide
  · rw [firstBreak_of_counted? h (show _ = some '*' by decide +kernel)]
    decide
  · rw [firstBreak_of_counted? h (show _ = some '*' by decide +kernel)]
    decide
  · rw [firstBreak_of_counted? h (show _ = some ' ' by decide +kernel)]
    decide

end Section

/-- **No line is both a record and a banner.** -/
theorem status_or_section_eq_none (line : List Char) :
    Status.ofLine? line = none ∨ Section.ofLine? line = none := by
  cases hstatus : Status.ofLine? line with
  | none => exact .inl rfl
  | some s =>
    right
    obtain ⟨fields, hfields, -⟩ := Option.bind_eq_some_iff.mp hstatus
    obtain ⟨r, hr, -⟩ := Field.all?_eq_some_iff.mp hfields
    rw [Option.eq_none_iff_forall_ne_some]
    intro s hsection
    apply Section.firstBreak_of_ofText? hsection
    rw [← hr, r.firstBreak_chars]

/-! ### Headers -/

namespace Header

/-- The reading of a line in one of the forms that name a path. It comes to no header where a number
    is no word. -/
def ofPath? (line : List Char) : Option (Option Header) :=
  match positioned? line with
  | some (path, span, t) =>
    some (span.value?.map fun span =>
      ⟨.path ⟨String.ofList path⟩, some span, some t.severity, t.message⟩)
  | none =>
    (unpositioned? line).map fun (path, t) =>
      some ⟨.path ⟨String.ofList path⟩, none, some t.severity, t.message⟩

theorem ofLine?_eq_join (line : List Char) :
    ofLine? line = ((ofPath? line).or ((module? line).map ofModule?)).join := by
  unfold ofLine? ofPath?
  cases positioned? line with
  | some found => rfl
  | none =>
    cases unpositioned? line with
    | some found => rfl
    | none => cases module? line <;> rfl

/-- **No line names both a path and a module.** -/
theorem ofPath?_or_module?_eq_none (line : List Char) :
    ofPath? line = none ∨ module? line = none := by
  cases hmodule : module? line with
  | none => exact .inr rfl
  | some m =>
    left
    have hcolon := colon_notMem_of_module? hmodule
    have hpositioned : positioned? line = none :=
      Option.eq_none_iff_forall_ne_some.mpr fun _ h => hcolon (colon_mem_of_positioned? h)
    have hplain : unpositioned? line = none :=
      Option.eq_none_iff_forall_ne_some.mpr fun _ h => hcolon (colon_mem_of_unpositioned? h)
    rw [ofPath?, hpositioned, hplain]
    rfl

theorem target_ofModule? {m : Span.Text × List Char} {h : Header} (hm : ofModule? m = some h) :
    h.target = .module (String.ofList m.2) := by
  obtain ⟨span, -, rfl⟩ := Option.map_eq_some_iff.mp hm
  rfl

/-- A header that names a module was read as a module header. -/
theorem ofModule?_of_target {line : List Char} {h : Header} {name : String}
    (hline : ofLine? line = some h) (htarget : h.target = .module name) :
    (module? line).bind ofModule? = some h := by
  cases hpositioned : positioned? line with
  | some found =>
    rw [ofLine?, hpositioned] at hline
    obtain ⟨span, -, rfl⟩ := Option.map_eq_some_iff.mp hline
    cases htarget
  | none =>
    cases hplain : unpositioned? line with
    | some found =>
      rw [ofLine?, hpositioned, hplain] at hline
      obtain rfl := Option.some.inj hline
      cases htarget
    | none =>
      rw [ofLine?_of_unplaced hpositioned hplain] at hline
      exact hline

end Header

/-! ### The order of the readers -/

namespace Line

def statusReader (line : String) : Option Line := (Status.ofLine? line.toList).map .status

def bannerReader (line : String) : Option Line := (Section.ofLine? line.toList).map .banner

/-- A line that has the form of a header and comes to none is loose text. -/
def headerOr (line : String) (h : Option Header) : Line := (h.map .header).getD (loose line)

def pathReader (line : String) : Option Line := (Header.ofPath? line.toList).map (headerOr line)

def moduleReader (line : String) : Option Line :=
  (Header.module? line.toList).map fun m => headerOr line (Header.ofModule? m)

def firstOf (readers : List (String → Option Line)) (line : String) : Line :=
  (readers.findSome? (· line)).getD (loose line)

theorem classify_eq_firstOf (line : String) :
    classify line = firstOf [statusReader, bannerReader, pathReader, moduleReader] line := by
  simp only [classify, firstOf, List.findSome?_cons, List.findSome?_nil, statusReader, bannerReader,
    pathReader, moduleReader, Header.ofLine?_eq_join]
  cases Status.ofLine? line.toList with
  | some s => rfl
  | none =>
    cases Section.ofLine? line.toList with
    | some s => rfl
    | none =>
      cases Header.ofPath? line.toList with
      | some h => cases h <;> rfl
      | none =>
        cases Header.module? line.toList with
        | some m =>
          simp only [Option.map_none, Option.map_some, Option.none_or, Option.join_some, headerOr]
          cases Header.ofModule? m <;> rfl
        | none => rfl

/-- Two readers that never know the same line can be tried in either order. -/
theorem findSome?_of_perm {readers : List (String → Option Line)} {f g : String → Option Line}
    {line : String} (hapart : f line = none ∨ g line = none) (h : readers.Perm [f, g]) :
    readers.findSome? (· line) = [f, g].findSome? (· line) := by
  have hswap : [g, f].findSome? (· line) = [f, g].findSome? (· line) := by
    rcases hapart with hf | hg
    · cases hg : g line <;> simp [hf, hg]
    · cases hf : f line <;> simp [hf, hg]
  obtain ⟨x, y, rfl⟩ := List.length_eq_two.mp h.length_eq
  rcases List.mem_cons.mp (h.subset (List.mem_cons_self)) with rfl | hx
  · have hy := h.cons_inv
    rw [List.perm_singleton] at hy
    rw [hy]
  · obtain rfl := List.mem_singleton.mp hx
    have hy := (h.trans (.swap _ _ _)).cons_inv
    rw [List.perm_singleton] at hy
    rw [hy, hswap]

theorem statusReader_or_bannerReader (line : String) :
    statusReader line = none ∨ bannerReader line = none := by
  rcases status_or_section_eq_none line.toList with h | h
  · exact .inl (by rw [statusReader, h]; rfl)
  · exact .inr (by rw [bannerReader, h]; rfl)

theorem pathReader_or_moduleReader (line : String) :
    pathReader line = none ∨ moduleReader line = none := by
  rcases Header.ofPath?_or_module?_eq_none line.toList with h | h
  · exact .inl (by rw [pathReader, h]; rfl)
  · exact .inr (by rw [moduleReader, h]; rfl)

theorem classify_eq_firstOf_of_perm (line : String) {first second : List (String → Option Line)}
    (hfirst : first.Perm [statusReader, bannerReader])
    (hsecond : second.Perm [pathReader, moduleReader]) :
    classify line = firstOf (first ++ second) line := by
  rw [classify_eq_firstOf, firstOf, firstOf, List.findSome?_append,
    findSome?_of_perm (statusReader_or_bannerReader line) hfirst,
    findSome?_of_perm (pathReader_or_moduleReader line) hsecond, ← List.findSome?_append]
  rfl

/-! ### Blanks around a line -/

theorem classify_eq_banner_iff {line : String} {s : Section} :
    classify line = .banner s ↔
      Status.ofLine? line.toList = none ∧ Section.ofLine? line.toList = some s := by
  unfold classify
  cases Status.ofLine? line.toList with
  | some b => simp
  | none =>
    cases Section.ofLine? line.toList with
    | some s' => simp
    | none =>
      simp only [reduceCtorEq, and_false, iff_false]
      cases Header.ofLine? line.toList with
      | some h => simp
      | none => rcases loose_cases line with h | h <;> simp [h]

theorem loose_of_indented {line : String} (hindent : isIndented line.toList = true)
    (hvisible : trim line.toList ≠ []) : loose line = .message (trimmed line) := by
  unfold loose
  split
  · next hnil => exact absurd hnil hvisible
  · rw [if_pos hindent]
    rfl

/-- The module headers among the lines that are neither record nor banner. -/
theorem module_header_iff {line : String} (hstatus : ∀ s, classify line ≠ .status s)
    (hbanner : ∀ s, classify line ≠ .banner s) (h : Header) :
    (classify line = .header h ∧ ∃ name, h.target = .module name) ↔
      (Header.module? line.toList).bind Header.ofModule? = some h := by
  rw [classify_eq_header_iff hstatus hbanner]
  constructor
  · rintro ⟨hline, name, htarget⟩
    exact Header.ofModule?_of_target hline htarget
  · intro hmodule
    obtain ⟨m, hm, hofModule⟩ := Option.bind_eq_some_iff.mp hmodule
    rw [Header.ofLine?_of_module? hm]
    exact ⟨hofModule, _, Header.target_ofModule? hofModule⟩

section

variable {l u v : String} (hu : ∀ c ∈ u.toList, isBlank c = true)
  (hv : ∀ c ∈ v.toList, isBlank c = true)
include hu hv

theorem trim_toList_surrounded : trim (u ++ l ++ v).toList = trim l.toList := by
  rw [String.toList_append, String.toList_append, trim_append_of_blank_right _ hv,
    trim_append_of_blank hu]

theorem classify_surrounded_eq_status_iff (s : Status) :
    classify (u ++ l ++ v) = .status s ↔ classify l = .status s := by
  rw [classify_eq_status_iff, classify_eq_status_iff,
    Status.ofLine?_congr (trim_toList_surrounded hu hv)]

theorem classify_surrounded_eq_banner_iff (s : Section) :
    classify (u ++ l ++ v) = .banner s ↔ classify l = .banner s := by
  have htrim := trim_toList_surrounded (l := l) hu hv
  rw [classify_eq_banner_iff, classify_eq_banner_iff, Status.ofLine?_congr htrim,
    Section.ofLine?_congr htrim]

/-- Where the indentation shows, a line that is neither record nor banner is a module header or a
    message. -/
theorem classify_indented (hl : trimmed l ≠ "")
    (hindent : u.toList.head? = some ' ' ∨ u.toList.head? = some '\t')
    (hstatus : ∀ s, classify l ≠ .status s) (hbanner : ∀ s, classify l ≠ .banner s) :
    classify (u ++ l ++ v) =
      (((Header.module? l.toList).bind Header.ofModule?).map .header).getD (.message (trimmed l)) := by
  have htrim := trim_toList_surrounded (l := l) hu hv
  have hstatus' : ∀ s, classify (u ++ l ++ v) ≠ .status s := by
    intro s hs
    exact hstatus s ((classify_surrounded_eq_status_iff hu hv s).mp hs)
  have hbanner' : ∀ s, classify (u ++ l ++ v) ≠ .banner s := by
    intro s hs
    exact hbanner s ((classify_surrounded_eq_banner_iff hu hv s).mp hs)
  have hvisible : trim (u ++ l ++ v).toList ≠ [] := by
    rw [htrim]
    intro hnil
    exact hl ((trimmed_eq_empty_iff l).mpr hnil)
  obtain ⟨c, cs, hline, hc⟩ : ∃ c cs, (u ++ l ++ v).toList = c :: cs ∧ (c = ' ' ∨ c = '\t') := by
    rw [String.toList_append, String.toList_append]
    rcases hindent with hspace | htab
    · obtain ⟨cs, hcs⟩ := List.head?_eq_some_iff.mp hspace
      exact ⟨' ', cs ++ l.toList ++ v.toList, by rw [hcs]; rfl, .inl rfl⟩
    · obtain ⟨cs, hcs⟩ := List.head?_eq_some_iff.mp htab
      exact ⟨'\t', cs ++ l.toList ++ v.toList, by rw [hcs]; rfl, .inr rfl⟩
  have hloose : loose (u ++ l ++ v) = .message (trimmed l) := by
    have hhead : isIndented (u ++ l ++ v).toList = true := by
      rw [hline]
      rcases hc with rfl | rfl <;> rfl
    rw [loose_of_indented hhead hvisible, trimmed, htrim, trimmed]
  have hheader : Header.ofLine? (u ++ l ++ v).toList =
      (Header.module? l.toList).bind Header.ofModule? := by
    have hblank : isBlank c = true := by rcases hc with rfl | rfl <;> decide
    rw [hline, Header.ofLine?_of_blank hblank, ← hline, Header.module?_congr htrim]
  rw [classify_of_unstructured hstatus' hbanner', hheader, hloose]

end

/-- **Indentation changes only headers with a path.** Records and banners are the same in any margin,
    a module header stays one behind a space or a tab, and everything else is then a message. No
    line is both record and banner or both path and module header, so that the order in which these
    are tried changes nothing. -/
theorem classify_margins :
    (∀ l u v : String, trimmed l ≠ "" → (∀ c ∈ u.toList, isBlank c = true) →
      (∀ c ∈ v.toList, isBlank c = true) →
        (∀ s, classify (u ++ l ++ v) = .status s ↔ classify l = .status s) ∧
        (∀ s, classify (u ++ l ++ v) = .banner s ↔ classify l = .banner s) ∧
        (u.toList.head? = some ' ' ∨ u.toList.head? = some '\t' →
          (∀ s, classify l ≠ .status s) → (∀ s, classify l ≠ .banner s) →
            (∀ h name, classify l = .header h → h.target = .module name →
              classify (u ++ l ++ v) = .header h) ∧
            ((∀ h name, classify l = .header h → h.target ≠ .module name) →
              classify (u ++ l ++ v) = .message (trimmed l)) ∧
            ∀ h path, classify (u ++ l ++ v) = .header h → h.target ≠ .path path)) ∧
    (∀ line : List Char, Status.ofLine? line = none ∨ Section.ofLine? line = none) ∧
    (∀ line : List Char, Header.ofPath? line = none ∨ Header.module? line = none) ∧
    (∀ (line : String) (first second : List (String → Option Line)),
      first.Perm [statusReader, bannerReader] → second.Perm [pathReader, moduleReader] →
        classify line = firstOf (first ++ second) line) := by
  refine ⟨?_, status_or_section_eq_none, Header.ofPath?_or_module?_eq_none,
    fun line _ _ => classify_eq_firstOf_of_perm line⟩
  intro l u v hl hu hv
  refine ⟨classify_surrounded_eq_status_iff hu hv, classify_surrounded_eq_banner_iff hu hv, ?_⟩
  intro hindent hstatus hbanner
  have hmodule := module_header_iff hstatus hbanner
  rw [classify_indented hu hv hl hindent hstatus hbanner]
  refine ⟨?_, ?_, ?_⟩
  · intro h name hheader htarget
    rw [(hmodule h).mp ⟨hheader, name, htarget⟩]
    rfl
  · intro hnone
    cases hfound : (Header.module? l.toList).bind Header.ofModule? with
    | none => rfl
    | some h =>
      obtain ⟨hheader, name, htarget⟩ := (hmodule h).mpr hfound
      exact absurd htarget (hnone h name hheader)
  · intro h path hheader
    cases hfound : (Header.module? l.toList).bind Header.ofModule? with
    | none =>
      rw [hfound] at hheader
      cases hheader
    | some h' =>
      obtain ⟨-, name, htarget⟩ := (hmodule h').mpr hfound
      rw [hfound] at hheader
      obtain rfl : h' = h := by simpa using hheader
      rw [htarget]
      simp

/-- A header with a path and one of a module, both indented, and a record that is read in another
    order. -/
theorem classify_margins_of_three_lines :
    classify ("\t" ++ "a.tla:1:2: error" ++ " ") = .message "a.tla:1:2: error" ∧
    classify (" " ++ "line 1, col 2 to line 3, col 4 of module M" ++ "") =
      .header ⟨.module "M", some ⟨⟨1, 2⟩, some ⟨3, 4⟩⟩, none, none⟩ ∧
    classify "proved=1" =
      firstOf [bannerReader, statusReader, moduleReader, pathReader] "proved=1" := by
  obtain ⟨hmargins, -, -, hperm⟩ := classify_margins
  refine ⟨?_, ?_, hperm _ [_, _] [_, _] (.swap _ _ _) (.swap _ _ _)⟩
  · have hline : classify "a.tla:1:2: error" =
        .header ⟨.path ⟨"a.tla"⟩, some ⟨⟨1, 2⟩, none⟩, some .error, none⟩ := by decide +kernel
    have hindented := (hmargins "a.tla:1:2: error" "\t" " " (by decide)
      (List.all_eq_true.mp (by decide)) (List.all_eq_true.mp (by decide))).2.2 (.inr (by decide))
      (by simp [hline]) (by simp [hline])
    refine hindented.2.1 ?_
    intro h name hheader
    rw [hline, Line.header.injEq] at hheader
    rw [← hheader]
    simp
  · have hline : classify "line 1, col 2 to line 3, col 4 of module M" =
        .header ⟨.module "M", some ⟨⟨1, 2⟩, some ⟨3, 4⟩⟩, none, none⟩ := by decide +kernel
    have hindented := (hmargins "line 1, col 2 to line 3, col 4 of module M" " " "" (by decide)
      (List.all_eq_true.mp (by decide)) (List.all_eq_true.mp (by decide))).2.2 (.inl (by decide))
      (by simp [hline]) (by simp [hline])
    exact hindented.1 _ "M" hline rfl

end Line

end TlaDigest
