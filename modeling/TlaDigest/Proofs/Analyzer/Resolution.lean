import Mathlib.Data.List.Forall2
import TlaDigest.Proofs.Composition
import TlaDigest.Proofs.Findings.Histories

/-!
# How the headers of an analyzer run find their files

The parser keeps a table of modules, in which a file takes the place of an earlier one, and the file
parsed last, which need not be in the table. Here the same is said by looking back from the header:
`IsLatest` is the file of the nearest banner above it that names a file of some kind, `Silent` says
that no banner does, and `Resolves` says from these two which file a header is about. `resolves_iff`
shows that every header has exactly one file.

What was opened or recorded once keeps its file. `Desk.Keeps` compares two moments of a run; one line
keeps what is there (`keeps_take`), and so do any number of lines (`keeps_run`). The main statement
is `resolves_by_earlier_banners`.
-/

namespace TlaDigest

/-! ### What a run keeps -/

namespace Desk

/-- What `d` holds is found again in `e`: files and diagnostics that were reported stay where they
    are, in front of what came later, and a draft is still open or was reported for its file. -/
structure Keeps (d e : Desk) : Prop where
  paths : d.findings.paths <+: e.findings.paths
  recorded : ∀ path, d.findings.get path <+: e.findings.get path
  opened : ∀ draft, d.draft = some draft → ∃ more,
    e.draft = some (draft.extend more) ∨
      (draft.extend more).diagnostic ∈ e.findings.get draft.location.path

theorem Keeps.refl (d : Desk) : Keeps d d := by
  refine ⟨List.prefix_rfl, fun path => List.prefix_rfl, ?_⟩
  intro draft hdraft
  refine ⟨[], .inl ?_⟩
  rw [Draft.extend_nil, hdraft]

theorem Keeps.trans {d e f : Desk} (hde : Keeps d e) (hef : Keeps e f) : Keeps d f := by
  refine ⟨hde.paths.trans hef.paths, fun path => (hde.recorded path).trans (hef.recorded path), ?_⟩
  intro draft hdraft
  obtain ⟨more, hopen | hdone⟩ := hde.opened draft hdraft
  · obtain ⟨others, hopen' | hdone'⟩ := hef.opened _ hopen
    · refine ⟨more ++ others, .inl ?_⟩
      rw [← Draft.extend_extend, hopen']
    · refine ⟨more ++ others, .inr ?_⟩
      rw [← Draft.extend_extend]
      exact hdone'
  · exact ⟨more, .inr ((hef.recorded _).subset hdone)⟩

/-- A draft that is reported goes behind what was reported for its file. -/
theorem keeps_settled (d : Desk) (next : Option Draft) : Keeps d ⟨next, d.settled⟩ := by
  obtain ⟨current, findings⟩ := d
  cases current with
  | none =>
    refine ⟨List.prefix_rfl, fun path => List.prefix_rfl, ?_⟩
    intro draft hdraft
    cases hdraft
  | some draft =>
    have hsettled : (⟨some draft, findings⟩ : Desk).settled =
        findings.add draft.location.path draft.diagnostic := rfl
    have hget : ∀ path, (findings.add draft.location.path draft.diagnostic).get path = _ :=
      fun path => Findings.get_append findings draft.location.path path [draft.diagnostic]
    rw [hsettled]
    refine ⟨?_, ?_, ?_⟩
    · rw [Findings.paths_add]
      exact List.prefix_append _ _
    · intro path
      rw [hget]
      exact List.prefix_append _ _
    · intro other hother
      obtain rfl := Option.some.inj hother
      refine ⟨[], .inr ?_⟩
      rw [Draft.extend_nil, hget, if_pos (Path.keyTest_same.refl _)]
      exact List.mem_append_right _ List.mem_cons_self

theorem keeps_push (d : Desk) (line : String) :
    Keeps d ⟨d.draft.map (·.push line), d.findings⟩ := by
  refine ⟨List.prefix_rfl, fun path => List.prefix_rfl, ?_⟩
  intro draft hdraft
  refine ⟨Text.texts [line], .inl ?_⟩
  rw [hdraft, Option.map_some, Draft.push_eq_extend]

/-- **A line keeps what is there**, whatever the rule for headers. -/
theorem keeps_take (rule : HeaderRule) (before : List String) (d : Desk) (line : String) :
    Keeps d (d.take rule before line) := by
  unfold take
  cases Line.classify line with
  | header h => exact keeps_settled d _
  | banner sec => exact keeps_settled d none
  | status status => exact keeps_push d line
  | message text => exact keeps_push d line
  | unrecognized text => exact keeps_push d line

theorem keeps_run (rule : HeaderRule) (before rest : List String) (d : Desk) :
    Keeps d (run rule before rest d) := by
  induction rest generalizing before d with
  | nil => exact .refl d
  | cons line rest ih => exact (keeps_take rule before d line).trans (ih _ _)

end Desk

namespace Analyzer

/-! ### Looking back for a banner -/

def Announces (file : Path) (line : String) : Prop :=
  Line.classify line = .banner (.parsing (some file))

def Silent (kind : Path → Bool) (lines : List String) : Prop :=
  ∀ line ∈ lines, ∀ file, Announces file line → kind file = false

def IsLatest (kind : Path → Bool) (lines : List String) (file : Path) : Prop :=
  ∃ older line newer, lines = older ++ line :: newer ∧ Announces file line ∧ kind file = true ∧
    Silent kind newer

/-- The file of a header with these lines above it. A module is the last file of that name, or else
    the file of that name beside the last file of any name; a dash is the last file. Where no file
    was announced, both are taken as they are. -/
inductive Resolves (before : List String) : Target → Path → Prop where
  | parsed {name : String} {file : Path} :
      IsLatest (fun file => file.stem? = some name) before file →
      Resolves before (.module name) file
  | beside {name : String} {last : Path} :
      Silent (fun file => file.stem? = some name) before → IsLatest (fun _ => true) before last →
      Resolves before (.module name) (last.sibling (name ++ ".tla"))
  | alone {name : String} :
      Silent (fun _ => true) before → Resolves before (.module name) ⟨name ++ ".tla"⟩
  | input {last : Path} : IsLatest (fun _ => true) before last → Resolves before (.path ⟨"-"⟩) last
  | noInput : Silent (fun _ => true) before → Resolves before (.path ⟨"-"⟩) ⟨"-"⟩
  | printed {path : Path} : path ≠ ⟨"-"⟩ → Resolves before (.path path) path

def announced? (line : String) : Option Path := (Line.classify line).banner?.bind Section.file?

theorem announced?_eq_some_iff (line : String) (file : Path) :
    announced? line = some file ↔ Announces file line := by
  unfold announced? Announces
  cases Line.classify line with
  | banner sec => cases sec <;> simp [Line.banner?, Section.file?]
  | _ => simp [Line.banner?]

theorem parsedFiles_eq (lines : List String) : parsedFiles lines = lines.filterMap announced? := by
  rw [parsedFiles, banners, List.filterMap_filterMap]
  rfl

theorem filter_parsedFiles (kind : Path → Bool) (lines : List String) :
    (parsedFiles lines).filter kind = lines.filterMap fun line => (announced? line).filter kind := by
  rw [parsedFiles_eq, List.filter_filterMap]

section Latest

variable {kind : Path → Bool} {lines : List String}

theorem silent_iff :
    Silent kind lines ↔ ((parsedFiles lines).filter kind).getLast? = none := by
  rw [filter_parsedFiles, List.getLast?_eq_none_iff, List.filterMap_eq_nil_iff]
  simp only [Silent, Option.filter_eq_none_iff, announced?_eq_some_iff, Bool.not_eq_true]

theorem isLatest_iff {file : Path} :
    IsLatest kind lines file ↔ ((parsedFiles lines).filter kind).getLast? = some file := by
  -- the last of the files is the first that is met on the way back
  rw [filter_parsedFiles, List.getLast?_filterMap, List.findSome?_eq_some_iff]
  constructor
  · rintro ⟨older, line, newer, rfl, hline, hkind, hsilent⟩
    refine ⟨newer.reverse, line, older.reverse, by simp, ?_, ?_⟩
    · rw [(announced?_eq_some_iff line file).mpr hline]
      simp [hkind]
    · intro other hother
      rw [Option.filter_eq_none_iff]
      intro f hf
      have hfalse := hsilent other (List.mem_reverse.mp hother) f
        ((announced?_eq_some_iff other f).mp hf)
      simp [hfalse]
  · rintro ⟨back, line, front, hsplit, hline, hsilent⟩
    obtain ⟨hfile, hkind⟩ := Option.filter_eq_some_iff.mp hline
    refine ⟨front.reverse, line, back.reverse, ?_, (announced?_eq_some_iff line file).mp hfile,
      hkind, ?_⟩
    · rw [← List.reverse_reverse lines, hsplit]
      simp
    · intro other hother f hf
      have hnone := hsilent other (List.mem_reverse.mp hother)
      rw [(announced?_eq_some_iff other f).mpr hf] at hnone
      simpa using hnone

end Latest

theorem silent_all_iff {lines : List String} :
    Silent (fun _ => true) lines ↔ (parsedFiles lines).getLast? = none := by
  rw [silent_iff, List.filter_true]

theorem isLatest_all_iff {lines : List String} {file : Path} :
    IsLatest (fun _ => true) lines file ↔ (parsedFiles lines).getLast? = some file := by
  rw [isLatest_iff, List.filter_true]

/-- **Every header has exactly one file**, and the state's tables lead to it. -/
theorem resolves_iff (before : List String) (target : Target) (path : Path) :
    Resolves before target path ↔ path = fileOf (parsedFiles before) target := by
  constructor
  · intro h
    cases h with
    | parsed hlatest => rw [fileOf, isLatest_iff.mp hlatest]
    | beside hsilent hlatest =>
      rw [fileOf, silent_iff.mp hsilent, isLatest_all_iff.mp hlatest]
    | alone hsilent =>
      have hempty : parsedFiles before = [] :=
        List.getLast?_eq_none_iff.mp (silent_all_iff.mp hsilent)
      rw [fileOf, hempty]
      rfl
    | input hlatest => rw [fileOf, if_pos rfl, isLatest_all_iff.mp hlatest, Option.getD_some]
    | noInput hsilent => rw [fileOf, if_pos rfl, silent_all_iff.mp hsilent, Option.getD_none]
    | printed hne =>
      obtain ⟨text⟩ := path
      rw [fileOf, if_neg fun heq => hne (congrArg Path.mk heq)]
  · rintro rfl
    cases target with
    | path path =>
      obtain ⟨text⟩ := path
      rw [fileOf]
      split
      · next hdash =>
        simp only at hdash
        subst hdash
        cases hlast : (parsedFiles before).getLast? with
        | none => exact .noInput (silent_all_iff.mpr hlast)
        | some last => exact .input (isLatest_all_iff.mpr hlast)
      · next hother => exact .printed fun heq => hother (congrArg Path.text heq)
    | module name =>
      rw [fileOf]
      split
      · next hfile => exact .parsed (isLatest_iff.mpr hfile)
      · next hnone =>
        split
        · next hlast => exact .beside (silent_iff.mpr hnone) (isLatest_all_iff.mpr hlast)
        · next hlast => exact .alone (silent_all_iff.mpr hlast)

/-! ### What a header opens -/

/-- A cut at a header that opens a diagnostic: one outside the obligation report. -/
def isOpening (cut : Cut) : Bool :=
  (Line.classify cut.line).isHeader && governing? cut.before ≠ some .obligations

/-- The header of the cut opened a draft for the file it resolves to, and the draft was reported with
    the text that came after it. -/
def Opened (extended : Bool) (cut : Cut) (finding : Finding) : Prop :=
  ∃ h draft, Line.classify cut.line = .header h ∧
    ((parser extended).after (cut.before ++ [cut.line])).draft = some draft ∧
    finding = (draft.extend (bodyOf cut.after)).finding ∧
    ∀ path, Resolves cut.before h.target path ↔ path = draft.location.path

theorem desk_after_append (extended : Bool) (lines more : List String) :
    ((parser extended).after (lines ++ more)).desk =
      Desk.run rule lines more ((parser extended).after lines).desk := by
  have hreads : Reads lines ((parser extended).after lines) :=
    reads_foldl extended reads_initial lines
  rw [LineParser.after, List.foldl_append]
  exact desk_foldl extended hreads more

/-- A header outside the obligation report opens the draft that the rule for headers says. -/
theorem draft_after_header (extended : Bool) (before : List String) {line : String} {h : Header}
    (hline : Line.classify line = .header h) :
    ((parser extended).after (before ++ [line])).draft = (rule before h).map (·.draft h) := by
  have hdesk := desk_after_append extended before [line]
  rw [Desk.run, Desk.run, Desk.take, hline] at hdesk
  exact congrArg Desk.draft hdesk

theorem opened_of_isOpening (extended : Bool) {cut : Cut} (h : isOpening cut = true) :
    ∃ finding, rule.finding? cut = some finding ∧ Opened extended cut finding := by
  obtain ⟨hheader, hgov⟩ : (Line.classify cut.line).isHeader = true ∧
      governing? cut.before ≠ some .obligations := by
    simpa [isOpening] using h
  cases hline : Line.classify cut.line with
  | header header =>
    obtain ⟨a, hrule, hpath⟩ : ∃ a, rule cut.before header = some a ∧
        a.path = fileOf (parsedFiles cut.before) header.target := by
      simp [rule, hgov]
    have hdraft := draft_after_header extended cut.before hline
    rw [hrule] at hdraft
    refine ⟨a.finding header cut.after, ?_, header, a.draft header, hline, hdraft, ?_, ?_⟩
    · simp only [HeaderRule.finding?, hline, hrule, Option.map_some]
    · exact (a.finding_extend_draft header cut.after).symm
    · intro path
      rw [resolves_iff, ← hpath]
      rfl
  | _ => simp [hline, Line.isHeader] at hheader

theorem finding?_of_not_isOpening {cut : Cut} (h : isOpening cut = false) :
    rule.finding? cut = none := by
  unfold HeaderRule.finding?
  cases hline : Line.classify cut.line with
  | header header =>
    have hgov : governing? cut.before = some .obligations := by
      simpa [isOpening, hline, Line.isHeader] using h
    simp [rule, hgov]
  | _ => rfl

theorem forall₂_opened (extended : Bool) (cuts : List Cut) :
    List.Forall₂ (Opened extended) (cuts.filter isOpening) (cuts.filterMap rule.finding?) := by
  induction cuts with
  | nil => exact .nil
  | cons cut cuts ih =>
    cases hcut : isOpening cut with
    | true =>
      obtain ⟨finding, hfinding, hopened⟩ := opened_of_isOpening extended hcut
      rw [List.filter_cons_of_pos hcut, List.filterMap_cons_some hfinding]
      exact .cons hopened ih
    | false =>
      rw [List.filter_cons_of_neg (by simp [hcut]),
        List.filterMap_cons_none (finding?_of_not_isOpening hcut)]
      exact ih

/-! ### The table of modules -/

/-- Modules stand in the order of the first files that have their names. -/
theorem keys_moduleTable (files : List Path) :
    Catalog.keys (moduleTable files) = (files.filterMap Path.stem?).eraseDups := by
  induction files using List.reverseRecOn with
  | nil => rfl
  | append_singleton files file ih =>
    rw [moduleTable_concat, List.filterMap_append]
    unfold enterFile
    cases hstem : file.stem? with
    | none => simp [hstem, ih]
    | some name =>
      have hhas : Catalog.has (fun a b => a == b) name (moduleTable files) =
          (files.filterMap Path.stem?).eraseDups.any (name == ·) := by
        rw [Catalog.has, ih]
        congr 1
        funext key
        exact Catalog.keyTest_beq.comm key name
      have hkeys : Catalog.keys (Catalog.put (fun a b => a == b) name file (moduleTable files)) = _ :=
        Catalog.keys_alter _ name (fun _ => file) (moduleTable files)
      rw [hkeys, hhas, ih, List.eraseDups, List.eraseDups]
      simp only [List.filterMap_cons, hstem, List.filterMap_nil]
      rw [eraseDupsBy_concat]

theorem nodup_keys_moduleTable (files : List Path) :
    (Catalog.keys (moduleTable files)).Nodup := by
  refine (distinct_moduleTable files).imp ?_
  intro a b hab
  simpa using hab

theorem mem_moduleTable_iff (files : List Path) (name : String) (file : Path) :
    (name, file) ∈ moduleTable files ↔
      (files.filter fun file => file.stem? = some name).getLast? = some file := by
  rw [← get?_moduleTable]
  constructor
  · intro hmem
    exact Catalog.get?_of_mem Catalog.keyTest_beq (distinct_moduleTable files) hmem
      (beq_self_eq_true name)
  · intro hget
    obtain ⟨key, hmem, hkey⟩ := Catalog.mem_of_get? hget
    rwa [eq_of_beq hkey] at hmem

/-- **Headers are resolved by the banners above them.** In either mode the diagnostics of a run are
    those of its headers outside the obligation report, one for each and in their order, and each is
    reported for the one file that its header resolves to by the lines above it (`Resolves`). What
    was opened or reported at some line stays with its file, whatever lines follow. The modules of
    the run are the names of the announced files, each once and in the order of their first banners,
    and each leads to the file of its last banner. -/
theorem resolves_by_earlier_banners (extended : Bool) (lines : List String) :
    (∃ log, ((parser extended).parse lines).findings = .ofLog log ∧
        List.Forall₂ (Opened extended) ((cuts lines).filter isOpening) log) ∧
      (∀ more, ((parser extended).after lines).desk.Keeps
          ((parser extended).after (lines ++ more)).desk ∧
        ((parser extended).after lines).desk.Keeps
          ⟨none, ((parser extended).parse (lines ++ more)).findings⟩) ∧
      Catalog.keys ((parser extended).parse lines).modules =
        ((lines.filterMap announced?).filterMap Path.stem?).eraseDups ∧
      (Catalog.keys ((parser extended).parse lines).modules).Nodup ∧
      ∀ name file, (name, file) ∈ ((parser extended).parse lines).modules ↔
        IsLatest (fun file => file.stem? = some name) lines file := by
  refine ⟨⟨_, findings_finish_foldl extended reads_initial lines, forall₂_opened extended _⟩, ?_,
    ?_, ?_, ?_⟩
  · intro more
    have hkeeps : ((parser extended).after lines).desk.Keeps
        ((parser extended).after (lines ++ more)).desk := by
      rw [desk_after_append]
      exact Desk.keeps_run rule lines more _
    refine ⟨hkeeps, ?_⟩
    have hfindings := findings_finish ((parser extended).after (lines ++ more))
    rw [LineParser.parse]
    exact hkeeps.trans (hfindings ▸ Desk.keeps_settled _ none)
  · rw [modules_parse, keys_moduleTable, parsedFiles_eq]
  · rw [modules_parse]
    exact nodup_keys_moduleTable _
  · intro name file
    rw [modules_parse, mem_moduleTable_iff, isLatest_iff]

end Analyzer

end TlaDigest
