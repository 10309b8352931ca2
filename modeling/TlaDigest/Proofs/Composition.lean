import TlaDigest.Proofs.Analyzer.Separation
import TlaDigest.Proofs.Findings
import TlaDigest.Proofs.Transpiler.Reports

/-!
# Runs that are put together at a boundary

A header or a banner ends what the transpiler's parser was doing, and a banner ends what the
analyzer's parser was doing, just as the end of the output would; the results of two runs are then
merged. The files that the analyzer was told about are the one thing that outlives a banner: a
header for the input or for a module may refer to a file of the first run. So the second run either
has no such header, or the first has named no file.

Either side of `parse_append` rests on the log of the second run being the same behind the first
one. For the transpiler this is immediate, as its rule for headers does not look back. For the
analyzer it is `filterMap_finding?_congr`, an induction on the lines behind the boundary.
-/

namespace TlaDigest

/-- The header names a file of its own: neither the input nor a module. -/
def Header.namesFile (h : Header) : Bool :=
  match h.target with
  | .path path => path.text ≠ "-"
  | .module _ => false

def Line.standsAlone : Line → Bool
  | .header h => h.namesFile
  | _ => true

/-! ### Merging analyses -/

/-- Enters the modules of `other` in order. A name that is there already keeps its place and takes
    the new file. -/
def enterModules (table other : Catalog String Path) : Catalog String Path :=
  other.foldl (fun table entry => Catalog.put (fun a b => a == b) entry.1 entry.2 table) table

theorem enterModules_eq (table other : Catalog String Path) :
    enterModules table other =
      Catalog.insertAll (fun a b => a == b) (fun file _ => file) table other := rfl

def Analysis.merge (a b : Analysis) : Analysis where
  findings := a.findings.merge b.findings
  modules := enterModules a.modules b.modules
  obligations := a.obligations ++ b.obligations

theorem Analysis.eq_of_parts {a b : Analysis} (hfindings : a.findings = b.findings)
    (hmodules : a.modules = b.modules) (hobligations : a.obligations = b.obligations) : a = b := by
  cases a
  cases b
  simp_all

/-! ### The transpiler -/

namespace Transpiler

/-- Nothing is expected of a draft when the output ends or goes on with a header or a banner. -/
theorem expected_of_boundary (d : Desk) {rest : List String}
    (h : ∀ line ∈ rest.head?, (Line.classify line).endsMessage = true) :
    d.expected rest = d.settled := by
  cases rest with
  | nil => exact Desk.expected_nil d
  | cons line rest => exact Desk.expected_cons_of_ends (h line rfl) d rest

/-- Findings of two runs that meet at a header or a banner are merged. -/
theorem parse_append_of_boundary (source : Path) (first : List String) {second : List String}
    (h : ∀ line ∈ second.head?, (Line.classify line).endsMessage = true) :
    (parser source).parse (first ++ second) =
      ((parser source).parse first).merge ((parser source).parse second) := by
  have hlog : (parser source).parse (first ++ second) =
      ((parser source).parse first).replay ((cuts second).filterMap (rule source).finding?) := by
    have hrest := finish_foldl_feed source [] second (first.foldl (feed source) .initial)
    rw [expected_of_boundary _ h, ← List.foldl_append] at hrest
    exact hrest
  rw [hlog, parse_eq source second, Findings.merge_ofLog]

end Transpiler

/-! ### The analyzer -/

namespace Analyzer

/-- A file takes the place of the one that was there. -/
theorem absorbs_replace : Catalog.Absorbs fun (file : Path) (_ : Option Path) => file :=
  ⟨fun _ _ => rfl, fun _ _ _ => rfl⟩

theorem distinct_moduleTable (files : List Path) :
    Catalog.Distinct (fun a b => a == b) (moduleTable files) := by
  induction files using List.reverseRecOn with
  | nil => exact List.Pairwise.nil
  | append_singleton files file ih =>
    rw [moduleTable_concat]
    unfold enterFile
    split
    · exact Catalog.distinct_alter ih _ _
    · exact ih

/-- **The modules of two runs**: those of the second are entered behind those of the first. -/
theorem moduleTable_append (files more : List Path) :
    moduleTable (files ++ more) = enterModules (moduleTable files) (moduleTable more) := by
  -- from the last file on: entering it commutes with entering the modules before it
  induction more using List.reverseRecOn with
  | nil => rw [List.append_nil]; rfl
  | append_singleton more file ih =>
    rw [← List.append_assoc, moduleTable_concat, ih, moduleTable_concat]
    unfold enterFile
    split
    · next name _ =>
      exact (Catalog.insertAll_alter Catalog.keyTest_beq absorbs_replace name file
        (distinct_moduleTable more) (moduleTable files)).symm
    · rfl

@[simp] theorem modules_finish (s : State) : (finish s).modules = s.output.modules := by
  rw [finish, close_eq]
  rfl

theorem modules_parse (extended : Bool) (lines : List String) :
    ((parser extended).parse lines).modules = moduleTable (parsedFiles lines) := by
  have hreads := reads_foldl extended reads_initial lines
  exact (modules_finish _).trans hreads.modules_eq

/-- The file of such a header does not depend on the files that were parsed. -/
theorem fileOf_of_namesFile {h : Header} (hfile : h.namesFile = true) (files others : List Path) :
    fileOf files h.target = fileOf others h.target := by
  unfold Header.namesFile at hfile
  cases htarget : h.target with
  | path path =>
    have hne : path.text ≠ "-" := by simpa [htarget] using hfile
    rw [fileOf, fileOf, if_neg hne, if_neg hne]
  | module name => simp [htarget] at hfile

/-- What some lines report depends on the lines before through the governing section and the files
    that their headers refer to. -/
theorem filterMap_finding?_congr {before other rest : List String}
    (hgov : governing? before = governing? other)
    (hfiles : ∀ line ∈ rest, ∀ h, Line.classify line = .header h → ∀ files,
      fileOf (parsedFiles before ++ files) h.target =
        fileOf (parsedFiles other ++ files) h.target) :
    (cutsAfter before rest).filterMap rule.finding? =
      (cutsAfter other rest).filterMap rule.finding? := by
  induction rest generalizing before other with
  | nil => rfl
  | cons line rest ih =>
    have hfinding : rule.finding? ⟨before, line, rest⟩ = rule.finding? ⟨other, line, rest⟩ := by
      unfold HeaderRule.finding?
      cases hline : Line.classify line with
      | header h =>
        have hfile := hfiles line (by simp) h hline []
        rw [List.append_nil, List.append_nil] at hfile
        simp only [rule, hgov, hfile]
      | _ => rfl
    have hgov' : governing? (before ++ [line]) = governing? (other ++ [line]) := by
      rw [governing?_append, governing?_append, hgov]
    have hfiles' : ∀ l ∈ rest, ∀ h, Line.classify l = .header h → ∀ files,
        fileOf (parsedFiles (before ++ [line]) ++ files) h.target =
          fileOf (parsedFiles (other ++ [line]) ++ files) h.target := by
      intro l hl h hline files
      rw [parsedFiles_append, parsedFiles_append, List.append_assoc, List.append_assoc]
      exact hfiles l (by simp [hl]) h hline _
    rw [cutsAfter, cutsAfter, List.filterMap_cons, List.filterMap_cons, hfinding, ih hgov' hfiles']

section Boundary

variable {line : String} {sec : Section}

/-- A line that is a banner governs what comes after it, whatever stands before. -/
theorem governing?_concat_banner (h : Line.classify line = .banner sec) (before : List String) :
    governing? (before ++ [line]) = some sec := by
  rw [governing?_append, governing?_singleton, h]
  rfl

/-- The log behind a banner is that of the second run alone. -/
theorem filterMap_finding?_of_banner {first rest : List String}
    (h : Line.classify line = .banner sec)
    (hfiles : parsedFiles first = [] ∨ ∀ l ∈ line :: rest, (Line.classify l).standsAlone = true) :
    (cutsAfter first (line :: rest)).filterMap rule.finding? =
      (cuts (line :: rest)).filterMap rule.finding? := by
  have hnone : ∀ before, rule.finding? ⟨before, line, rest⟩ = none := by
    intro before
    simp only [HeaderRule.finding?, h]
  have hgov : governing? (first ++ [line]) = governing? ([] ++ [line]) := by
    rw [governing?_concat_banner h, governing?_concat_banner h]
  rw [cuts, cutsAfter, cutsAfter, List.filterMap_cons, List.filterMap_cons, hnone, hnone]
  apply filterMap_finding?_congr hgov
  intro l hl header hline files
  rcases hfiles with hnil | halone
  · rw [parsedFiles_append, hnil]
    rfl
  · have halone := halone l (by simp [hl])
    rw [hline] at halone
    exact fileOf_of_namesFile halone _ _

/-- Findings of two runs that meet at a banner are merged. -/
theorem findings_append (extended : Bool) {first rest : List String}
    (h : Line.classify line = .banner sec)
    (hfiles : parsedFiles first = [] ∨ ∀ l ∈ line :: rest, (Line.classify l).standsAlone = true) :
    ((parser extended).parse (first ++ line :: rest)).findings =
      ((parser extended).parse first).findings.merge
        ((parser extended).parse (line :: rest)).findings := by
  have hends : (Line.classify line).endsMessage = true := by rw [h]; rfl
  have hreads := reads_foldl extended reads_initial first
  rw [List.nil_append] at hreads
  have hfirst : ((parser extended).parse first).findings =
      (first.foldl (feed extended) .initial).desk.settled := findings_finish _
  have hsecond : ((parser extended).parse (line :: rest)).findings =
      .ofLog ((cuts (line :: rest)).filterMap rule.finding?) :=
    findings_finish_foldl extended reads_initial (line :: rest)
  have hboth := findings_finish_foldl extended hreads (line :: rest)
  rw [Desk.expected_cons_of_ends hends, filterMap_finding?_of_banner h hfiles,
    ← List.foldl_append] at hboth
  rw [hfirst, hsecond, Findings.merge_ofLog]
  exact hboth

/-- Obligations of two runs that meet at a banner follow each other. -/
theorem obligations_append (extended : Bool) (first rest : List String)
    (h : Line.classify line = .banner sec) :
    ((parser extended).parse (first ++ line :: rest)).obligations =
      ((parser extended).parse first).obligations ++
        ((parser extended).parse (line :: rest)).obligations := by
  cases extended with
  | false => simp only [obligations_parse_plain, List.append_nil]
  | true =>
    have hends : (Line.classify line).endsBlock = true := by rw [h]; rfl
    have hreads := reads_foldl true reads_initial first
    rw [List.nil_append] at hreads
    have hfirst : ((parser true).parse first).obligations =
        (first.foldl (feed true) .initial).ledger.expected [] := obligations_finish _
    have hsecond : ((parser true).parse (line :: rest)).obligations =
        (cuts (line :: rest)).filterMap record? :=
      obligations_finish_foldl reads_initial (line :: rest)
    have hrecord : ∀ before, record? ⟨before, line, rest⟩ = none := by
      intro before
      simp only [record?, h]
    have hgov : governing? (first ++ [line]) = governing? ([] ++ [line]) := by
      rw [governing?_concat_banner h, governing?_concat_banner h]
    have hlog : (cutsAfter first (line :: rest)).filterMap record? =
        (cuts (line :: rest)).filterMap record? := by
      rw [cuts, cutsAfter, cutsAfter, List.filterMap_cons, List.filterMap_cons, hrecord, hrecord]
      exact filterMap_record?_congr hgov rest
    have hboth := obligations_finish_foldl hreads (line :: rest)
    have hclose : (Line.classify line).tally?.getD .zero = .zero := by rw [h]; rfl
    rw [Ledger.expected_cons_of_ends hends, hclose, ← Ledger.expected_nil, hlog,
      ← List.foldl_append] at hboth
    rw [hfirst, hsecond]
    exact hboth

theorem modules_append (extended : Bool) (first second : List String) :
    ((parser extended).parse (first ++ second)).modules =
      enterModules ((parser extended).parse first).modules
        ((parser extended).parse second).modules := by
  rw [modules_parse, modules_parse, modules_parse, parsedFiles_append, moduleTable_append]

end Boundary

/-- Names that are there keep their places, and a name that is entered again takes the new file. -/
theorem keys_get?_modules_append (extended : Bool) (first second : List String) :
    Catalog.keys ((parser extended).parse first).modules <+:
        Catalog.keys ((parser extended).parse (first ++ second)).modules ∧
      ∀ name, Catalog.get? (fun a b => a == b) name
          ((parser extended).parse (first ++ second)).modules =
        (Catalog.get? (fun a b => a == b) name ((parser extended).parse second).modules).or
          (Catalog.get? (fun a b => a == b) name ((parser extended).parse first).modules) := by
  constructor
  · rw [modules_append, enterModules_eq]
    exact Catalog.keys_prefix_insertAll _ _ _ _
  · intro name
    rw [modules_parse, modules_parse, modules_parse, parsedFiles_append, get?_moduleTable,
      get?_moduleTable, get?_moduleTable, List.filter_append, List.getLast?_append]

end Analyzer

/-- **Runs that meet at a boundary are merged.** For the transpiler, the second run is empty or
    starts with a header or a banner. For the analyzer it starts with a banner, and no header of it
    needs a file that the first run named; modules that were known keep their places and take the
    file of the second run. -/
theorem parse_append (first second : List String) :
    (∀ source, (∀ line ∈ second.head?, (Line.classify line).endsMessage = true) →
      (Transpiler.parser source).parse (first ++ second) =
        ((Transpiler.parser source).parse first).merge ((Transpiler.parser source).parse second)) ∧
    ∀ extended, (∃ line ∈ second.head?, (Line.classify line).isBanner = true) →
      (Analyzer.parsedFiles first = [] ∨
        ∀ line ∈ second, (Line.classify line).standsAlone = true) →
      (Analyzer.parser extended).parse (first ++ second) =
          ((Analyzer.parser extended).parse first).merge
            ((Analyzer.parser extended).parse second) ∧
        Catalog.keys ((Analyzer.parser extended).parse first).modules <+:
          Catalog.keys ((Analyzer.parser extended).parse (first ++ second)).modules ∧
        ∀ name, Catalog.get? (fun a b => a == b) name
            ((Analyzer.parser extended).parse (first ++ second)).modules =
          (Catalog.get? (fun a b => a == b) name
            ((Analyzer.parser extended).parse second).modules).or
            (Catalog.get? (fun a b => a == b) name
              ((Analyzer.parser extended).parse first).modules) := by
  refine ⟨fun source h => Transpiler.parse_append_of_boundary source first h, ?_⟩
  rintro extended ⟨line, hhead, hbanner⟩ hfiles
  refine ⟨?_, Analyzer.keys_get?_modules_append extended first second⟩
  cases second with
  | nil => simp at hhead
  | cons start rest =>
    obtain rfl : start = line := by simpa using hhead
    cases hline : Line.classify start with
    | banner sec =>
      apply Analysis.eq_of_parts
      · exact Analyzer.findings_append extended hline hfiles
      · exact Analyzer.modules_append extended first (start :: rest)
      · exact Analyzer.obligations_append extended first rest hline
    | _ => simp [hline, Line.isBanner] at hbanner

/-- A first run that names a file and leaves an error and an obligation open, and a second one that
    reports on the same file in another spelling. -/
theorem parse_append_of_open_messages :
    (Transpiler.parser ⟨"Queue.tla"⟩).parse
        (["lib//Queue.tla:1:2: error", "  first"] ++ ["-:3:4: error: second"]) =
      ((Transpiler.parser ⟨"Queue.tla"⟩).parse ["lib//Queue.tla:1:2: error", "  first"]).merge
        ((Transpiler.parser ⟨"Queue.tla"⟩).parse ["-:3:4: error: second"]) ∧
    (Analyzer.parser true).parse
        (["Parsing file lib/Queue.tla", "-:1:2: error", "  first", "Obligations:",
          "role=main range=4:1-4:20 status=ok"] ++
          ["Parsing file Queue.tla", "lib//Queue.tla:3:4: error: second"]) =
      ((Analyzer.parser true).parse ["Parsing file lib/Queue.tla", "-:1:2: error", "  first",
        "Obligations:", "role=main range=4:1-4:20 status=ok"]).merge
        ((Analyzer.parser true).parse
          ["Parsing file Queue.tla", "lib//Queue.tla:3:4: error: second"]) := by
  constructor
  · refine (parse_append _ _).1 ⟨"Queue.tla"⟩ ?_
    intro line hline
    cases hline
    decide +kernel
  · refine ((parse_append _ _).2 true ⟨_, rfl, ?_⟩ (.inr ?_)).1
    · decide +kernel
    · decide +kernel

end TlaDigest
