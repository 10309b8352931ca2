import TlaDigest.Proofs.Composition
import TlaDigest.Proofs.Report.Legible
import TlaDigest.Proofs.Report.Printing

/-!
# The human report can be read back

A diagnostic is printed as a header with its text below; the analyzer's parser reads the header
again (`Line.classify_headline`) and finds the rest of the message in the indented lines, which are
text because they were text when the message was first read (`legible_of_finding?`). The lines of
the whole report are the blocks of its reports one after the other, and
`filterMap_finding?_flatMap_lines` reads them back one by one. Grouping by file is then the one that
was there before, as the reports come file by file (`Findings.ofLog_log`). What a block does not
show is where a range ends, so the diagnostics come back at the start of their ranges.
-/

namespace TlaDigest

open Text

/-! ### One diagnostic -/

/-- A trimmed text behind a space does not end with a carriage return. -/
theorem getLast?_append_of_trimmed (front : List Char) {text : List Char} (h : trim text = text) :
    (front ++ ' ' :: text).getLast? ≠ some '\r' := by
  rw [← h, List.getLast?_append, List.getLast?_cons]
  cases hlast : (trim text).getLast? with
  | none => simp
  | some c =>
    have hvisible := isBlank_of_getLast?_trim hlast
    simp only [Option.getD_some, Option.some_or]
    rintro ⟨⟩
    exact absurd hvisible (by decide)

theorem returnFree_of_isPart {part : String} (h : IsPart part) :
    part.toList.getLast? ≠ some '\r' := by
  have hlast := getLast?_append_of_trimmed [] h.trim_eq
  rwa [List.nil_append, List.getLast?_cons_of_ne_nil h.ne_nil] at hlast

/-- The lines of a message are its parts. -/
theorem lines_joinLines {parts : List String} (h : MessageParts parts) :
    Text.lines (joinLines parts).toList = parts.map String.toList := by
  rcases List.eq_nil_or_concat parts with rfl | ⟨front, last, rfl⟩
  · rfl
  · rw [List.concat_eq_append] at h ⊢
    have hunbroken : ∀ piece ∈ (front ++ [last]).map String.toList, '\n' ∉ piece := by
      intro piece hpiece
      obtain ⟨part, hpart, rfl⟩ := List.mem_map.mp hpiece
      exact (h.part part hpart).unbroken
    have hsplit : splitOn '\n' (joinLines (front ++ [last])).toList =
        front.map String.toList ++ [last.toList] := by
      rw [joinLines, String.toList_ofList, splitOn_joinWith (by simp) hunbroken]
      simp
    have hfront : (front.map String.toList).map (dropFinal '\r') = front.map String.toList := by
      rw [List.map_map]
      refine List.map_congr_left fun part hpart => ?_
      exact dropFinal_of_returnFree (returnFree_of_isPart (h.part part (by simp [hpart])))
    have hlast : last.toList ≠ [] := (h.part last (by simp)).ne_nil
    simp only [Text.lines, hsplit, List.dropLast_concat, hfront]
    simp [hlast]

def Diagnostic.spot (d : Diagnostic) : Spot := ⟨d.range.start.line + 1, d.range.start.column + 1⟩

def firstPart (parts : List String) : List Char := (parts.headD "").toList

theorem trim_firstPart {parts : List String} (h : MessageParts parts) :
    trim (firstPart parts) = firstPart parts := by
  cases parts with
  | nil => rfl
  | cons part parts => exact (h.part part (by simp)).trim_eq

theorem unbroken_firstPart {parts : List String} (h : MessageParts parts) :
    '\n' ∉ firstPart parts := by
  cases parts with
  | nil => exact List.not_mem_nil
  | cons part parts => exact (h.part part (by simp)).unbroken

/-- A diagnostic is printed as a header, with the rest of its message indented below. -/
theorem diagnosticLines_eq (path : Path) {d : Diagnostic} {parts : List String}
    (h : MessageParts parts) (hmessage : d.message = joinLines parts) :
    Report.diagnosticLines path d =
      String.ofList (Header.headline path d.spot d.severity (firstPart parts)) ::
        parts.tail.map indented := by
  have hlines : (Text.lines d.message.toList).map String.ofList = parts := by
    rw [hmessage, lines_joinLines h, map_ofList_map_toList]
  rw [Report.diagnosticLines]
  simp only [hlines]
  refine congrArg₂ List.cons (String.toList_injective ?_) rfl
  simp [Header.headline, Span.spotChars, Report.fromOne, firstPart,
    Diagnostic.spot]

theorem printable_headline {path : Path} (hpath : path.IsPlain) (spot : Spot) (severity : Severity)
    {text : List Char} (htrim : trim text = text) (hbreak : '\n' ∉ text) :
    Printable (String.ofList (Header.headline path spot severity text)) := by
  constructor
  · have hdigit : isDigit '\n' = false := by decide
    have hpath' : '\n' ∉ path.text.toList := fun hmem =>
      absurd (hpath.visible _ hmem) (by decide)
    have htag : '\n' ∉ severity.tag.toList := by cases severity <;> decide
    rw [String.toList_ofList]
    simp [Header.headline, Span.spotChars, hpath', htag, hbreak, (run_decimal _).notMem hdigit]
  · have hfront : Header.headline path spot severity text =
        (path.text.toList ++ ':' :: (Span.spotChars spot ++
          ':' :: ' ' :: (severity.tag.toList ++ [':']))) ++ ' ' :: text := by
      simp [Header.headline]
    rw [String.toList_ofList, hfront]
    exact getLast?_append_of_trimmed _ htrim

/-- Nothing that is printed for a diagnostic breaks its line. -/
theorem printable_of_mem_diagnosticLines {path : Path} (hpath : path.IsPlain) {d : Diagnostic}
    (hd : d.Legible) : ∀ line ∈ Report.diagnosticLines path d, Printable line := by
  obtain ⟨parts, hparts, hmessage⟩ := hd.message
  rw [diagnosticLines_eq path hparts hmessage]
  intro line hline
  rcases List.mem_cons.mp hline with rfl | hline
  · exact printable_headline hpath d.spot d.severity (trim_firstPart hparts)
      (unbroken_firstPart hparts)
  · obtain ⟨part, hpart, rfl⟩ := List.mem_map.mp hline
    have hpart := hparts.part part (List.mem_of_mem_tail hpart)
    constructor
    · rw [toList_indented]
      simp [hpart.unbroken]
    · rw [toList_indented]
      exact getLast?_append_of_trimmed [' ', ' ', ' '] hpart.trim_eq

/-! ### Reading one diagnostic -/

/-- The diagnostic without the extent of its range. -/
def Diagnostic.atStart (d : Diagnostic) : Diagnostic := { d with range := .point d.range.start }

def Finding.atStart (f : Finding) : Finding := ⟨f.path, f.diagnostic.atStart⟩

def Finding.lines (f : Finding) : List String := Report.diagnosticLines f.path f.diagnostic

/-- A finding whose path can stand in front of a header and whose diagnostic can be written down. -/
structure Finding.Legible (f : Finding) : Prop where
  path : f.path.IsPlain
  diagnostic : f.diagnostic.Legible

theorem texts_map_indented {parts : List String} (h : ∀ p ∈ parts, IsPart p) :
    texts (parts.map indented) = parts := by
  induction parts with
  | nil => rfl
  | cons part parts ih =>
    have hpart := h part (by simp)
    have htrimmed : trimmed (indented part) = part := by
      rw [trimmed, trim_indented, hpart.trim_eq, String.ofList_toList]
    have hvisible : trimmed (indented part) ≠ "" := by
      rw [htrimmed]
      intro hempty
      exact hpart.ne_nil (by rw [hempty]; rfl)
    rw [List.map_cons, texts_cons, texts_of_visible hvisible, htrimmed,
      ih fun p hp => h p (by simp [hp])]
    rfl

theorem bodyOf_append_of_text {body : List String}
    (h : ∀ line ∈ body, (Line.classify line).endsMessage = false) (rest : List String) :
    bodyOf (body ++ rest) = texts body ++ bodyOf rest := by
  induction body with
  | nil => rfl
  | cons line body ih =>
    rw [List.cons_append, bodyOf_cons_of_text (h line (by simp)),
      ih fun l hl => h l (by simp [hl]), texts_cons line body, List.append_assoc]

/-- The first part is on the header, the others are below it. -/
theorem messageOf_firstPart_append {parts : List String} (h : MessageParts parts) :
    (Header.messageOf (firstPart parts)).toList ++ parts.tail = parts := by
  cases parts with
  | nil => rfl
  | cons part parts =>
    have hpart := h.part part (by simp)
    have hmessage : Header.messageOf (firstPart (part :: parts)) = some part := by
      unfold Header.messageOf
      split
      · next hnil =>
        rw [trim_firstPart h] at hnil
        exact absurd hnil hpart.ne_nil
      · rw [trim_firstPart h]
        exact congrArg some String.ofList_toList
    rw [hmessage]
    rfl

/-- Lines that are text report nothing. -/
theorem filterMap_finding?_of_text (rule : HeaderRule) {body : List String}
    (h : ∀ line ∈ body, (Line.classify line).endsMessage = false) (before rest : List String) :
    (cutsAfter before (body ++ rest)).filterMap rule.finding? =
      (cutsAfter (before ++ body) rest).filterMap rule.finding? := by
  induction body generalizing before with
  | nil => simp
  | cons line body ih =>
    have hnone : rule.finding? ⟨before, line, body ++ rest⟩ = none := by
      have hline := h line (by simp)
      unfold HeaderRule.finding?
      split
      · next hheader =>
        rw [hheader] at hline
        cases hline
      · rfl
    rw [List.cons_append, cutsAfter, List.filterMap_cons, hnone,
      ih fun l hl => h l (by simp [hl]), List.append_assoc]
    rfl

/-- Before the first banner, a header with a path and a tag is reported as it stands. -/
theorem rule_of_banners_eq_nil {before : List String} (hbefore : Analyzer.banners before = [])
    (path : Path) (span : Option Span) (severity : Severity) (message : Option String) :
    Analyzer.rule before ⟨.path path, span, some severity, message⟩ = some ⟨path, severity⟩ := by
  have hgov : Analyzer.governing? before = none := by rw [Analyzer.governing?, hbefore]; rfl
  have hfiles : Analyzer.parsedFiles before = [] := by rw [Analyzer.parsedFiles, hbefore]; rfl
  rw [Analyzer.rule, hgov, hfiles, if_neg (by simp)]
  simp [Analyzer.fileOf, Analyzer.severityUnder]

theorem toRange_spot {d : Diagnostic} (hd : d.Legible) :
    Span.toRange ⟨d.spot, none⟩ = .point d.range.start := by
  simp only [Span.toRange, Diagnostic.spot, hd.line, hd.column]

theorem bodyOf_of_boundary {rest : List String}
    (h : ∀ line ∈ rest.head?, (Line.classify line).endsMessage = true) : bodyOf rest = [] := by
  cases rest with
  | nil => rfl
  | cons line rest => exact bodyOf_cons_of_ends (h line rfl) rest

/-- What is printed for a finding is a header and text that does not end its message. -/
theorem exists_lines_eq {f : Finding} (hf : f.Legible) :
    ∃ header body, f.lines = header :: body ∧
      (∀ line ∈ body, (Line.classify line).endsMessage = false) ∧
      ∃ message, Line.classify header =
          .header ⟨.path f.path, some ⟨f.diagnostic.spot, none⟩, some f.diagnostic.severity,
            message⟩ ∧
        f.diagnostic.message = joinLines (message.toList ++ texts body) := by
  obtain ⟨parts, hparts, hmessage⟩ := hf.diagnostic.message
  refine ⟨_, _, diagnosticLines_eq f.path hparts hmessage, ?_, _,
    Line.classify_headline hf.path f.diagnostic.spot f.diagnostic.severity (trim_firstPart hparts)
      (unbroken_firstPart hparts), ?_⟩
  · intro line hline
    obtain ⟨part, hpart, rfl⟩ := List.mem_map.mp hline
    exact hparts.text part hpart
  · rw [texts_map_indented fun p hp => hparts.part p (List.mem_of_mem_tail hp),
      messageOf_firstPart_append hparts]
    exact hmessage

/-- **A printed diagnostic is read back**, at the start of its range, wherever it stands before the
    first banner. -/
theorem filterMap_finding?_lines {before rest : List String}
    (hbefore : Analyzer.banners before = [])
    (hrest : ∀ line ∈ rest.head?, (Line.classify line).endsMessage = true) {f : Finding}
    (hf : f.Legible) :
    (cutsAfter before (f.lines ++ rest)).filterMap Analyzer.rule.finding? =
      f.atStart :: (cutsAfter (before ++ f.lines) rest).filterMap Analyzer.rule.finding? := by
  obtain ⟨header, body, hlines, hbody, message, hheader, hmessage⟩ := exists_lines_eq hf
  have hfinding : Analyzer.rule.finding? ⟨before, header, body ++ rest⟩ = some f.atStart := by
    simp only [HeaderRule.finding?, hheader, rule_of_banners_eq_nil hbefore, Option.map_some,
      Attribution.finding, Option.getD_some, toRange_spot hf.diagnostic,
      bodyOf_append_of_text hbody, bodyOf_of_boundary hrest, List.append_nil, ← hmessage]
    rfl
  rw [hlines, List.cons_append, cutsAfter, List.filterMap_cons, hfinding,
    filterMap_finding?_of_text _ hbody, List.append_assoc]
  rfl

theorem banners_lines {f : Finding} (hf : f.Legible) : Analyzer.banners f.lines = [] := by
  obtain ⟨header, body, hlines, hbody, message, hheader, -⟩ := exists_lines_eq hf
  rw [hlines, Analyzer.banners, List.filterMap_eq_nil_iff]
  intro line hline
  rcases List.mem_cons.mp hline with rfl | hline
  · rw [hheader]
    rfl
  · have htext := hbody line hline
    cases hclassify : Line.classify line with
    | banner sec =>
      rw [hclassify] at htext
      cases htext
    | _ => rfl

/-! ### Reading the whole report -/

/-- The lines of a report are those of its findings, one after the other. -/
theorem findingsLines_eq (f : Findings) :
    Report.findingsLines f = f.log.flatMap Finding.lines := by
  rw [Report.findingsLines, Findings.log, List.flatMap_assoc]
  simp only [List.flatMap_map]
  rfl

section Log

variable {log : List Finding} (hlog : ∀ f ∈ log, f.Legible)
include hlog

/-- What is printed starts with a header. -/
theorem endsMessage_of_head?_lines :
    ∀ line ∈ (log.flatMap Finding.lines).head?, (Line.classify line).endsMessage = true := by
  cases log with
  | nil => simp
  | cons f log =>
    obtain ⟨header, body, hlines, -, message, hheader, -⟩ := exists_lines_eq (hlog f (by simp))
    rw [List.flatMap_cons, hlines]
    rintro line ⟨⟩
    rw [hheader]
    rfl

theorem banners_flatMap_lines : Analyzer.banners (log.flatMap Finding.lines) = [] := by
  induction log with
  | nil => rfl
  | cons f log ih =>
    rw [List.flatMap_cons, Analyzer.banners_append, banners_lines (hlog f (by simp)),
      ih fun g hg => hlog g (by simp [hg])]
    rfl

/-- **Findings that are printed one after the other are read back in this order.** -/
theorem filterMap_finding?_flatMap_lines {before : List String}
    (hbefore : Analyzer.banners before = []) :
    (cutsAfter before (log.flatMap Finding.lines)).filterMap Analyzer.rule.finding? =
      log.map Finding.atStart := by
  induction log generalizing before with
  | nil => rfl
  | cons f log ih =>
    have hf := hlog f (by simp)
    have hrest : ∀ g ∈ log, g.Legible := fun g hg => hlog g (by simp [hg])
    have hnext : Analyzer.banners (before ++ f.lines) = [] := by
      rw [Analyzer.banners_append, hbefore, banners_lines hf]
      rfl
    rw [List.flatMap_cons, filterMap_finding?_lines hbefore (endsMessage_of_head?_lines hrest) hf,
      ih hrest hnext, List.map_cons]

end Log

namespace Findings

def atStarts (f : Findings) : Findings :=
  ⟨f.files.map fun entry => (entry.1, entry.2.map Diagnostic.atStart)⟩

theorem log_atStarts (f : Findings) : f.atStarts.log = f.log.map Finding.atStart := by
  simp only [log, atStarts, List.flatMap_map, List.map_flatMap, List.map_map]
  rfl

theorem tidy_atStarts {f : Findings} (h : Tidy f) : Tidy f.atStarts where
  distinct := by
    have hkeys : Catalog.keys f.atStarts.files = Catalog.keys f.files := by
      simp [Catalog.keys, atStarts]
    rw [Catalog.Distinct, hkeys]
    exact h.distinct
  reported := by
    intro entry hentry
    obtain ⟨old, hold, rfl⟩ := List.mem_map.mp hentry
    simpa using h.reported old hold

theorem mem_log {f : Findings} {finding : Finding} (h : finding ∈ f.log) :
    finding.path ∈ f.paths ∧ finding.diagnostic ∈ f.diagnostics := by
  obtain ⟨entry, hentry, hmem⟩ := List.mem_flatMap.mp h
  obtain ⟨d, hd, rfl⟩ := List.mem_map.mp hmem
  exact ⟨List.mem_map.mpr ⟨entry, hentry, rfl⟩, List.mem_flatMap.mpr ⟨entry, hentry, hd⟩⟩

end Findings

/-- **Printed findings are read back**, and nothing else is found in them. -/
theorem parseText_printed {f : Findings} (htidy : f.Tidy)
    (hlog : ∀ finding ∈ f.log, finding.Legible) :
    Stream.parseText (Analyzer.parser false) (Report.printed (Report.findingsLines f)) =
      ⟨f.atStarts, [], []⟩ := by
  have hprintable : ∀ line ∈ f.log.flatMap Finding.lines, Printable line := by
    intro line hline
    obtain ⟨finding, hfinding, hmem⟩ := List.mem_flatMap.mp hline
    have hlegible := hlog finding hfinding
    exact printable_of_mem_diagnosticLines hlegible.path hlegible.diagnostic line hmem
  rw [Stream.parseText_eq, findingsLines_eq, textLines_printed hprintable]
  apply Analysis.eq_of_parts
  · have hfindings : ((Analyzer.parser false).parse (f.log.flatMap Finding.lines)).findings =
        .ofLog ((cuts (f.log.flatMap Finding.lines)).filterMap Analyzer.rule.finding?) :=
      Analyzer.findings_finish_foldl false Analyzer.reads_initial _
    rw [hfindings, cuts, filterMap_finding?_flatMap_lines hlog rfl, ← Findings.log_atStarts,
      Findings.ofLog_log (Findings.tidy_atStarts htidy)]
  · rw [Analyzer.modules_parse, Analyzer.parsedFiles, banners_flatMap_lines hlog]
    rfl
  · exact Analyzer.obligations_parse_plain _

/-! ### The summary -/

/-- Nothing is printed where nothing was found. -/
theorem findingsLines_of_isEmpty {f : Findings} (h : f.isEmpty = true) :
    Report.findingsLines f = [] := by
  have hnone : f.diagnostics = [] := List.length_eq_zero_iff.mp (f.isEmpty_iff.mp h)
  have hlog : f.log = [] := by
    rw [List.eq_nil_iff_forall_not_mem]
    intro finding hfinding
    have hmem := (Findings.mem_log hfinding).2
    rw [hnone] at hmem
    cases hmem
  rw [findingsLines_eq, hlog]
  rfl

def summary (f : Findings) : String :=
  toString (f.count .error) ++ " error(s), " ++ toString (f.count .warning) ++ " warning(s)"

/-- The summary is there exactly when something was found. -/
theorem summaryLines_eq (f : Findings) :
    Report.summaryLines f = if f.isEmpty then [] else [summary f] := by
  have hsum := f.count_error_add_count_warning
  have hempty := f.isEmpty_iff
  unfold Report.summaryLines
  by_cases h : f.isEmpty = true
  · rw [if_pos h, if_neg (by rw [hsum, hempty.mp h]; decide)]
  · rw [if_neg h, if_pos (by rw [hsum]; exact Nat.pos_of_ne_zero fun h0 => h (hempty.mpr h0))]
    rfl

theorem unbroken_summary (f : Findings) : '\n' ∉ (summary f).toList := by
  have hnumber : ∀ n : Nat, '\n' ∉ Nat.toDigits 10 n := by
    intro n hmem
    exact absurd (Nat.isDigit_of_mem_toDigits (by decide) (by decide) hmem) (by decide)
  simp [summary, hnumber]

/-- **A report on findings** is their lines and then the summary, which is its last line. -/
theorem Report.human_ofFindings (f : Findings) :
    dropLastLine (ofFindings f).human = printed (findingsLines f) ∧
      (ofFindings f).human =
        printed (findingsLines f) ++ (if f.isEmpty then "" else summary f ++ "\n") := by
  have hlines : (ofFindings f).human = printed (findingsLines f ++ summaryLines f) := by
    simp [human, humanLines, ofFindings]
  rw [hlines, summaryLines_eq]
  by_cases h : f.isEmpty = true
  · rw [if_pos h, if_pos h, findingsLines_of_isEmpty h]
    exact ⟨rfl, rfl⟩
  · rw [if_neg h, if_neg h]
    refine ⟨dropLastLine_printed _ (unbroken_summary f), String.toList_injective ?_⟩
    simp

/-! ### The two parsers -/

inductive Reader where
  | transpiler (source : Path)
  | analyzer (extended : Bool)
deriving DecidableEq, Repr

namespace Reader

def findings : Reader → String → Findings
  | .transpiler source, text => Stream.parseText (Transpiler.parser source) text
  | .analyzer extended, text => (Stream.parseText (Analyzer.parser extended) text).findings

def rule : Reader → HeaderRule
  | .transpiler source => Transpiler.rule source
  | .analyzer _ => Analyzer.rule

theorem findings_eq (reader : Reader) (text : String) :
    reader.findings text =
      .ofLog ((cuts (Stream.textLines text)).filterMap reader.rule.finding?) := by
  cases reader with
  | transpiler source =>
    rw [findings, Stream.parseText_eq, Transpiler.parse_eq]
    rfl
  | analyzer extended =>
    rw [findings, Stream.parseText_eq]
    exact Analyzer.findings_finish_foldl extended Analyzer.reads_initial _

/-- What a parser finds can be written down where its paths can. -/
theorem legible_of_mem_log {reader : Reader} {text : String}
    (hpaths : ∀ path ∈ (reader.findings text).paths, path.IsPlain) :
    ∀ finding ∈ (reader.findings text).log, finding.Legible := by
  intro finding hfinding
  obtain ⟨hpath, hdiagnostic⟩ := Findings.mem_log hfinding
  refine ⟨hpaths _ hpath, ?_⟩
  rw [findings_eq] at hdiagnostic
  obtain ⟨origin, horigin, heq⟩ := Findings.mem_diagnostics_ofLog hdiagnostic
  rw [← heq]
  exact legible_of_mem_filterMap (fun line hline => unbroken_of_mem_textLines hline) horigin

end Reader

namespace Report

/-- **The human report can be read back.** Whatever a parser finds in a text, if the paths can stand
    in front of a header, then the report without its last line gives the same findings to the
    analyzer's parser, file by file and in the same order and spelling, with the same severities and
    messages; only the ranges shrink to their starts. The last line is the summary, and there is one
    exactly when something was found. -/
theorem parseText_human (reader : Reader) (text : String)
    (hpaths : ∀ path ∈ (reader.findings text).paths, path.IsPlain) :
    let found := reader.findings text
    let report := (ofFindings found).human
    report = dropLastLine report ++ (if found.isEmpty then "" else summary found ++ "\n") ∧
      Stream.parseText (Analyzer.parser false) (dropLastLine report) =
        ⟨found.atStarts, [], []⟩ := by
  intro found report
  have htidy : found.Tidy := by
    rw [show found = _ from reader.findings_eq text]
    exact Findings.tidy_ofLog _
  obtain ⟨hdrop, hsummary⟩ := human_ofFindings found
  refine ⟨?_, ?_⟩
  · rw [hdrop]
    exact hsummary
  · rw [hdrop]
    exact parseText_printed htidy (Reader.legible_of_mem_log hpaths)

/-- Two spellings of one file, text that looks like a record, and a message without text. -/
theorem parseText_human_of_two_spellings :
    let reader := Reader.transpiler ⟨"lib/Queue.tla"⟩
    let text := "-:2:3-2:9: Error\n  proved=1\r\nlib//Queue.tla:7:1: error"
    let found : Findings := ⟨[(⟨"lib/Queue.tla"⟩,
      [⟨⟨⟨1, 2⟩, ⟨1, 9⟩⟩, .error, "proved=1"⟩, ⟨.point ⟨6, 0⟩, .error, ""⟩])]⟩
    reader.findings text = found ∧
      Stream.parseText (Analyzer.parser false) (dropLastLine (ofFindings found).human) =
        ⟨⟨[(⟨"lib/Queue.tla"⟩,
          [⟨.point ⟨1, 2⟩, .error, "proved=1"⟩, ⟨.point ⟨6, 0⟩, .error, ""⟩])]⟩, [], []⟩ := by
  intro reader text found
  have hfound : reader.findings text = found := by decide +kernel
  have hread := (parseText_human reader text (by rw [hfound]; decide +kernel)).2
  rw [hfound] at hread
  exact ⟨hfound, hread⟩

end Report

end TlaDigest
