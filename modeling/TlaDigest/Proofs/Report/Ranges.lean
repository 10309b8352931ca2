import Mathlib.Data.List.Forall2
import Mathlib.Order.MinMax
import TlaDigest.Proofs.Findings.Histories
import TlaDigest.Proofs.Report.Rereading

/-!
# Ranges that can be printed

A report counts lines and columns from one, so it adds one to words of 32 bits, and it does so
without a check. That the sum never wraps round rests on where the ranges come from: every one of
them is the image of a span under `Span.toRange`, which takes one off first.

`Range.Proper` says what holds of such an image: its end does not precede its start, and its start
can be counted from one. `proper_toRange` proves it for every span, with zeros, with the greatest
word, inverted or without an end, and `fromOne_predecessor` tells what is then printed. The rest of
the file follows the ranges from there: through the parsers and every merge of their findings, with
the header that opened each diagnostic carried along (`Opening`, `Produced`), through the obligations,
and into the proof step that covers them (`proper_foldl`). The main statement is `proper_ranges`.
-/

namespace TlaDigest

open Text

/-! ### The order of positions -/

namespace Position

theorem le_iff (p q : Position) :
    p ≤ q ↔ p.line.toNat < q.line.toNat ∨
      (p.line.toNat = q.line.toNat ∧ p.column.toNat ≤ q.column.toNat) := by
  have hline : p.line = q.line ↔ p.line.toNat = q.line.toNat := UInt32.toNat_inj.symm
  rw [← UInt32.lt_iff_toNat_lt, ← UInt32.le_iff_toNat_le, ← hline]
  exact Iff.rfl

theorem lt_iff (p q : Position) :
    p < q ↔ p.line.toNat < q.line.toNat ∨
      (p.line.toNat = q.line.toNat ∧ p.column.toNat < q.column.toNat) := by
  have hline : p.line = q.line ↔ p.line.toNat = q.line.toNat := UInt32.toNat_inj.symm
  rw [← UInt32.lt_iff_toNat_lt, ← UInt32.lt_iff_toNat_lt, ← hline]
  exact Iff.rfl

theorem eq_iff (p q : Position) :
    p = q ↔ p.line.toNat = q.line.toNat ∧ p.column.toNat = q.column.toNat := by
  rw [UInt32.toNat_inj, UInt32.toNat_inj]
  constructor
  · rintro rfl
    exact ⟨rfl, rfl⟩
  · intro h
    cases p
    cases q
    simp_all

instance : LinearOrder Position where
  le_refl p := by
    rw [le_iff]
    omega
  le_trans p q r hpq hqr := by
    rw [le_iff] at *
    omega
  le_antisymm p q hpq hqp := by
    rw [le_iff] at hpq hqp
    rw [eq_iff]
    omega
  le_total p q := by
    rw [le_iff, le_iff]
    omega
  lt_iff_le_not_ge p q := by
    rw [lt_iff, le_iff, le_iff]
    omega
  toDecidableLE := inferInstance

/-- Both coordinates can be counted from one. -/
structure Countable (p : Position) : Prop where
  line_le : p.line.toNat ≤ UInt32.size - 2
  column_le : p.column.toNat ≤ UInt32.size - 2

end Position

/-! ### Proper ranges -/

/-- The end does not precede the start, and the start can be counted from one. -/
structure Range.Proper (r : Range) : Prop where
  ordered : r.start ≤ r.stop
  countable : r.start.Countable

theorem Range.proper_between {start : Position} (h : start.Countable) (stop : Position) :
    (Range.between start stop).Proper :=
  ⟨le_max_right stop start, h⟩

theorem Range.proper_point {p : Position} (h : p.Countable) : (Range.point p).Proper :=
  ⟨le_refl p, h⟩

/-- The hull of two ranges starts where one of them does. -/
theorem Range.Proper.hull {r s : Range} (hr : r.Proper) (hs : s.Proper) : (r.hull s).Proper := by
  apply Range.proper_between
  rcases min_choice r.start s.start with h | h
  · rw [h]
    exact hr.countable
  · rw [h]
    exact hs.countable

@[simp] theorem toNat_predecessor (n : UInt32) : (predecessor n).toNat = n.toNat - 1 := by
  unfold predecessor
  split
  · next hzero =>
    rw [hzero]
    rfl
  · next hzero =>
    have hone : 1 ≤ n := by
      rw [UInt32.le_iff_toNat_le]
      have : n.toNat ≠ 0 := fun h => hzero (UInt32.toNat_inj.mp h)
      exact Nat.one_le_iff_ne_zero.mpr this
    rw [UInt32.toNat_sub_of_le _ _ hone]
    rfl

theorem countable_predecessor (line column : UInt32) :
    Position.Countable ⟨predecessor line, predecessor column⟩ := by
  have hline := line.toNat_lt_size
  have hcolumn := column.toNat_lt_size
  constructor
  · simp only [toNat_predecessor]
    omega
  · simp only [toNat_predecessor]
    omega

/-- **Every span has a proper range**, whatever its numbers. -/
theorem proper_toRange (span : Span) : span.toRange.Proper := by
  obtain ⟨first, last⟩ := span
  have hstart := countable_predecessor first.line first.column
  cases last with
  | none => exact Range.proper_point hstart
  | some last => exact Range.proper_between hstart _

def Span.rangeOf (span : Option Span) : Range := (span.map Span.toRange).getD (.point ⟨0, 0⟩)

theorem proper_rangeOf (span : Option Span) : (Span.rangeOf span).Proper := by
  cases span with
  | none => exact Range.proper_point (countable_predecessor 0 0)
  | some span => exact proper_toRange span

/-! ### Counting from one -/

/-- Adding one to a coordinate that can be counted from one does not wrap round. -/
theorem toNat_add_one {n : UInt32} (h : n.toNat ≤ UInt32.size - 2) :
    (n + 1).toNat = n.toNat + 1 := by
  have hlt : n.toNat + (1 : UInt32).toNat < UInt32.size := by
    have hone : (1 : UInt32).toNat = 1 := rfl
    have hsize : UInt32.size = 4294967296 := rfl
    omega
  rw [UInt32.toNat_add, Nat.mod_eq_of_lt hlt]
  rfl

/-- A coordinate comes out as it went in, and zero as one. -/
@[simp] theorem fromOne_predecessor (n : UInt32) :
    Report.fromOne (predecessor n) = toString (max 1 n.toNat) := by
  have hsum : (predecessor n + 1).toNat = max 1 n.toNat := by
    rw [toNat_add_one (countable_predecessor n n).line_le, toNat_predecessor]
    omega
  rw [Report.fromOne, hsum]

/-- The line that is shown for a place: one where it is zero or unknown. -/
def Span.shownLine (span : Option Span) : Nat :=
  match span with
  | some span => max 1 span.first.line.toNat
  | none => 1

def Span.shownColumn (span : Option Span) : Nat :=
  match span with
  | some span => max 1 span.first.column.toNat
  | none => 1

/-- **What is printed for a place** is what the tool gave, counted from one. -/
theorem fromOne_start_rangeOf (span : Option Span) :
    Report.fromOne (Span.rangeOf span).start.line = toString (Span.shownLine span) ∧
      Report.fromOne (Span.rangeOf span).start.column = toString (Span.shownColumn span) := by
  cases span with
  | none => exact ⟨fromOne_predecessor 0, fromOne_predecessor 0⟩
  | some span =>
    obtain ⟨first, last⟩ := span
    cases last with
    | none => exact ⟨fromOne_predecessor first.line, fromOne_predecessor first.column⟩
    | some last => exact ⟨fromOne_predecessor first.line, fromOne_predecessor first.column⟩

/-- A range that stands for a place is proper; the sums of its start do not wrap round. -/
structure Range.Stands (r : Range) (span : Option Span) : Prop where
  eq : r = Span.rangeOf span
  proper : r.Proper
  line_succ : (r.start.line + 1).toNat = r.start.line.toNat + 1
  column_succ : (r.start.column + 1).toNat = r.start.column.toNat + 1

theorem stands_rangeOf (span : Option Span) : (Span.rangeOf span).Stands span := by
  have hproper := proper_rangeOf span
  exact ⟨rfl, hproper, toNat_add_one hproper.countable.line_le,
    toNat_add_one hproper.countable.column_le⟩

/-- The first line of a printed diagnostic. -/
theorem head?_diagnosticLines {d : Diagnostic} {span : Option Span} (h : d.range.Stands span)
    (path : Path) :
    (Report.diagnosticLines path d).head? =
      some (path.text ++ ":" ++ toString (Span.shownLine span) ++ ":" ++
        toString (Span.shownColumn span) ++ ": " ++ d.severity.tag ++ ": " ++
        ((Text.lines d.message.toList).map String.ofList).headD "") := by
  obtain ⟨hline, hcolumn⟩ := fromOne_start_rangeOf span
  rw [← h.eq] at hline hcolumn
  rw [← hline, ← hcolumn]
  rfl

theorem obligationLine_eq {r : ObligationRecord} {span : Option Span}
    (h : r.obligation.range.Stands span) :
    Report.obligationLine r =
      "obligation " ++ r.obligation.role ++ " at " ++ toString (Span.shownLine span) ++ ":" ++
        toString (Span.shownColumn span) ++ ": " ++ r.obligation.status ++ " (" ++
        toString r.counts.proved.toNat ++ " of " ++ toString r.counts.total.toNat ++
        " proved, " ++ toString r.counts.failed.toNat ++ " failed)" := by
  obtain ⟨hline, hcolumn⟩ := fromOne_start_rangeOf span
  rw [← h.eq] at hline hcolumn
  rw [← hline, ← hcolumn]
  rfl

/-! ### Diagnostics -/

theorem line_mem_of_mem_cuts {lines : List String} {cut : Cut} (h : cut ∈ cuts lines) :
    cut.line ∈ lines := by
  have hmem : cut.line ∈ (cuts lines).map (·.line) := List.mem_map_of_mem h
  rwa [cuts, map_line_cutsAfter] at hmem

/-- A header where it stands in its stream, with what it is reported as. -/
structure Opening where
  cut : Cut
  header : Header
  attribution : Attribution
  classified : Line.classify cut.line = .header header

/-- What the header reports: nothing but its own place and the text from it on. -/
def Opening.finding (o : Opening) : Finding := o.attribution.finding o.header o.cut.after

theorem Opening.stands (o : Opening) : o.finding.diagnostic.range.Stands o.header.span :=
  stands_rangeOf o.header.span

namespace HeaderRule

def opening? (rule : HeaderRule) (cut : Cut) : Option Opening :=
  match h : Line.classify cut.line with
  | .header header => (rule cut.before header).map fun a => ⟨cut, header, a, h⟩
  | _ => none

theorem map_finding_opening? (rule : HeaderRule) (cut : Cut) :
    (rule.opening? cut).map (·.finding) = rule.finding? cut := by
  unfold opening? finding?
  split
  · next header hline =>
    simp only [hline, Option.map_map]
    rfl
  · next hother =>
    split
    · next header hline => exact absurd hline (hother header)
    · rfl

theorem cut_of_opening? {rule : HeaderRule} {cut : Cut} {o : Opening}
    (h : rule.opening? cut = some o) : o.cut = cut := by
  unfold opening? at h
  split at h
  · obtain ⟨_, -, rfl⟩ := Option.map_eq_some_iff.mp h
    rfl
  · cases h

def openings (rule : HeaderRule) (lines : List String) : List Opening :=
  (cuts lines).filterMap rule.opening?

theorem map_finding_openings (rule : HeaderRule) (lines : List String) :
    (rule.openings lines).map (·.finding) = (cuts lines).filterMap rule.finding? := by
  rw [openings, List.map_filterMap]
  simp only [map_finding_opening?]

theorem line_mem_of_mem_openings {rule : HeaderRule} {lines : List String} {o : Opening}
    (h : o ∈ rule.openings lines) : o.cut.line ∈ lines := by
  obtain ⟨cut, hcut, hopening⟩ := List.mem_filterMap.mp h
  rw [cut_of_opening? hopening]
  exact line_mem_of_mem_cuts hcut

end HeaderRule

namespace Stream

/-- What a parser makes of a stream that comes in chunks. -/
def streamed {σ ω : Type} (p : LineParser σ ω) (chunks : List (List UInt8)) : ω :=
  (chunks.foldl (fun f chunk => f.push p chunk) (Feed.start p)).stop p

theorem streamed_eq {σ ω : Type} (p : LineParser σ ω) (chunks : List (List UInt8)) :
    streamed p chunks = p.parse (lines chunks.flatten) :=
  (Feed.foldl_push_follows chunks (Feed.start_follows p)).stop_eq

end Stream

namespace Reader

def streamed : Reader → List (List UInt8) → Findings
  | .transpiler source, chunks => Stream.streamed (Transpiler.parser source) chunks
  | .analyzer extended, chunks => (Stream.streamed (Analyzer.parser extended) chunks).findings

theorem streamed_eq (reader : Reader) (chunks : List (List UInt8)) :
    reader.streamed chunks =
      .ofLog ((cuts (Stream.lines chunks.flatten)).filterMap reader.rule.finding?) := by
  cases reader with
  | transpiler source => rw [streamed, Stream.streamed_eq, Transpiler.parse_eq]; rfl
  | analyzer extended =>
    rw [streamed, Stream.streamed_eq]
    exact Analyzer.findings_finish_foldl extended Analyzer.reads_initial _

end Reader

/-- Findings that the parsers made of some streams, or that were merged from such findings, with
    the lines of all these streams and the headers that opened a diagnostic. -/
inductive Produced : List String → List Opening → Findings → Prop where
  | streamed (reader : Reader) (chunks : List (List UInt8)) :
      Produced (Stream.lines chunks.flatten)
        (reader.rule.openings (Stream.lines chunks.flatten)) (reader.streamed chunks)
  | merged {lines others : List String} {openings more : List Opening} {f g : Findings} :
      Produced lines openings f → Produced others more g →
        Produced (lines ++ others) (openings ++ more) (f.merge g)

namespace Produced

variable {lines : List String} {openings : List Opening} {f : Findings}

/-- **The findings are what their headers reported**, also after merging. -/
theorem eq_ofLog (h : Produced lines openings f) : f = .ofLog (openings.map (·.finding)) := by
  induction h with
  | streamed reader chunks => rw [Reader.streamed_eq, HeaderRule.map_finding_openings]
  | merged hf hg ihf ihg =>
    rw [ihf, ihg, Findings.merge_ofLog, List.map_append]
    exact (Findings.replay_append _ _ _).symm

theorem line_mem (h : Produced lines openings f) {o : Opening} (ho : o ∈ openings) :
    o.cut.line ∈ lines := by
  induction h with
  | streamed reader chunks => exact HeaderRule.line_mem_of_mem_openings ho
  | merged hf hg ihf ihg =>
    rcases List.mem_append.mp ho with hmem | hmem
    · exact List.mem_append_left _ (ihf hmem)
    · exact List.mem_append_right _ (ihg hmem)

/-- The diagnostics of a file are those of its own headers, in their order. -/
theorem diagnostics_of_mem (h : Produced lines openings f) {entry : Path × List Diagnostic}
    (hentry : entry ∈ f.files) :
    entry.2 =
      (openings.filter fun o => o.finding.path.same entry.1).map (·.finding.diagnostic) := by
  have htidy : f.Tidy := by
    rw [h.eq_ofLog]
    exact Findings.tidy_ofLog _
  have hget : f.get entry.1 = entry.2 := by
    rw [Findings.get, Catalog.get?_of_mem Path.keyTest_same htidy.distinct hentry
      (Path.keyTest_same.refl entry.1)]
    rfl
  rw [← hget, h.eq_ofLog, Findings.get_ofLog, List.filter_map, List.map_map]
  rfl

end Produced

/-! ### Obligations -/

/-- What a partial function finds in a list stands in step with the elements it is defined at. -/
theorem forall₂_filterMap {α β : Type} (f : α → Option β) (as : List α) :
    List.Forall₂ (fun a b => a ∈ as ∧ f a = some b) (as.filter fun a => (f a).isSome)
      (as.filterMap f) := by
  induction as with
  | nil => exact .nil
  | cons a as ih =>
    have hrest := ih.imp fun _ _ h => And.imp_left (List.mem_cons_of_mem a) h
    cases hfa : f a with
    | none => rwa [List.filter_cons_of_neg (by simp [hfa]), List.filterMap_cons_none hfa]
    | some b =>
      rw [List.filter_cons_of_pos (by simp [hfa]), List.filterMap_cons_some hfa]
      exact .cons ⟨List.mem_cons_self, hfa⟩ hrest

namespace Analyzer

def recordCuts (extended : Bool) (lines : List String) : List Cut :=
  if extended then (cuts lines).filter fun cut => (record? cut).isSome else []

/-- The obligations of a run stand in step with the records that opened them. -/
theorem forall₂_recordCuts (extended : Bool) (lines : List String) :
    List.Forall₂ (fun cut r => cut ∈ cuts lines ∧ record? cut = some r)
      (recordCuts extended lines) ((parser extended).parse lines).obligations := by
  cases extended with
  | false =>
    rw [obligations_parse_plain]
    exact .nil
  | true =>
    have hrecords : ((parser true).parse lines).obligations = (cuts lines).filterMap record? :=
      obligations_finish_foldl reads_initial lines
    rw [hrecords]
    exact forall₂_filterMap record? (cuts lines)

/-- An obligation stands for the place on its own record. -/
theorem stands_of_record? {cut : Cut} {r : ObligationRecord} (h : record? cut = some r) :
    ∃ span status inline,
      Line.classify cut.line = .status (.obligation r.obligation.role span status inline) ∧
        r.obligation.range.Stands (some span) := by
  unfold record? at h
  split at h
  · next role span status inline hclassify =>
    split at h
    · cases h
      exact ⟨span, status, inline, hclassify, stands_rangeOf (some span)⟩
    · cases h
  · cases h

theorem proper_of_mem_obligations {extended : Bool} {lines : List String} {r : ObligationRecord}
    (h : r ∈ ((parser extended).parse lines).obligations) : r.obligation.range.Proper := by
  obtain ⟨i, hi, rfl⟩ := List.getElem_of_mem h
  have hstep := forall₂_recordCuts extended lines
  have hcut : i < (recordCuts extended lines).length := hstep.length_eq ▸ hi
  obtain ⟨-, hrecord⟩ := hstep.get hcut hi
  obtain ⟨_, _, _, -, hstands⟩ := stands_of_record? hrecord
  exact hstands.proper

end Analyzer

/-- The hull of proper ranges is proper, however many there are. -/
theorem proper_foldl {records : List ObligationRecord}
    (h : ∀ r ∈ records, r.obligation.range.Proper) {range : Range} (hrange : range.Proper) :
    (records.foldl (fun r record => r.hull record.obligation.range) range).Proper := by
  induction records generalizing range with
  | nil => exact hrange
  | cons record records ih =>
    exact ih (fun r hr => h r (by simp [hr])) (hrange.hull (h record (by simp)))

theorem proper_proofStep? {a : Analysis} (h : ∀ r ∈ a.obligations, r.obligation.range.Proper)
    {path : Path} {step : ProofStep} (hstep : a.proofStep? path = some step) :
    step.range.Proper := by
  unfold Analysis.proofStep? ProofStep.ofRecords? at hstep
  split at hstep
  · cases hstep
  · next first rest hrecords =>
    have hfirst : first ∈ a.obligations := by
      rw [hrecords]
      exact List.mem_cons_self
    cases hstep
    exact proper_foldl h (h first hfirst)

/-! ### What is printed -/

/-- **Every range that is produced is proper and can be printed.** The diagnostics of all streams
    and of all findings merged from them are those of the headers that opened them, one for each;
    file by file they stand in step with the file's headers. So do the obligations with the records
    that opened them. Each stands for the place on its own header or record: its range is proper,
    the sums that the report forms do not wrap round, and it shows the line and the column that the
    tool gave there, or one for what is zero or unknown. The range of a proof step is proper as
    well. -/
theorem proper_ranges :
    (∀ lines openings f, Produced lines openings f →
        f.diagnostics.Perm (openings.map (·.finding.diagnostic)) ∧
        ∀ entry ∈ f.files, List.Forall₂
          (fun o d => o.cut.line ∈ lines ∧ Line.classify o.cut.line = .header o.header ∧
            d = o.finding.diagnostic ∧ d.range.Stands o.header.span ∧
            ∀ path, (Report.diagnosticLines path d).head? =
              some (path.text ++ ":" ++ toString (Span.shownLine o.header.span) ++ ":" ++
                toString (Span.shownColumn o.header.span) ++ ": " ++ d.severity.tag ++ ": " ++
                ((Text.lines d.message.toList).map String.ofList).headD ""))
          (openings.filter fun o => o.finding.path.same entry.1) entry.2) ∧
      ∀ extended chunks,
        List.Forall₂
          (fun cut r => cut.line ∈ Stream.lines chunks.flatten ∧ Analyzer.record? cut = some r ∧
            ∃ span status inline,
              Line.classify cut.line = .status (.obligation r.obligation.role span status inline) ∧
              r.obligation.range.Stands (some span) ∧
              Report.obligationLine r =
                "obligation " ++ r.obligation.role ++ " at " ++
                  toString (Span.shownLine (some span)) ++ ":" ++
                  toString (Span.shownColumn (some span)) ++ ": " ++ r.obligation.status ++
                  " (" ++ toString r.counts.proved.toNat ++ " of " ++
                  toString r.counts.total.toNat ++ " proved, " ++
                  toString r.counts.failed.toNat ++ " failed)")
          (Analyzer.recordCuts extended (Stream.lines chunks.flatten))
          (Stream.streamed (Analyzer.parser extended) chunks).obligations ∧
        ∀ path step,
          (Stream.streamed (Analyzer.parser extended) chunks).proofStep? path = some step →
          step.range.Proper := by
  constructor
  · intro lines openings f hproduced
    constructor
    · have hperm := Findings.diagnostics_ofLog_perm (openings.map (·.finding))
      rwa [← hproduced.eq_ofLog, List.map_map] at hperm
    · intro entry hentry
      rw [hproduced.diagnostics_of_mem hentry, List.forall₂_map_right_iff, List.forall₂_same]
      intro o ho
      exact ⟨hproduced.line_mem (List.mem_of_mem_filter ho), o.classified, rfl, o.stands,
        head?_diagnosticLines o.stands⟩
  · intro extended chunks
    rw [Stream.streamed_eq]
    constructor
    · refine (Analyzer.forall₂_recordCuts extended _).imp ?_
      rintro cut r ⟨hcut, hrecord⟩
      obtain ⟨span, status, inline, hclassify, hstands⟩ := Analyzer.stands_of_record? hrecord
      exact ⟨line_mem_of_mem_cuts hcut, hrecord, span, status, inline, hclassify, hstands,
        obligationLine_eq hstands⟩
    · intro path step hstep
      exact proper_proofStep? (fun r hr => Analyzer.proper_of_mem_obligations hr) hstep

/-- An inverted span at the greatest column. -/
theorem proper_range_of_inverted_span :
    ∃ entry ∈ ((Reader.transpiler ⟨"Queue.tla"⟩).streamed
        (["-:0:42949", "67295-0:7: error: bad\n"].map fun chunk => Utf8.encode chunk.toList)).files,
      ∃ d ∈ entry.2, d.range = ⟨⟨0, 4294967294⟩, ⟨0, 4294967294⟩⟩ ∧ d.range.Proper ∧
        (d.range.start.column + 1).toNat = d.range.start.column.toNat + 1 := by
  have hmem : (⟨⟨"Queue.tla"⟩, [⟨⟨⟨0, 4294967294⟩, ⟨0, 4294967294⟩⟩, .error, "bad"⟩]⟩ :
      Path × List Diagnostic) ∈ ((Reader.transpiler ⟨"Queue.tla"⟩).streamed
        (["-:0:42949", "67295-0:7: error: bad\n"].map fun chunk =>
          Utf8.encode chunk.toList)).files := by
    rw [Reader.streamed_eq]
    decide +kernel
  obtain ⟨o, -, hown, -⟩ := List.forall₂_cons_right_iff.mp
    ((proper_ranges.1 _ _ _ (.streamed _ _)).2 _ hmem)
  obtain ⟨-, -, -, hstands, -⟩ := hown
  exact ⟨_, hmem, _, List.mem_singleton_self _, rfl, hstands.proper, hstands.column_succ⟩

end TlaDigest
