import TlaDigest.Proofs.Analyzer.Banners
import TlaDigest.Proofs.Messages

/-!
# The diagnostics of an analyzer run

Outside the obligation report every header is one diagnostic, and there are no others:
`findings_parse` gives them as the log of these headers. The section that governs a header settles
how serious it is, and the banners before it settle its file.

As for the transpiler, the state holds a desk (`State.desk`), and `desk_feed` says that a line does
to it what the desk allows. In the obligation report the desk stays empty, so the headers, records
and texts there do nothing to it, although they take other ways through the parser.
-/

namespace TlaDigest.Analyzer

/-! ### The reading that looks ahead -/

/-- How serious a header is under a governing section. Its own tag counts outside all sections
    only. -/
def severityUnder (sec : Option Section) (tag : Option Severity) : Severity :=
  match sec with
  | some .semanticWarnings => .warning
  | some (.parsing _) => .error
  | some .semanticErrors => .error
  | _ => tag.getD .error

/-- Headers count outside the obligation report. The banners before a header give its file, and the
    last of them how serious it is. -/
def rule : HeaderRule := fun before h =>
  if governing? before = some .obligations then none
  else some ⟨fileOf (parsedFiles before) h.target, severityUnder (governing? before) h.severity⟩

/-- Outside the obligation report, the phase gives the severity that the section does. -/
theorem severity_phaseUnder (sec : Option Section) (h : Header) :
    (phaseUnder sec).severity h = severityUnder sec h.severity := by
  cases sec with
  | none => rfl
  | some sec => cases sec <;> rfl

/-! ### One line -/

def State.desk (s : State) : Desk := ⟨s.draft, s.output.findings⟩

@[simp] theorem desk_close (s : State) (counts : Tally) : (s.close counts).desk = s.desk := by
  rw [close_eq]
  rfl

@[simp]
theorem desk_enter (s : State) (sec : Section) : (s.enter sec).desk = ⟨none, s.desk.settled⟩ := by
  have hclose : (s.settle.close .zero).desk = ⟨none, s.desk.settled⟩ := desk_close s.settle .zero
  unfold State.enter
  split
  · exact hclose
  · exact hclose

@[simp]
theorem desk_takeStatus (s : State) (status : Status) : (s.takeStatus status).desk = s.desk := by
  cases status with
  | obligation role span status normalized => exact desk_close s .zero
  | prover name method status reason => rfl
  | tally counts => exact desk_close s counts

/-- Text goes to the draft, except in the obligation report. -/
@[simp] theorem desk_addText (s : State) (extended : Bool) (text : String) :
    (s.addText extended text).desk =
      if s.phase = .obligations then s.desk
      else ⟨s.draft.map (·.push text), s.output.findings⟩ := by
  unfold State.addText
  split
  · split <;> rfl
  · rfl

/-- In the obligation report a desk without a draft is not changed by any line. -/
theorem take_of_obligations {before : List String} (hgov : governing? before = some .obligations)
    {d : Desk} (hdraft : d.draft = none) (line : String) : d.take rule before line = d := by
  obtain ⟨draft, findings⟩ := d
  subst hdraft
  unfold Desk.take
  cases Line.classify line with
  | header h => simp [rule, hgov, Desk.settled, Findings.settle]
  | _ => rfl

/-- **A line does to the state what the desk allows.** -/
theorem desk_feed (extended : Bool) {before : List String} {s : State} (h : Reads before s)
    (line : String) : (feed extended s line).desk = s.desk.take rule before line := by
  by_cases hphase : s.phase = .obligations
  · -- the draft is empty here, and no line changes the desk
    have hdraft : s.desk.draft = none := h.draft_eq hphase
    have htext : ∀ text, (s.addText extended text).desk = s.desk := by simp [hphase]
    rw [take_of_obligations (h.phase_eq_obligations_iff.mp hphase) hdraft]
    unfold feed
    cases Line.classify line with
    | banner sec =>
      have hdesk : s.desk = ⟨none, s.output.findings⟩ := by rw [State.desk, h.draft_eq hphase]
      rw [desk_enter, hdesk]
      rfl
    | header header =>
      simp only [if_pos hphase]
      exact htext line
    | status status =>
      simp only [if_pos hphase]
      split
      · exact desk_takeStatus s status
      · rfl
    | message text => exact htext text
    | unrecognized text => exact htext text
  · have hgov : ¬ governing? before = some .obligations := fun hsec =>
      hphase (h.phase_eq_obligations_iff.mpr hsec)
    have htext : ∀ text, (s.addText extended text).desk =
        ⟨s.draft.map (·.push text), s.output.findings⟩ := by simp [hphase]
    unfold feed Desk.take
    cases hline : Line.classify line with
    | banner sec => exact desk_enter s sec
    | header header =>
      simp only [if_neg hphase, rule, if_neg hgov, Option.map_some, State.takeHeader]
      rw [h.resolve_eq, h.phase_eq, severity_phaseUnder]
      rfl
    | status status =>
      simp only [if_neg hphase]
      exact htext line
    | message text =>
      have htrim := Line.eq_trimmed_of_classify_message hline
      simp only [htrim, htext, Draft.push_trimmed]
      rfl
    | unrecognized text =>
      have hsame := Line.eq_of_classify_unrecognized hline
      simp only [hsame]
      exact htext line

/-! ### A whole run -/

@[simp] theorem findings_finish (s : State) : (finish s).findings = s.desk.settled := by
  rw [finish, close_eq]
  rfl

theorem desk_foldl (extended : Bool) {before : List String} {s : State} (h : Reads before s)
    (rest : List String) :
    (rest.foldl (feed extended) s).desk = Desk.run rule before rest s.desk :=
  Desk.view_foldl Reads (fun _ _ line hreads => reads_feed extended hreads line)
    (fun _ _ line hreads => desk_feed extended hreads line) h rest

/-- The findings of a run that goes on from some state: what its draft still amounts to, and then
    the log of the lines to come. -/
theorem findings_finish_foldl (extended : Bool) {before : List String} {s : State}
    (h : Reads before s) (rest : List String) :
    (finish (rest.foldl (feed extended) s)).findings =
      (s.desk.expected rest).replay ((cutsAfter before rest).filterMap rule.finding?) := by
  rw [findings_finish, desk_foldl extended h, Desk.settled_run]

/-- **The diagnostics of a run are its headers outside the obligation report.** In either mode they
    are those of the log with one diagnostic for each such header, in the order of the lines. -/
theorem findings_parse (extended : Bool) (lines : List String) :
    ((parser extended).parse lines).findings = .ofLog ((cuts lines).filterMap rule.finding?) :=
  findings_finish_foldl extended reads_initial lines

end TlaDigest.Analyzer
