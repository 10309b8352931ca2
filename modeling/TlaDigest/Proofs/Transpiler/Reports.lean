import TlaDigest.Proofs.Messages
import TlaDigest.Transpiler

/-!
# What the transpiler's output amounts to

Every header is one error, and there are no others: `parse_eq_ofLog` gives the findings of a run as
the log of its headers, each with the text that follows it. The state of the parser is a desk, and
`desk_feed` says that a line does to it what the desk allows; the log is then the one of
`Desk.settled_run`. Where no draft is open, only a header changes anything, so other lines there
leave no trace (`foldl_feed_of_idle`).
-/

namespace TlaDigest.Transpiler

open Text

/-! ### The reading that looks ahead -/

def fileOf (source : Path) : Target → Path
  | .path path => if path.text = "-" then source else path
  | .module name => source.sibling (name ++ ".tla")

/-- Every header is an error, whatever its tag. -/
def rule (source : Path) : HeaderRule := fun _ h => some ⟨fileOf source h.target, .error⟩

theorem resolve_eq_fileOf (source : Path) (target : Target) :
    resolve source target = fileOf source target := by
  cases target with
  | path path =>
    obtain ⟨text⟩ := path
    simp [resolve, fileOf, Header.inputPath]
  | module name => rfl

theorem isSome_finding? (source : Path) (cut : Cut) :
    ((rule source).finding? cut).isSome = (Line.classify cut.line).isHeader := by
  unfold HeaderRule.finding?
  cases Line.classify cut.line <;> rfl

/-! ### One line -/

def State.desk (s : State) : Desk := ⟨s.draft, s.findings⟩

@[simp] theorem desk_addText (s : State) (text : String) :
    (s.addText text).desk = ⟨s.draft.map (·.push text), s.findings⟩ := rfl

/-- **A line does to the state what the desk allows.** -/
theorem desk_feed (source : Path) (before : List String) (s : State) (line : String) :
    (feed source s line).desk = s.desk.take (rule source) before line := by
  unfold feed Desk.take
  cases hline : Line.classify line with
  | header h =>
    simp only [resolve_eq_fileOf]
    rfl
  | banner sec => rfl
  | message text =>
    have htext := Line.eq_trimmed_of_classify_message hline
    simp only [htext, desk_addText, Draft.push_trimmed]
    rfl
  | unrecognized text =>
    have htext := Line.eq_of_classify_unrecognized hline
    simp only [htext]
    rfl
  | status status => rfl

/-! ### A whole run -/

/-- The findings of a run that goes on from some state: what its draft still amounts to, and then
    the log of the lines to come. -/
theorem finish_foldl_feed (source : Path) (before rest : List String) (s : State) :
    finish (rest.foldl (feed source) s) =
      (s.desk.expected rest).replay ((cutsAfter before rest).filterMap (rule source).finding?) := by
  have hdesk : (rest.foldl (feed source) s).desk = Desk.run (rule source) before rest s.desk :=
    Desk.view_foldl (fun _ _ => True) (fun _ _ _ _ => trivial)
      (fun before s line _ => desk_feed source before s line) trivial rest
  have hsettled : finish (rest.foldl (feed source) s) =
      (rest.foldl (feed source) s).desk.settled := rfl
  rw [hsettled, hdesk, Desk.settled_run]

/-- The findings of a whole run are the log of its headers. -/
theorem parse_eq (source : Path) (lines : List String) :
    (parser source).parse lines = .ofLog ((cuts lines).filterMap (rule source).finding?) :=
  finish_foldl_feed source [] lines .initial

/-! ### Lines without a trace -/

theorem draft_feed_of_banner (source : Path) (s : State) {line : String}
    (h : (Line.classify line).isBanner = true) : (feed source s line).draft = none := by
  unfold feed
  cases hline : Line.classify line with
  | banner sec => rfl
  | _ => simp [hline, Line.isBanner] at h

/-- Before the first line and after a banner no draft is open. -/
theorem draft_foldl_feed (source : Path) {before : List String}
    (h : ∀ line ∈ before.getLast?, (Line.classify line).isBanner = true) :
    (before.foldl (feed source) .initial).draft = none := by
  rcases List.eq_nil_or_concat before with rfl | ⟨earlier, line, rfl⟩
  · rfl
  · rw [List.concat_eq_append, List.foldl_append]
    exact draft_feed_of_banner source _ (h line (by simp))

/-- Without a draft, only a header changes anything. -/
theorem foldl_feed_of_idle (source : Path) {s : State} (hs : s.draft = none) {stray : List String}
    (h : ∀ line ∈ stray, (Line.classify line).isHeader = false) :
    stray.foldl (feed source) s = s := by
  obtain ⟨draft, findings⟩ := s
  subst hs
  induction stray with
  | nil => rfl
  | cons line stray ih =>
    have hfeed : feed source ⟨none, findings⟩ line = ⟨none, findings⟩ := by
      have hline := h line (by simp)
      unfold feed
      cases hkind : Line.classify line with
      | header header => simp [hkind, Line.isHeader] at hline
      | _ => rfl
    rw [List.foldl_cons, hfeed]
    exact ih fun l hl => h l (by simp [hl])

/-- Lines before the first header, and lines between a banner and the next header, may be left
    out. -/
theorem parse_of_idle (source : Path) {before stray : List String} (after : List String)
    (hbefore : ∀ line ∈ before.getLast?, (Line.classify line).isBanner = true)
    (hstray : ∀ line ∈ stray, (Line.classify line).isHeader = false) :
    (parser source).parse (before ++ stray ++ after) = (parser source).parse (before ++ after) := by
  have hstate : (parser source).after (before ++ stray ++ after) =
      (parser source).after (before ++ after) := by
    simp only [LineParser.after, List.foldl_append]
    congr 1
    exact foldl_feed_of_idle source (draft_foldl_feed source hbefore) hstray
  rw [LineParser.parse, hstate, LineParser.parse]

/-- As many cuts report something as there are headers. -/
theorem length_log (source : Path) (lines : List String) :
    ((cuts lines).filterMap (rule source).finding?).length =
      lines.countP fun line => (Line.classify line).isHeader := by
  have hcount : ∀ all : List Cut, (all.filterMap (rule source).finding?).length =
      (all.map (·.line)).countP fun line => (Line.classify line).isHeader := by
    intro all
    rw [List.length_filterMap_eq_countP, List.countP_map]
    congr 1
    funext cut
    exact isSome_finding? source cut
  rw [hcount, cuts, map_line_cutsAfter]

/-- **The errors of a run are its headers.** The findings are those of the log with one error for
    each header, which holds the text up to the next header or banner. Their number is the number of
    headers, and the lines before the first header or between a banner and the next header leave no
    trace. -/
theorem parse_eq_ofLog (source : Path) (lines : List String) :
    (parser source).parse lines = .ofLog ((cuts lines).filterMap (rule source).finding?) ∧
      ((parser source).parse lines).size =
        (lines.countP fun line => (Line.classify line).isHeader) ∧
      ∀ before stray after : List String, lines = before ++ stray ++ after →
        (∀ line ∈ before.getLast?, (Line.classify line).isBanner = true) →
        (∀ line ∈ stray, (Line.classify line).isHeader = false) →
        (parser source).parse lines = (parser source).parse (before ++ after) := by
  refine ⟨parse_eq source lines, ?_, ?_⟩
  · rw [parse_eq, Findings.size_ofLog, length_log]
  · rintro before stray after rfl hbefore hstray
    exact parse_of_idle source after hbefore hstray

theorem parse_of_noise_after_banner :
    (parser ⟨"Queue.tla"⟩).parse ["Parsing completed.", "noise", "-:1:2: error: bad"] =
      (parser ⟨"Queue.tla"⟩).parse ["Parsing completed.", "-:1:2: error: bad"] := by
  refine (parse_eq_ofLog ⟨"Queue.tla"⟩ _).2.2 ["Parsing completed."] ["noise"] ["-:1:2: error: bad"]
    rfl ?_ ?_
  · intro line hline
    cases hline
    decide +kernel
  · decide +kernel

end TlaDigest.Transpiler
