import TlaDigest.Proofs.Analyzer.Obligations
import TlaDigest.Proofs.Analyzer.Reports

/-!
# The obligation report and the diagnostics do not interfere

What a run says of the diagnostics is held in one part of the state (`State.outer`), what it says of
the obligations in another (`State.inner`); the two share the phase alone.

For each part, two facts about one line are enough. Equal parts stay equal, whatever the rest of the
state is and, for the diagnostics, in whichever modes the two parsers run (`outer_feed`,
`inner_feed`). And a line on the other side of the banners leaves the part alone
(`outer_feed_of_report`, `inner_feed_of_outside`). `view_foldl_without` turns such a pair into a
statement on whole runs: lines that leave a part alone may be left out. The main statement is
`parse_separation`.
-/

namespace TlaDigest.Analyzer

/-! ### Leaving lines out -/

/-- A line inside the obligation report: no banner, and governed by the one that announces it. -/
def inReport (cut : Cut) : Bool :=
  (Line.classify cut.line).banner?.isNone && decide (governing? cut.before = some .obligations)

def offReport (cut : Cut) : Bool :=
  (Line.classify cut.line).banner?.isNone && !decide (governing? cut.before = some .obligations)

/-- The lines that are left when those that `drop` picks are deleted; the lines `before` stand in
    front of them. -/
def withoutAfter (drop : Cut → Bool) (before lines : List String) : List String :=
  ((cutsAfter before lines).filter fun cut => !drop cut).map (·.line)

def without (drop : Cut → Bool) (lines : List String) : List String := withoutAfter drop [] lines

theorem withoutAfter_cons (drop : Cut → Bool) (before : List String) (line : String)
    (rest : List String) :
    withoutAfter drop before (line :: rest) =
      if drop ⟨before, line, rest⟩ then withoutAfter drop (before ++ [line]) rest
      else line :: withoutAfter drop (before ++ [line]) rest := by
  rw [withoutAfter, cutsAfter, List.filter_cons]
  cases drop ⟨before, line, rest⟩ <;> rfl

theorem without_of_none (lines : List String) : without (fun _ => false) lines = lines := by
  have hkeep : (cuts lines).filter (fun _ => !false) = cuts lines :=
    List.filter_eq_self.mpr fun _ _ => rfl
  rw [without, withoutAfter, ← cuts, hkeep, cuts, map_line_cutsAfter]

/-- **Lines that leave a view alone may be left out.** The two runs may be in different modes, when
    the view does not tell these apart. -/
theorem view_foldl_without {α : Type} {view : State → α} {drop : Cut → Bool}
    {extended extended' : Bool}
    (hsame : ∀ {before before'} {s t : State} (line : String), Reads before s → Reads before' t →
      view s = view t → view (feed extended s line) = view (feed extended' t line))
    (hdrop : ∀ {cut : Cut} {s : State}, Reads cut.before s → drop cut = true →
      view (feed extended s cut.line) = view s)
    {before before' : List String} {s t : State} (hs : Reads before s) (ht : Reads before' t)
    (h : view s = view t) (rest : List String) :
    view (rest.foldl (feed extended) s) =
      view ((withoutAfter drop before rest).foldl (feed extended') t) := by
  -- on the lines; the second run stands still where a line is left out
  induction rest generalizing before before' s t with
  | nil => exact h
  | cons line rest ih =>
    have hnext := reads_feed extended hs line
    rw [withoutAfter_cons]
    by_cases hline : drop ⟨before, line, rest⟩ = true
    · rw [if_pos hline]
      exact ih hnext ht ((hdrop hs hline).trans h)
    · rw [if_neg hline]
      exact ih hnext (reads_feed extended' ht line) (hsame line hs ht h)

/-! ### The diagnostics -/

/-- The part of a state that the diagnostics depend on. -/
def State.outer (s : State) : (Phase × Option Path × Catalog String Path) × Desk :=
  (s.frame, s.desk)

/-- A banner settles the draft, sets the phase, and enters its file when it names one. -/
@[simp] theorem outer_enter (s : State) (sec : Section) :
    (s.enter sec).outer =
      ((.ofSection sec, sec.file?.or s.lastParsed,
        (sec.file?.map (enterFile s.output.modules)).getD s.output.modules),
        ⟨none, s.desk.settled⟩) := by
  unfold State.enter
  rw [close_eq]
  cases sec with
  | parsing file => cases file <;> rfl
  | _ => rfl

@[simp]
theorem outer_takeStatus (s : State) (status : Status) : (s.takeStatus status).outer = s.outer := by
  rw [State.outer, frame_takeStatus, desk_takeStatus]
  rfl

/-- Text goes to the draft, except in the obligation report. -/
theorem outer_addText (s : State) (extended : Bool) (text : String) :
    (s.addText extended text).outer =
      if s.phase = .obligations then s.outer
      else (s.frame, ⟨s.draft.map (·.push text), s.output.findings⟩) := by
  rw [State.outer, frame_addText, desk_addText]
  split <;> rfl

theorem outer_takeHeader (s : State) (h : Header) :
    (s.takeHeader h).outer =
      (s.frame, ⟨some (.start ⟨s.resolve h.target, h.span⟩ (s.phase.severity h) h.message),
        s.desk.settled⟩) := rfl

/-- The file of a header is found through the files alone. -/
theorem resolve_congr {s t : State} (hlast : s.lastParsed = t.lastParsed)
    (hmodules : s.output.modules = t.output.modules) (target : Target) :
    s.resolve target = t.resolve target := by
  cases target with
  | path path => simp only [State.resolve, hlast]
  | module name => simp only [State.resolve, hlast, hmodules]

/-- **Equal parts stay equal**, also when the two parsers run in different modes. -/
theorem outer_feed (extended extended' : Bool) {s t : State} (line : String)
    (h : s.outer = t.outer) : (feed extended s line).outer = (feed extended' t line).outer := by
  have hparts := h
  simp only [State.outer, State.frame, Prod.mk.injEq] at hparts
  obtain ⟨⟨hphase, hlast, hmodules⟩, hdesk⟩ := hparts
  have htext : ∀ text, (s.addText extended text).outer = (t.addText extended' text).outer := by
    intro text
    rw [outer_addText, outer_addText, ← hphase, h]
    simp only [State.desk, Desk.mk.injEq] at hdesk
    rw [State.frame, State.frame, hphase, hlast, hmodules, hdesk.1, hdesk.2]
  unfold feed
  cases Line.classify line with
  | banner sec =>
    simp only [outer_enter]
    rw [hlast, hmodules, hdesk]
  | header header =>
    simp only [← hphase]
    split
    · exact htext line
    · rw [outer_takeHeader, outer_takeHeader, resolve_congr hlast hmodules, hphase, hdesk,
        State.frame, State.frame, hphase, hlast, hmodules]
  | status status =>
    simp only [← hphase]
    split
    · have hs : (if extended then s.takeStatus status else s).outer = s.outer := by
        split
        · exact outer_takeStatus s status
        · rfl
      have ht : (if extended' then t.takeStatus status else t).outer = t.outer := by
        split
        · exact outer_takeStatus t status
        · rfl
      rw [hs, ht, h]
    · exact htext line
  | message text => exact htext text
  | unrecognized text => exact htext text

/-- In the obligation report only a banner touches the diagnostics. -/
theorem outer_feed_of_report (extended : Bool) {s : State} (hphase : s.phase = .obligations)
    {line : String} (hline : (Line.classify line).banner? = none) :
    (feed extended s line).outer = s.outer := by
  have htext : ∀ text, (s.addText extended text).outer = s.outer := by
    intro text
    rw [outer_addText, if_pos hphase]
  unfold feed
  cases hkind : Line.classify line with
  | banner sec => simp [hkind, Line.banner?] at hline
  | header header =>
    simp only [if_pos hphase]
    exact htext line
  | status status =>
    simp only [if_pos hphase]
    split
    · exact outer_takeStatus s status
    · rfl
  | message text => exact htext text
  | unrecognized text => exact htext text

/-- The result shows the outer part only through the findings and the modules. -/
theorem findings_modules_of_outer {s t : State} (h : s.outer = t.outer) :
    (finish s).findings = (finish t).findings ∧ (finish s).modules = (finish t).modules := by
  simp only [State.outer, State.frame, Prod.mk.injEq] at h
  obtain ⟨⟨-, -, hmodules⟩, hdesk⟩ := h
  constructor
  · rw [findings_finish, findings_finish, hdesk]
  · rw [finish, finish, close_eq, close_eq]
    exact hmodules

/-! ### The obligations -/

/-- The part of a state that the obligations depend on. -/
def State.inner (s : State) : Phase × Ledger := (s.phase, s.ledger)

theorem phase_feed (extended : Bool) (s : State) (line : String) :
    (feed extended s line).phase =
      ((Line.classify line).banner?.map Phase.ofSection).getD s.phase := by
  cases hbanner : (Line.classify line).banner? with
  | none => exact congrArg Prod.fst (frame_feed extended s hbanner)
  | some sec =>
    have hline : Line.classify line = .banner sec := by
      cases hkind : Line.classify line <;> simp_all [Line.banner?]
    simp only [feed, hline]
    rfl

/-- **Equal parts stay equal.** -/
theorem inner_feed {before before' : List String} {s t : State} (line : String)
    (hs : Reads before s) (ht : Reads before' t) (h : s.inner = t.inner) :
    (feed true s line).inner = (feed true t line).inner := by
  simp only [State.inner, Prod.mk.injEq] at h ⊢
  obtain ⟨hphase, hledger⟩ := h
  refine ⟨by rw [phase_feed, phase_feed, hphase], ?_⟩
  by_cases hreport : s.phase = .obligations
  · rw [ledger_feed_of_obligations hreport, ledger_feed_of_obligations (hphase ▸ hreport), hledger]
  · rw [ledger_feed_of_outside hs hreport, ledger_feed_of_outside ht (hphase ▸ hreport), hledger]

/-- Outside the obligation report only a banner touches what the obligations depend on. -/
theorem inner_feed_of_outside {before : List String} {s : State} (hs : Reads before s)
    (hphase : s.phase ≠ .obligations) {line : String}
    (hline : (Line.classify line).banner? = none) : (feed true s line).inner = s.inner := by
  rw [State.inner, ledger_feed_of_outside hs hphase, phase_feed, hline]
  rfl

theorem obligations_of_inner {s t : State} (h : s.inner = t.inner) :
    (finish s).obligations = (finish t).obligations := by
  have hledger : s.ledger = t.ledger := congrArg Prod.snd h
  rw [obligations_finish, obligations_finish, hledger]

/-- Outside extended mode no line opens an obligation. -/
theorem ledger_feed_of_plain {s : State} (h : s.ledger = ⟨none, []⟩) (line : String) :
    (feed false s line).ledger = ⟨none, []⟩ := by
  have htext : ∀ text, (s.addText false text).ledger = ⟨none, []⟩ := by
    intro text
    unfold State.addText
    split
    · exact h
    · exact h
  unfold feed
  cases Line.classify line with
  | banner sec =>
    rw [ledger_enter, h]
    rfl
  | header header =>
    simp only
    split
    · exact htext line
    · exact h
  | status status =>
    simp only
    split
    · exact h
    · exact htext line
  | message text => exact htext text
  | unrecognized text => exact htext text

theorem ledger_foldl_of_plain {s : State} (h : s.ledger = ⟨none, []⟩) (lines : List String) :
    (lines.foldl (feed false) s).ledger = ⟨none, []⟩ := by
  induction lines generalizing s with
  | nil => exact h
  | cons line lines ih => exact ih (ledger_feed_of_plain h line)

theorem obligations_parse_plain (lines : List String) :
    ((parser false).parse lines).obligations = [] := by
  have hledger : (lines.foldl (feed false) .initial).ledger = ⟨none, []⟩ :=
    ledger_foldl_of_plain rfl lines
  have hfinish : ((parser false).parse lines).obligations =
      (lines.foldl (feed false) .initial).ledger.expected [] := obligations_finish _
  rw [hfinish, hledger]
  rfl

/-! ### Whole runs -/

/-- Any two runs agree on the diagnostics, whatever their modes, when one of them leaves out lines
    of the obligation report. -/
theorem outer_after_without (drop : Cut → Bool)
    (hdrop : ∀ cut, drop cut = true → inReport cut = true) (extended extended' : Bool)
    (lines : List String) :
    ((parser extended).after lines).outer =
      ((parser extended').after (without drop lines)).outer := by
  refine view_foldl_without (fun line _ _ h => outer_feed extended extended' line h) ?_
    reads_initial reads_initial rfl lines
  intro cut s hs hcut
  obtain ⟨hline, hgov⟩ := Bool.and_eq_true_iff.mp (hdrop cut hcut)
  exact outer_feed_of_report extended (hs.phase_eq_obligations_iff.mpr (of_decide_eq_true hgov))
    (Option.isNone_iff_eq_none.mp hline)

/-- A run in extended mode has the obligations that it has without the other lines. -/
theorem inner_after_without (lines : List String) :
    ((parser true).after lines).inner = ((parser true).after (without offReport lines)).inner := by
  refine view_foldl_without inner_feed ?_ reads_initial reads_initial rfl lines
  intro cut s hs hcut
  obtain ⟨hline, hgov⟩ := Bool.and_eq_true_iff.mp hcut
  have hphase : s.phase ≠ .obligations := by
    intro heq
    simp [hs.phase_eq_obligations_iff.mp heq] at hgov
  exact inner_feed_of_outside hs hphase (Option.isNone_iff_eq_none.mp hline)

/-- Two parsers in different modes agree on the diagnostics after any lines. -/
theorem outer_after (extended extended' : Bool) (lines : List String) :
    ((parser extended).after lines).outer = ((parser extended').after lines).outer := by
  have hsame := outer_after_without (fun _ => false) (by simp) extended extended' lines
  rwa [without_of_none] at hsame

/-- **Obligations and diagnostics do not interfere.** The two modes are in the same phase after
    every line and end with the same diagnostics and modules; outside extended mode there are no
    obligations. In either mode, deleting the lines of the obligation report, except its banners,
    changes neither diagnostics nor modules, and deleting those outside of it, except the banners,
    does not change the obligations. -/
theorem parse_separation (lines : List String) :
    (∀ n, ((parser false).after (lines.take n)).phase =
        ((parser true).after (lines.take n)).phase) ∧
      ((parser false).parse lines).findings = ((parser true).parse lines).findings ∧
      ((parser false).parse lines).modules = ((parser true).parse lines).modules ∧
      ((parser false).parse lines).obligations = [] ∧
      ∀ extended,
        ((parser extended).parse (without inReport lines)).findings =
            ((parser extended).parse lines).findings ∧
          ((parser extended).parse (without inReport lines)).modules =
            ((parser extended).parse lines).modules ∧
          ((parser extended).parse (without offReport lines)).obligations =
            ((parser extended).parse lines).obligations := by
  obtain ⟨hfindings, hmodules⟩ := findings_modules_of_outer (outer_after false true lines)
  refine ⟨?_, hfindings, hmodules, obligations_parse_plain lines, ?_⟩
  · intro n
    exact congrArg (·.1.1) (outer_after false true (lines.take n))
  · intro extended
    obtain ⟨hfindings', hmodules'⟩ := findings_modules_of_outer
      (outer_after_without inReport (fun _ h => h) extended extended lines)
    refine ⟨hfindings'.symm, hmodules'.symm, ?_⟩
    cases extended with
    | false => rw [obligations_parse_plain, obligations_parse_plain]
    | true => exact (obligations_of_inner (inner_after_without lines)).symm

end TlaDigest.Analyzer
