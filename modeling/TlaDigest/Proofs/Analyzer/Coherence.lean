import TlaDigest.Proofs.Analyzer.Banners

/-!
# Coherent states

What the parts of an analyzer state can be at the same time. An obligation is open in extended mode
only, and only in the obligation report; there no draft is open; and the place where the next text
of an open obligation goes agrees with the results that it has.

Each handler changes one or two of these parts, and none of the three facts is kept on its own: that
a header may open a draft rests on there being no obligation open outside the report, and that text
finds its result rests on where the last prover line left the place. So they are one invariant
(`State.Coherent`). A banner restores it, every other handler keeps it, and so does a line
(`coherent_feed`) and a run (`coherent_foldl`). The main statement is `coherent_after`.
-/

namespace TlaDigest.Analyzer

/-! ### Open obligations -/

namespace OpenObligation

/-- The place for text is the obligation itself before the first result, and the last result from
    then on. -/
structure Aligned (o : OpenObligation) : Prop where
  normalized_iff : o.slot = .normalized ↔ o.obligation.results = []
  succ_index : ∀ index, o.slot = .result index → index + 1 = o.obligation.results.length

theorem aligned_of_opened {o : Obligation} (h : o.results = []) : Aligned ⟨o, .normalized⟩ := by
  constructor
  · exact ⟨fun _ => h, fun _ => rfl⟩
  · intro index hslot
    cases hslot

theorem aligned_addResult (o : OpenObligation) (r : ProverResult) : (o.addResult r).Aligned := by
  constructor
  · constructor
    · intro hslot
      cases hslot
    · intro hnil
      simp [addResult] at hnil
  · intro index hslot
    cases hslot
    simp [addResult]

/-- Text moves neither the place nor the number of results. -/
theorem slot_addText (o : OpenObligation) (text : String) :
    (o.addText text).slot = o.slot ∧
      (o.addText text).obligation.results.length = o.obligation.results.length := by
  obtain ⟨obligation, slot⟩ := o
  unfold addText
  split
  · exact ⟨rfl, rfl⟩
  · cases slot with
    | normalized => exact ⟨rfl, rfl⟩
    | result index => exact ⟨rfl, List.length_modify ..⟩

theorem Aligned.addText {o : OpenObligation} (h : o.Aligned) (text : String) :
    (o.addText text).Aligned := by
  obtain ⟨hslot, hlength⟩ := slot_addText o text
  constructor
  · rw [hslot, ← List.length_eq_zero_iff, hlength, List.length_eq_zero_iff]
    exact h.normalized_iff
  · intro index hindex
    rw [hlength]
    exact h.succ_index index (hslot ▸ hindex)

end OpenObligation

/-! ### States -/

structure State.Coherent (extended : Bool) (s : State) : Prop where
  report_of_current : ∀ o, s.current = some o → extended = true ∧ s.phase = .obligations
  draft_eq : s.phase = .obligations → s.draft = none
  aligned : ∀ o, s.current = some o → o.Aligned

theorem coherent_initial (extended : Bool) : State.initial.Coherent extended := by
  constructor
  · intro o ho
    cases ho
  · intro hphase
    cases hphase
  · intro o ho
    cases ho

/-- A state without an open obligation needs no more than that a draft is open outside the report
    only. -/
theorem coherent_of_idle {extended : Bool} {s : State} (hcurrent : s.current = none)
    (hdraft : s.phase = .obligations → s.draft = none) : s.Coherent extended := by
  constructor
  · intro o ho
    cases hcurrent.symm.trans ho
  · exact hdraft
  · intro o ho
    cases hcurrent.symm.trans ho

section Handlers

variable {extended : Bool} {s : State}

theorem coherent_enter (sec : Section) : (s.enter sec).Coherent extended := by
  obtain ⟨hdraft, hcurrent⟩ := draft_current_enter s sec
  exact coherent_of_idle hcurrent fun _ => hdraft

theorem State.Coherent.current_eq (h : s.Coherent extended) (hphase : s.phase ≠ .obligations) :
    s.current = none := by
  cases hcurrent : s.current with
  | none => rfl
  | some o => exact absurd (h.report_of_current o hcurrent).2 hphase

theorem State.Coherent.takeHeader (h : s.Coherent extended) (hphase : s.phase ≠ .obligations)
    (header : Header) : (s.takeHeader header).Coherent extended :=
  coherent_of_idle (h.current_eq hphase) fun hnow => absurd hnow hphase

/-- Closing leaves a state of the report without an open obligation. -/
theorem State.Coherent.close (h : s.Coherent extended) (counts : Tally) :
    (s.close counts).Coherent extended := by
  rw [close_eq]
  exact coherent_of_idle rfl h.draft_eq

theorem State.Coherent.takeStatus (h : s.Coherent true) (hphase : s.phase = .obligations)
    (status : Status) : (s.takeStatus status).Coherent true := by
  cases status with
  | obligation role span outcome inline =>
    have hopened : OpenObligation.Aligned
        ⟨⟨role, span.toRange, outcome, inline.getD "", []⟩, .normalized⟩ :=
      OpenObligation.aligned_of_opened rfl
    simp only [State.takeStatus, close_eq]
    constructor
    · intro o ho
      exact ⟨rfl, hphase⟩
    · exact h.draft_eq
    · rintro o ⟨⟩
      exact hopened
  | prover name method outcome reason =>
    constructor
    · intro o ho
      exact ⟨rfl, hphase⟩
    · exact h.draft_eq
    · intro o ho
      obtain ⟨before, -, rfl⟩ := Option.map_eq_some_iff.mp ho
      exact OpenObligation.aligned_addResult before _
  | tally counts => exact h.close counts

theorem State.Coherent.addText (h : s.Coherent extended) (text : String) :
    (s.addText extended text).Coherent extended := by
  unfold State.addText
  split
  · next hphase =>
    split
    · next hextended =>
      constructor
      · intro o ho
        exact ⟨hextended, hphase⟩
      · exact h.draft_eq
      · intro o ho
        obtain ⟨before, hbefore, rfl⟩ := Option.map_eq_some_iff.mp ho
        exact (h.aligned before hbefore).addText text
    · exact h
  · next hphase => exact coherent_of_idle (h.current_eq hphase) fun hnow => absurd hnow hphase

end Handlers

/-- **A line keeps the invariant**, whatever it is and wherever it stands. -/
theorem coherent_feed {extended : Bool} {s : State} (h : s.Coherent extended) (line : String) :
    (feed extended s line).Coherent extended := by
  unfold feed
  cases Line.classify line with
  | banner sec => exact coherent_enter sec
  | header header =>
    simp only
    split
    · exact h.addText line
    · next hphase => exact h.takeHeader hphase header
  | status status =>
    simp only
    split
    · next hphase =>
      -- outside extended mode the records of the report are passed over
      cases extended with
      | true => exact h.takeStatus hphase status
      | false => exact h
    · exact h.addText line
  | message text => exact h.addText text
  | unrecognized text => exact h.addText text

theorem coherent_foldl {extended : Bool} {s : State} (h : s.Coherent extended)
    (lines : List String) : (lines.foldl (feed extended) s).Coherent extended := by
  induction lines generalizing s with
  | nil => exact h
  | cons line lines ih => exact ih (coherent_feed h line)

/-- **The state after any lines is coherent.** An obligation is open only in extended mode and in
    the obligation report, where no draft is, so the two are never open together. The text of an
    open obligation goes to the obligation itself exactly when it has no results, and otherwise to
    the last of them, so that the index of that result is always in bounds. -/
theorem coherent_after (extended : Bool) (lines : List String) :
    (∀ o, ((parser extended).after lines).current = some o →
        extended = true ∧ ((parser extended).after lines).phase = .obligations) ∧
      (((parser extended).after lines).phase = .obligations →
        ((parser extended).after lines).draft = none) ∧
      (((parser extended).after lines).draft = none ∨
        ((parser extended).after lines).current = none) ∧
      ∀ o, ((parser extended).after lines).current = some o →
        (o.slot = .normalized ↔ o.obligation.results = []) ∧
        ∀ index, o.slot = .result index →
          index + 1 = o.obligation.results.length ∧ index < o.obligation.results.length := by
  have hcoherent : ((parser extended).after lines).Coherent extended :=
    coherent_foldl (coherent_initial extended) lines
  refine ⟨hcoherent.report_of_current, hcoherent.draft_eq, ?_, ?_⟩
  · by_cases hphase : ((parser extended).after lines).phase = .obligations
    · exact .inl (hcoherent.draft_eq hphase)
    · exact .inr (hcoherent.current_eq hphase)
  · intro o ho
    have haligned := hcoherent.aligned o ho
    refine ⟨haligned.normalized_iff, ?_⟩
    intro index hslot
    have hindex := haligned.succ_index index hslot
    exact ⟨hindex, by omega⟩

/-- Behind a second prover line the text goes to the second result. -/
theorem coherent_after_two_results :
    ∃ o, ((parser true).after ["Obligations:", "role=main range=4:1-4:20 status=failed",
        "prover=Zenon status=failed", "timeout", "prover=SMT status=failed"]).current = some o ∧
      o.slot = .result 1 ∧ 1 < o.obligation.results.length := by
  have hcurrent : ((parser true).after ["Obligations:", "role=main range=4:1-4:20 status=failed",
      "prover=Zenon status=failed", "timeout", "prover=SMT status=failed"]).current =
      some ⟨⟨"main", ⟨⟨3, 0⟩, ⟨3, 20⟩⟩, "failed", "",
        [⟨"Zenon", "", "failed", none, some "timeout"⟩, ⟨"SMT", "", "failed", none, none⟩]⟩,
        .result 1⟩ := by
    decide +kernel
  exact ⟨_, hcurrent, rfl, (((coherent_after true _).2.2.2 _ hcurrent).2 1 rfl).2⟩

end TlaDigest.Analyzer
