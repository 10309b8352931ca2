import TlaDigest.Proofs.Analyzer.Banners
import TlaDigest.Proofs.Messages

/-!
# The obligations of an analyzer run in extended mode

Every record that opens an obligation in the obligation report is one obligation, and there are no
others. Its block goes on to the next banner, the next record of that kind or the tally that closes
it (`blockOf`); the tally gives the counts, the prover lines of the block the results, and the text
between them the obligation as it was printed (`record?`). `obligations_parse` says that the parser
finds these records in their order, and that lines outside all blocks leave no trace.

The parser writes the text of a block into the obligation as it comes, to a place that changes with
each prover line. `takeBlock_of_result` and `takeBlock_of_normalized` compare this with the reading
of the whole block, one for each kind of place.
-/

namespace TlaDigest

open Text

namespace Line

def isStatus : Line → Bool
  | .status _ => true
  | _ => false

def isObligation : Line → Bool
  | .status (.obligation ..) => true
  | _ => false

def tally? : Line → Option Tally
  | .status (.tally counts) => some counts
  | _ => none

def result? : Line → Option ProverResult
  | .status (.prover name method outcome reason) =>
    some ⟨name, method.getD "", outcome, reason, none⟩
  | _ => none

def endsBlock (line : Line) : Bool := line.isBanner || line.isObligation || line.tally?.isSome

end Line

def ProverResult.addText (r : ProverResult) (text : String) : ProverResult :=
  { r with obligation := some (Analyzer.appendText (r.obligation.getD "") text) }

namespace Analyzer

/-! ### The reading that looks ahead -/

/-- The block of an obligation in the lines after its record. -/
def blockOf (after : List String) : List String :=
  after.takeWhile fun line => !(Line.classify line).endsBlock

/-- The counts that close the block: those of a tally that ends it, and zeros otherwise. -/
def countsOf (after : List String) : Tally :=
  match after.dropWhile fun line => !(Line.classify line).endsBlock with
  | [] => .zero
  | last :: _ => (Line.classify last).tally?.getD .zero

def untilProver (lines : List String) : List String :=
  lines.takeWhile fun line => (Line.classify line).result?.isNone

def looseTexts (lines : List String) : List String :=
  texts (lines.filter fun line => !(Line.classify line).isStatus)

def joined? (parts : List String) : Option String :=
  if parts = [] then none else some (joinLines parts)

/-- The results of a block: one for each prover line, with the text up to the next one. -/
def resultsOf : List String → List ProverResult
  | [] => []
  | line :: rest =>
    match (Line.classify line).result? with
    | some r => { r with obligation := joined? (looseTexts (untilProver rest)) } :: resultsOf rest
    | none => resultsOf rest

/-- The obligation that a line opens where it stands, with all that its block says of it. -/
def record? (cut : Cut) : Option ObligationRecord :=
  match Line.classify cut.line with
  | .status (.obligation role span status inline) =>
    if governing? cut.before = some .obligations then
      let block := blockOf cut.after
      some {
        obligation := {
          role := role
          range := span.toRange
          status := status
          normalized :=
            joinLines (inline.toList.filter (· ≠ "") ++ looseTexts (untilProver block))
          results := resultsOf block }
        counts := countsOf cut.after }
    else none
  | _ => none

/-! ### Blocks -/

section Blocks

variable {line : String}

@[simp]
theorem blockOf_cons_of_ends (h : (Line.classify line).endsBlock = true) (after : List String) :
    blockOf (line :: after) = [] := by
  simp [blockOf, h]

@[simp]
theorem blockOf_cons_of_inside (h : (Line.classify line).endsBlock = false) (after : List String) :
    blockOf (line :: after) = line :: blockOf after := by
  simp [blockOf, h]

@[simp]
theorem countsOf_cons_of_ends (h : (Line.classify line).endsBlock = true) (after : List String) :
    countsOf (line :: after) = (Line.classify line).tally?.getD .zero := by
  simp [countsOf, h]

@[simp]
theorem countsOf_cons_of_inside (h : (Line.classify line).endsBlock = false) (after : List String) :
    countsOf (line :: after) = countsOf after := by
  simp [countsOf, h]

theorem endsBlock_of_mem_blockOf {after : List String} (h : line ∈ blockOf after) :
    (Line.classify line).endsBlock = false := by
  simpa using List.mem_takeWhile_imp h

/-- Inside a block the prover lines are the only records. -/
theorem isStatus_eq_false (hends : (Line.classify line).endsBlock = false)
    (hresult : (Line.classify line).result? = none) : (Line.classify line).isStatus = false := by
  cases hline : Line.classify line with
  | status status =>
    rw [hline] at hends hresult
    cases status with
    | obligation role span status normalized => simp [Line.endsBlock, Line.isObligation] at hends
    | prover name method status reason => simp [Line.result?] at hresult
    | tally counts => simp [Line.endsBlock, Line.tally?] at hends
  | _ => rfl

theorem untilProver_cons_of_result {r : ProverResult} (h : (Line.classify line).result? = some r)
    (rest : List String) : untilProver (line :: rest) = [] := by
  simp [untilProver, h]

/-- Text before the first prover line is the text of its first line and of the rest. -/
theorem looseTexts_untilProver_cons (hends : (Line.classify line).endsBlock = false)
    (hresult : (Line.classify line).result? = none) (rest : List String) :
    looseTexts (untilProver (line :: rest)) = texts [line] ++ looseTexts (untilProver rest) := by
  have hstatus := isStatus_eq_false hends hresult
  have huntil : untilProver (line :: rest) = line :: untilProver rest := by
    simp [untilProver, hresult]
  rw [huntil, looseTexts, List.filter_cons_of_pos (by simp [hstatus]), texts_cons]
  rfl

end Blocks

/-! ### Text that is added line by line -/

theorem ne_empty_concat {parts : List String} {text : String} (hparts : ∀ part ∈ parts, part ≠ "")
    (htext : text ≠ "") : ∀ part ∈ parts ++ [text], part ≠ "" := by
  intro part hpart
  rcases List.mem_append.mp hpart with hin | hin
  · exact hparts part hin
  · rw [List.mem_singleton.mp hin]
    exact htext

theorem getD_joined? (parts : List String) : (joined? parts).getD "" = joinLines parts := by
  unfold joined?
  split
  · next h => rw [h]; rfl
  · rfl

/-- Parts that are not empty, joined one after the other. -/
theorem appendText_joinLines {parts : List String} (h : ∀ part ∈ parts, part ≠ "") (text : String) :
    appendText (joinLines parts) text = joinLines (parts ++ [text]) := by
  unfold appendText
  by_cases hnil : parts = []
  · subst hnil
    rw [if_pos (by rfl), List.nil_append, joinLines_singleton]
  · rw [if_neg (fun hempty => hnil ((joinLines_eq_empty_iff h).mp hempty)), joinLines_concat hnil]

/-- The same for a text that may be absent. -/
theorem some_appendText_joined? {parts : List String} (h : ∀ part ∈ parts, part ≠ "")
    (text : String) :
    some (appendText ((joined? parts).getD "") text) = joined? (parts ++ [text]) := by
  rw [getD_joined?, appendText_joinLines h, joined?, if_neg (by simp)]

/-! ### An open obligation and its block -/

namespace OpenObligation

/-- Takes a line of the block: a prover line is a result, and any other is text. -/
def takeLine (o : OpenObligation) (line : String) : OpenObligation :=
  match (Line.classify line).result? with
  | some r => o.addResult r
  | none => o.addText line

def takeBlock (o : OpenObligation) (block : List String) : OpenObligation :=
  block.foldl takeLine o

theorem addText_trimmed (o : OpenObligation) (line : String) :
    o.addText (trimmed line) = o.addText line := by
  unfold addText
  rw [trim_toList_trimmed]

theorem addText_of_blank {line : String} (h : trimmed line = "") (o : OpenObligation) :
    o.addText line = o := by
  unfold addText
  rw [(trimmed_eq_empty_iff line).mp h]

theorem addText_of_normalized {line : String} (h : trimmed line ≠ "") {o : OpenObligation}
    (hslot : o.slot = .normalized) :
    o.addText line =
      { o with obligation :=
          { o.obligation with
            normalized := appendText o.obligation.normalized (trimmed line) } } := by
  unfold addText
  split
  · next hnil => exact absurd ((trimmed_eq_empty_iff line).mpr hnil) h
  · rw [hslot]
    rfl

theorem addText_of_result {line : String} (h : trimmed line ≠ "") {o : OpenObligation} {index : Nat}
    (hslot : o.slot = .result index) :
    o.addText line =
      { o with obligation :=
          { o.obligation with
            results := o.obligation.results.modify index (·.addText (trimmed line)) } } := by
  unfold addText
  split
  · next hnil => exact absurd ((trimmed_eq_empty_iff line).mpr hnil) h
  · rw [hslot]
    rfl

end OpenObligation

theorem modify_length_append {α : Type} (items : List α) (last : α) (f : α → α) :
    (items ++ [last]).modify items.length f = items ++ [f last] := by
  induction items with
  | nil => rfl
  | cons item items ih => rw [List.cons_append, List.length_cons, List.modify_succ_cons, ih]; rfl

theorem obligation_of_result? {line : Line} {r : ProverResult} (h : line.result? = some r) :
    r = { r with obligation := joined? [] } := by
  cases line with
  | status status =>
    cases status with
    | prover name method outcome reason =>
      simp only [Line.result?, Option.some.injEq] at h
      rw [← h]
      rfl
    | _ => simp [Line.result?] at h
  | _ => simp [Line.result?] at h

/-- After a prover line: the text up to the next one goes to the last result, and the other results
    of the block follow it. -/
theorem takeBlock_of_result {block : List String}
    (hblock : ∀ line ∈ block, (Line.classify line).endsBlock = false)
    {o : OpenObligation} {earlier : List ProverResult} {r : ProverResult} {parts : List String}
    (hparts : ∀ part ∈ parts, part ≠ "") (hslot : o.slot = .result earlier.length)
    (hresults : o.obligation.results = earlier ++ [{ r with obligation := joined? parts }]) :
    (o.takeBlock block).obligation =
      { o.obligation with
        results := earlier ++
          { r with obligation := joined? (parts ++ looseTexts (untilProver block)) } ::
            resultsOf block } := by
  -- on the block; the parts are the text that the last result has so far
  induction block generalizing o earlier r parts with
  | nil =>
    obtain ⟨obligation, slot⟩ := o
    simp only [OpenObligation.takeBlock, List.foldl_nil, resultsOf, untilProver, looseTexts,
      List.takeWhile_nil, List.filter_nil, texts_nil, List.append_nil] at hresults ⊢
    rw [← hresults]
  | cons line block ih =>
    have hends := hblock line (by simp)
    have hrest : ∀ l ∈ block, (Line.classify l).endsBlock = false := fun l hl =>
      hblock l (by simp [hl])
    have hstep : o.takeBlock (line :: block) = (o.takeLine line).takeBlock block := rfl
    rw [hstep, resultsOf]
    cases hresult : (Line.classify line).result? with
    | some next =>
      have htake : o.takeLine line = o.addResult next := by
        simp [OpenObligation.takeLine, hresult]
      have hnext : next = { next with obligation := joined? [] } := obligation_of_result? hresult
      have hlen : (earlier ++ [{ r with obligation := joined? parts }]).length =
          o.obligation.results.length := by rw [hresults]
      have hadded : (o.addResult next).obligation.results =
          (earlier ++ [{ r with obligation := joined? parts }]) ++
            [{ next with obligation := joined? [] }] := by
        rw [← hnext, ← hresults]
        rfl
      have hnone : ∀ part ∈ ([] : List String), part ≠ "" := by simp
      have hafter := ih hrest hnone (congrArg TextSlot.result hlen.symm) hadded
      rw [htake, hafter, untilProver_cons_of_result hresult]
      simp [OpenObligation.addResult, looseTexts]
    | none =>
      have htake : o.takeLine line = o.addText line := by
        simp [OpenObligation.takeLine, hresult]
      rw [htake, looseTexts_untilProver_cons hends hresult]
      by_cases hblank : trimmed line = ""
      · rw [OpenObligation.addText_of_blank hblank, texts_of_blank hblank, List.nil_append]
        exact ih hrest hparts hslot hresults
      · have hmore := ne_empty_concat hparts hblank
        have hadded : o.obligation.results.modify earlier.length (·.addText (trimmed line)) =
            earlier ++ [{ r with obligation := joined? (parts ++ [trimmed line]) }] := by
          rw [hresults, modify_length_append, ProverResult.addText,
            some_appendText_joined? hparts]
        rw [OpenObligation.addText_of_result hblank hslot, texts_of_visible hblank,
          ← List.append_assoc]
        exact ih hrest hmore hslot hadded

/-- Before the first prover line: the text goes to the obligation itself. -/
theorem takeBlock_of_normalized {block : List String}
    (hblock : ∀ line ∈ block, (Line.classify line).endsBlock = false)
    {o : OpenObligation} {parts : List String} (hparts : ∀ part ∈ parts, part ≠ "")
    (hslot : o.slot = .normalized) (hresults : o.obligation.results = [])
    (hnormalized : o.obligation.normalized = joinLines parts) :
    (o.takeBlock block).obligation =
      { o.obligation with
        normalized := joinLines (parts ++ looseTexts (untilProver block))
        results := resultsOf block } := by
  induction block generalizing o parts with
  | nil =>
    obtain ⟨obligation, slot⟩ := o
    simp only [OpenObligation.takeBlock, List.foldl_nil, resultsOf, untilProver, looseTexts,
      List.takeWhile_nil, List.filter_nil, texts_nil, List.append_nil] at hresults hnormalized ⊢
    rw [← hnormalized, ← hresults]
  | cons line block ih =>
    have hends := hblock line (by simp)
    have hrest : ∀ l ∈ block, (Line.classify l).endsBlock = false := fun l hl =>
      hblock l (by simp [hl])
    have hstep : o.takeBlock (line :: block) = (o.takeLine line).takeBlock block := rfl
    rw [hstep, resultsOf]
    cases hresult : (Line.classify line).result? with
    | some next =>
      -- from here on the text belongs to results
      have htake : o.takeLine line = o.addResult next := by
        simp [OpenObligation.takeLine, hresult]
      have hnext : next = { next with obligation := joined? [] } := obligation_of_result? hresult
      have hadded : (o.addResult next).obligation.results =
          [] ++ [{ next with obligation := joined? [] }] := by
        rw [← hnext]
        exact congrArg (· ++ [next]) hresults
      have hnone : ∀ part ∈ ([] : List String), part ≠ "" := by simp
      have hfirst : (o.addResult next).slot = .result ([] : List ProverResult).length :=
        congrArg TextSlot.result (by rw [hresults])
      rw [htake, takeBlock_of_result hrest hnone hfirst hadded, untilProver_cons_of_result hresult]
      simp [OpenObligation.addResult, looseTexts, hnormalized]
    | none =>
      have htake : o.takeLine line = o.addText line := by
        simp [OpenObligation.takeLine, hresult]
      rw [htake, looseTexts_untilProver_cons hends hresult]
      by_cases hblank : trimmed line = ""
      · rw [OpenObligation.addText_of_blank hblank, texts_of_blank hblank, List.nil_append]
        exact ih hrest hparts hslot hresults hnormalized
      · have hmore := ne_empty_concat hparts hblank
        have hadded : appendText o.obligation.normalized (trimmed line) =
            joinLines (parts ++ [trimmed line]) := by
          rw [hnormalized, appendText_joinLines hparts]
        rw [OpenObligation.addText_of_normalized hblank hslot, texts_of_visible hblank,
          ← List.append_assoc]
        exact ih hrest hmore hslot hresults hadded

/-- The record of an obligation that is open, when the lines `after` are still to come. -/
def OpenObligation.recordWith (o : OpenObligation) (after : List String) : ObligationRecord :=
  ⟨(o.takeBlock (blockOf after)).obligation, countsOf after⟩

/-- A line that ends the block closes the record. -/
theorem recordWith_cons_of_ends {line : String} (h : (Line.classify line).endsBlock = true)
    (o : OpenObligation) (after : List String) :
    o.recordWith (line :: after) = ⟨o.obligation, (Line.classify line).tally?.getD .zero⟩ := by
  rw [OpenObligation.recordWith, blockOf_cons_of_ends h, countsOf_cons_of_ends h]
  rfl

/-- A line of the block is taken at once or later. -/
theorem recordWith_cons_of_inside {line : String} (h : (Line.classify line).endsBlock = false)
    (o : OpenObligation) (after : List String) :
    o.recordWith (line :: after) = (o.takeLine line).recordWith after := by
  rw [OpenObligation.recordWith, blockOf_cons_of_inside h, countsOf_cons_of_inside h]
  rfl

/-- An obligation that was just opened gets the record that the whole block gives. -/
theorem recordWith_opened (role : String) (range : Range) (status : String) (inline : Option String)
    (after : List String) :
    OpenObligation.recordWith ⟨⟨role, range, status, inline.getD "", []⟩, .normalized⟩ after =
      { obligation := {
          role := role
          range := range
          status := status
          normalized :=
            joinLines (inline.toList.filter (· ≠ "") ++ looseTexts (untilProver (blockOf after)))
          results := resultsOf (blockOf after) }
        counts := countsOf after } := by
  have hinline : inline.getD "" = joinLines (inline.toList.filter (· ≠ "")) := by
    cases inline with
    | none => rfl
    | some text =>
      by_cases hempty : text = ""
      · simp [hempty, joinLines, joinWith]
      · simp [hempty]
  have hparts : ∀ part ∈ inline.toList.filter (· ≠ ""), part ≠ "" := by
    intro part hpart
    simpa using (List.mem_filter.mp hpart).2
  rw [OpenObligation.recordWith,
    takeBlock_of_normalized (fun _ => endsBlock_of_mem_blockOf) hparts rfl rfl hinline]

/-! ### One line of a run -/

/-- Where obligations are kept: the one that is open, and the records closed before it. -/
structure Ledger where
  current : Option OpenObligation
  records : List ObligationRecord

namespace Ledger

def close (l : Ledger) (counts : Tally) : Ledger :=
  ⟨none, l.records ++ (l.current.map fun o => ⟨o.obligation, counts⟩).toList⟩

def take (l : Ledger) (line : String) : Ledger :=
  match Line.classify line with
  | .banner _ => l.close .zero
  | .status (.obligation role span status inline) =>
    ⟨some ⟨⟨role, span.toRange, status, inline.getD "", []⟩, .normalized⟩, (l.close .zero).records⟩
  | .status (.tally counts) => l.close counts
  | _ => ⟨l.current.map (·.takeLine line), l.records⟩

/-- The records when the open obligation gets the block that is still to come. -/
def expected (l : Ledger) (rest : List String) : List ObligationRecord :=
  l.records ++ (l.current.map (·.recordWith rest)).toList

/-- Nothing is to come after the last line. -/
theorem expected_nil (l : Ledger) : l.expected [] = (l.close .zero).records := rfl

/-- A line that ends the block of the open obligation leaves nothing to come for it. -/
theorem expected_cons_of_ends {line : String} (h : (Line.classify line).endsBlock = true)
    (l : Ledger) (rest : List String) :
    l.expected (line :: rest) = (l.close ((Line.classify line).tally?.getD .zero)).records := by
  simp only [expected, recordWith_cons_of_ends h]
  rfl

/-- **A line of the report** is to the ledger what it is to the reading that looks ahead: it adds
    the record it opens to those expected. -/
theorem expected_take {before : List String} (hgov : governing? before = some .obligations)
    (l : Ledger) (line : String) (rest : List String) :
    (l.take line).expected rest =
      l.expected (line :: rest) ++ (record? ⟨before, line, rest⟩).toList := by
  have hinside : ∀ o : Option OpenObligation, (Line.classify line).endsBlock = false →
      expected ⟨o.map (·.takeLine line), l.records⟩ rest =
        expected ⟨o, l.records⟩ (line :: rest) := by
    intro o hends
    cases o with
    | none => rfl
    | some o => simp only [expected, Option.map_some, recordWith_cons_of_inside hends]
  cases hline : Line.classify line with
  | banner sec =>
    have hends : (Line.classify line).endsBlock = true := by
      simp [hline, Line.endsBlock, Line.isBanner]
    rw [expected_cons_of_ends hends]
    simp [take, record?, hline, Line.tally?, expected, close]
  | status status =>
    cases status with
    | obligation role span status inline =>
      have hends : (Line.classify line).endsBlock = true := by
        simp [hline, Line.endsBlock, Line.isObligation]
      rw [expected_cons_of_ends hends]
      simp only [take, record?, hline, hgov, if_true, expected, Option.map_some, recordWith_opened]
      rfl
    | tally counts =>
      have hends : (Line.classify line).endsBlock = true := by
        simp [hline, Line.endsBlock, Line.tally?]
      rw [expected_cons_of_ends hends]
      simp [take, record?, hline, Line.tally?, expected, close]
    | prover name method outcome reason =>
      have hends : (Line.classify line).endsBlock = false := by rw [hline]; rfl
      simp only [take, record?, hline, Option.toList_none, List.append_nil]
      exact hinside l.current hends
  | _ =>
    have hends : (Line.classify line).endsBlock = false := by rw [hline]; rfl
    simp only [take, record?, hline, Option.toList_none, List.append_nil]
    exact hinside l.current hends

end Ledger

def State.ledger (s : State) : Ledger := ⟨s.current, s.output.obligations⟩

@[simp] theorem ledger_close (s : State) (counts : Tally) :
    (s.close counts).ledger = s.ledger.close counts := by
  rw [close_eq]
  rfl

@[simp]
theorem ledger_enter (s : State) (sec : Section) : (s.enter sec).ledger = s.ledger.close .zero := by
  have hclose : (s.settle.close .zero).ledger = s.ledger.close .zero := ledger_close s.settle .zero
  unfold State.enter
  split
  · exact hclose
  · exact hclose

/-- Inside the report a line does to the state what it does to the ledger. -/
theorem ledger_feed_of_obligations {s : State} (hphase : s.phase = .obligations) (line : String) :
    (feed true s line).ledger = s.ledger.take line := by
  have htext : ∀ text, (s.addText true text).ledger =
      ⟨s.current.map (·.addText text), s.output.obligations⟩ := by
    intro text
    unfold State.addText
    rw [if_pos hphase]
    rfl
  unfold feed Ledger.take OpenObligation.takeLine
  cases hline : Line.classify line with
  | banner sec => exact ledger_enter s sec
  | header header =>
    simp only [if_pos hphase]
    exact htext line
  | status status =>
    simp only [if_pos hphase]
    cases status with
    | obligation role span status inline =>
      simp only [State.takeStatus, close_eq]
      rfl
    | prover name method outcome reason => rfl
    | tally counts => exact ledger_close s counts
  | message text =>
    have htrim := Line.eq_trimmed_of_classify_message hline
    simp only [htrim, htext, OpenObligation.addText_trimmed]
    rfl
  | unrecognized text =>
    have hsame := Line.eq_of_classify_unrecognized hline
    simp only [hsame]
    exact htext line

/-- Outside the report no line touches the ledger. -/
theorem ledger_feed_of_outside {before : List String} {s : State} (h : Reads before s)
    (hphase : s.phase ≠ .obligations) (line : String) : (feed true s line).ledger = s.ledger := by
  have hcurrent := h.current_eq hphase
  have htext : ∀ text, (s.addText true text).ledger = s.ledger := by
    intro text
    unfold State.addText
    rw [if_neg hphase]
    rfl
  unfold feed
  cases Line.classify line with
  | banner sec =>
    rw [ledger_enter]
    simp [Ledger.close, State.ledger, hcurrent]
  | header header =>
    simp only [if_neg hphase]
    rfl
  | status status =>
    simp only [if_neg hphase]
    exact htext line
  | message text => exact htext text
  | unrecognized text => exact htext text

/-! ### A whole run -/

@[simp] theorem obligations_finish (s : State) : (finish s).obligations = s.ledger.expected [] := by
  rw [Ledger.expected_nil, finish, close_eq]
  rfl

/-- The obligations of a run that goes on from some state: what its open one still amounts to, and
    then the records of the lines to come. -/
theorem obligations_finish_foldl {before : List String} {s : State} (h : Reads before s)
    (rest : List String) :
    (finish (rest.foldl (feed true) s)).obligations =
      s.ledger.expected rest ++ (cutsAfter before rest).filterMap record? := by
  induction rest generalizing before s with
  | nil => rw [List.foldl_nil, obligations_finish, cutsAfter, List.filterMap_nil, List.append_nil]
  | cons line rest ih =>
    have hcut : (cutsAfter before (line :: rest)).filterMap record? =
        (record? ⟨before, line, rest⟩).toList ++
          (cutsAfter (before ++ [line]) rest).filterMap record? := by
      rw [cutsAfter, List.filterMap_cons]
      cases record? ⟨before, line, rest⟩ <;> rfl
    rw [List.foldl_cons, ih (reads_feed true h line), hcut, ← List.append_assoc]
    congr 1
    by_cases hphase : s.phase = .obligations
    · rw [ledger_feed_of_obligations hphase,
        Ledger.expected_take (h.phase_eq_obligations_iff.mp hphase)]
    · have hnone : record? ⟨before, line, rest⟩ = none := by
        have hgov : ¬ governing? before = some .obligations := fun hsec =>
          hphase (h.phase_eq_obligations_iff.mpr hsec)
        unfold record?
        split
        · exact if_neg hgov
        · rfl
      rw [ledger_feed_of_outside h hphase, hnone]
      simp [Ledger.expected, State.ledger, h.current_eq hphase]

/-! ### Lines without a trace -/

/-- A banner or a tally leaves no obligation open, wherever it stands. -/
theorem current_feed_of_closing {before : List String} {s : State} (h : Reads before s)
    {line : String}
    (hline : (Line.classify line).isBanner = true ∨ (Line.classify line).tally?.isSome = true) :
    (feed true s line).current = none := by
  by_cases hphase : s.phase = .obligations
  · have hledger := congrArg Ledger.current (ledger_feed_of_obligations hphase line)
    refine hledger.trans ?_
    unfold Ledger.take
    cases hkind : Line.classify line with
    | banner sec => rfl
    | status status =>
      cases status with
      | tally counts => rfl
      | _ => simp [hkind, Line.isBanner, Line.tally?] at hline
    | _ => simp [hkind, Line.isBanner, Line.tally?] at hline
  · exact current_feed_of_outside true hphase (h.current_eq hphase) line

/-- Where no obligation is open, lines that are neither banners nor open one change nothing. -/
theorem ledger_foldl_of_idle {before : List String} {s : State} (h : Reads before s)
    (hcurrent : s.current = none) {stray : List String}
    (hstray : ∀ line ∈ stray,
      (Line.classify line).isBanner = false ∧ (Line.classify line).isObligation = false) :
    (stray.foldl (feed true) s).ledger = s.ledger := by
  induction stray generalizing before s with
  | nil => rfl
  | cons line stray ih =>
    obtain ⟨hbanner, hobligation⟩ := hstray line (by simp)
    have hledger : (feed true s line).ledger = s.ledger := by
      by_cases hphase : s.phase = .obligations
      · rw [ledger_feed_of_obligations hphase]
        unfold Ledger.take State.ledger
        rw [hcurrent]
        cases hkind : Line.classify line with
        | banner sec => simp [hkind, Line.isBanner] at hbanner
        | status status =>
          cases status with
          | obligation role span status inline => simp [hkind, Line.isObligation] at hobligation
          | prover name method outcome reason => rfl
          | tally counts => simp [Ledger.close]
        | _ => rfl
      · exact ledger_feed_of_outside h hphase line
    have hnext : (feed true s line).current = none :=
      (congrArg Ledger.current hledger).trans hcurrent
    rw [List.foldl_cons, ih (reads_feed true h line) hnext fun l hl => hstray l (by simp [hl]),
      hledger]

/-- The records of some lines depend on the lines before through the governing section only. -/
theorem filterMap_record?_congr {before other : List String}
    (h : governing? before = governing? other) (rest : List String) :
    (cutsAfter before rest).filterMap record? = (cutsAfter other rest).filterMap record? := by
  induction rest generalizing before other with
  | nil => rfl
  | cons line rest ih =>
    have hrecord : record? ⟨before, line, rest⟩ = record? ⟨other, line, rest⟩ := by
      simp only [record?, h]
    have hnext : governing? (before ++ [line]) = governing? (other ++ [line]) := by
      rw [governing?_append, governing?_append, h]
    rw [cutsAfter, cutsAfter, List.filterMap_cons, List.filterMap_cons, hrecord, ih hnext]

theorem governing?_append_of_idle (before : List String) {stray : List String}
    (h : ∀ line ∈ stray, (Line.classify line).isBanner = false) :
    governing? (before ++ stray) = governing? before := by
  have hnone : governing? stray = none := by
    rw [governing?, List.getLast?_eq_none_iff, banners, List.filterMap_eq_nil_iff]
    intro line hline
    have hkind := h line hline
    cases hclass : Line.classify line with
    | banner sec => simp [hclass, Line.isBanner] at hkind
    | _ => rfl
  rw [governing?_append, hnone, Option.none_or]

/-- Prover lines, tallies and text without an open obligation may be left out. -/
theorem obligations_of_idle {before stray : List String} (after : List String)
    (hbefore : ∀ line ∈ before.getLast?,
      (Line.classify line).isBanner = true ∨ (Line.classify line).tally?.isSome = true)
    (hstray : ∀ line ∈ stray,
      (Line.classify line).isBanner = false ∧ (Line.classify line).isObligation = false) :
    ((parser true).parse (before ++ stray ++ after)).obligations =
      ((parser true).parse (before ++ after)).obligations := by
  have hreads := reads_foldl true reads_initial before
  have hcurrent : (before.foldl (feed true) .initial).current = none := by
    rcases List.eq_nil_or_concat before with rfl | ⟨earlier, line, rfl⟩
    · rfl
    · rw [List.concat_eq_append, List.foldl_append]
      exact current_feed_of_closing (reads_foldl true reads_initial earlier)
        (hbefore line (by simp))
  have hledger := ledger_foldl_of_idle hreads hcurrent hstray
  have hgov := governing?_append_of_idle before fun line hline => (hstray line hline).1
  simp only [LineParser.parse, LineParser.after, parser, List.foldl_append]
  rw [obligations_finish_foldl (reads_foldl true hreads stray), obligations_finish_foldl hreads,
    hledger, List.nil_append, filterMap_record?_congr hgov]

/-- **The obligations of a run are its blocks.** In extended mode they are the records of the lines
    that open an obligation in the obligation report, in the order of the lines. Lines that follow a
    banner or a tally and do not open an obligation leave no trace. -/
theorem obligations_parse (lines : List String) :
    ((parser true).parse lines).obligations = (cuts lines).filterMap record? ∧
      ∀ before stray after : List String, lines = before ++ stray ++ after →
        (∀ line ∈ before.getLast?,
          (Line.classify line).isBanner = true ∨ (Line.classify line).tally?.isSome = true) →
        (∀ line ∈ stray,
          (Line.classify line).isBanner = false ∧ (Line.classify line).isObligation = false) →
        ((parser true).parse lines).obligations =
          ((parser true).parse (before ++ after)).obligations := by
  refine ⟨obligations_finish_foldl reads_initial lines, ?_⟩
  rintro before stray after rfl hbefore hstray
  exact obligations_of_idle after hbefore hstray

theorem obligations_of_noise_after_tally :
    ((parser true).parse ["Obligations:", "role=main range=4:1-4:20 status=ok", "proved=1",
      "prover=Zenon status=ok", "failed=1"]).obligations =
      ((parser true).parse ["Obligations:", "role=main range=4:1-4:20 status=ok",
        "proved=1"]).obligations := by
  refine (obligations_parse _).2
    ["Obligations:", "role=main range=4:1-4:20 status=ok", "proved=1"]
    ["prover=Zenon status=ok", "failed=1"] [] rfl ?_ ?_
  · intro line hline
    cases hline
    decide +kernel
  · decide +kernel

end Analyzer

end TlaDigest
