import TlaDigest.Draft
import TlaDigest.Line
import TlaDigest.Proofs.Text.Trimming

/-!
# How messages are put together from lines

A reader of the whole output would say it by looking ahead: a header stands for a diagnostic, and
its message is the text of the lines after it, up to the next header or banner (`bodyOf`). A parser
that sees one line at a time keeps a draft instead and reports it when the message is over.

What a header is reported as is left to a rule (`HeaderRule`), which may look at the lines before.
`Desk` is the part of a parser's state that makes messages, and `Desk.take` is all that a line may
do to it. `Desk.settled_run` proves the two readings equal for every rule: what is reported in the
end is the log of one finding for each header that the rule does not pass over, in their order. A
parser inherits the result by showing that its own state moves as the desk does
(`Desk.view_foldl`).
-/

namespace TlaDigest

open Text

/-! ### Runs cut at a line -/

/-- A run cut at one of its lines: the lines before it, the line itself, and the lines after it. -/
structure Cut where
  before : List String
  line : String
  after : List String

/-- The cuts at some lines, in order, when the lines `before` stand in front of them. -/
def cutsAfter (before : List String) : List String → List Cut
  | [] => []
  | line :: after => ⟨before, line, after⟩ :: cutsAfter (before ++ [line]) after

def cuts (lines : List String) : List Cut := cutsAfter [] lines

@[simp] theorem map_line_cutsAfter (before lines : List String) :
    (cutsAfter before lines).map (·.line) = lines := by
  induction lines generalizing before with
  | nil => rfl
  | cons line lines ih => rw [cutsAfter, List.map_cons, ih]

/-! ### What a line is for a message -/

namespace Line

def isHeader : Line → Bool
  | .header _ => true
  | _ => false

def isBanner : Line → Bool
  | .banner _ => true
  | _ => false

def endsMessage (line : Line) : Bool := line.isHeader || line.isBanner

/-- An indented line gives its text without the blanks around it. -/
theorem eq_trimmed_of_classify_message {line text : String} (h : classify line = .message text) :
    text = trimmed line := by
  unfold classify loose at h
  repeat' split at h
  all_goals simp at h
  exact h.symm

/-- A line that nothing is known of gives its text as it stands. -/
theorem eq_of_classify_unrecognized {line text : String}
    (h : classify line = .unrecognized text) : text = line := by
  unfold classify loose at h
  repeat' split at h
  all_goals simp at h
  all_goals exact h.symm

end Line

/-- The text of a message in the lines after its header: up to the next header or banner. -/
def bodyOf (after : List String) : List String :=
  texts (after.takeWhile fun line => !(Line.classify line).endsMessage)

@[simp] theorem bodyOf_cons_of_ends {line : String} (h : (Line.classify line).endsMessage = true)
    (after : List String) : bodyOf (line :: after) = [] := by
  simp [bodyOf, h]

@[simp] theorem bodyOf_cons_of_text {line : String} (h : (Line.classify line).endsMessage = false)
    (after : List String) : bodyOf (line :: after) = texts [line] ++ bodyOf after := by
  rw [bodyOf, List.takeWhile_cons_of_pos (by simp [h]), texts_cons]
  rfl

/-! ### Findings and their log -/

structure Finding where
  path : Path
  diagnostic : Diagnostic
deriving DecidableEq, Repr

namespace Findings

def replay (f : Findings) (log : List Finding) : Findings :=
  log.foldl (fun f finding => f.add finding.path finding.diagnostic) f

def ofLog (log : List Finding) : Findings := empty.replay log

theorem replay_append (f : Findings) (log more : List Finding) :
    f.replay (log ++ more) = (f.replay log).replay more :=
  List.foldl_append

/-- Wherever a file stands, adding to it adds to the diagnostics in all. -/
theorem diagnostics_append_perm (f : Findings) (path : Path) (items : List Diagnostic) :
    (f.append path items).diagnostics.Perm (f.diagnostics ++ items) := by
  obtain ⟨files⟩ := f
  simp only [diagnostics, append]
  induction files with
  | nil => simp [Catalog.alter]
  | cons entry files ih =>
    obtain ⟨key, old⟩ := entry
    rw [Catalog.alter]
    split
    · simp only [List.flatMap_cons, Option.getD_some, List.append_assoc]
      exact List.perm_append_comm.append_left old
    · simp only [List.flatMap_cons, List.append_assoc]
      exact ih.append_left old

theorem diagnostics_replay_perm (f : Findings) (log : List Finding) :
    (f.replay log).diagnostics.Perm (f.diagnostics ++ log.map (·.diagnostic)) := by
  induction log generalizing f with
  | nil => simp [replay]
  | cons finding log ih =>
    have hadd : (f.add finding.path finding.diagnostic).diagnostics.Perm
        (f.diagnostics ++ [finding.diagnostic]) := diagnostics_append_perm f _ _
    have hrest := (ih (f.add finding.path finding.diagnostic)).trans (hadd.append_right _)
    rwa [List.append_assoc] at hrest

/-- The diagnostics of a log, in some order. -/
theorem diagnostics_ofLog_perm (log : List Finding) :
    (ofLog log).diagnostics.Perm (log.map (·.diagnostic)) :=
  diagnostics_replay_perm empty log

@[simp] theorem size_ofLog (log : List Finding) : (ofLog log).size = log.length := by
  rw [size, (diagnostics_ofLog_perm log).length_eq, List.length_map]

end Findings

/-! ### What a header reports -/

/-- What a header is reported as: the file it is about, and how serious it is. -/
structure Attribution where
  path : Path
  severity : Severity

/-- A rule for headers, given the lines before them. It may pass over a header. -/
abbrev HeaderRule := List String → Header → Option Attribution

/-- The finding of a header with the lines after it. The range is that of its span, or the start of
    the file; the message is the text on the header itself and then the body below it. -/
def Attribution.finding (a : Attribution) (h : Header) (after : List String) : Finding where
  path := a.path
  diagnostic := {
    range := (h.span.map Span.toRange).getD (.point ⟨0, 0⟩)
    severity := a.severity
    message := joinLines (h.message.toList ++ bodyOf after) }

def HeaderRule.finding? (rule : HeaderRule) (cut : Cut) : Option Finding :=
  match Line.classify cut.line with
  | .header h => (rule cut.before h).map fun a => a.finding h cut.after
  | _ => none

/-! ### Drafts -/

namespace Draft

def extend (d : Draft) (more : List String) : Draft := { d with lines := d.lines ++ more }

def finding (d : Draft) : Finding := ⟨d.location.path, d.diagnostic⟩

@[simp] theorem extend_nil (d : Draft) : d.extend [] = d := by
  simp [extend]

@[simp] theorem extend_extend (d : Draft) (more others : List String) :
    (d.extend more).extend others = d.extend (more ++ others) := by
  simp [extend]

/-- A line adds its visible text. -/
theorem push_eq_extend (d : Draft) (line : String) : d.push line = d.extend (texts [line]) := by
  unfold push
  split
  · next hblank =>
    rw [texts_of_blank ((trimmed_eq_empty_iff line).mpr hblank), extend_nil]
  · next hvisible =>
    rw [texts_of_visible fun h => hvisible ((trimmed_eq_empty_iff line).mp h)]
    rfl

theorem push_trimmed (d : Draft) (line : String) : d.push (trimmed line) = d.push line := by
  rw [push_eq_extend, push_eq_extend, texts_trimmed]

end Draft

def Attribution.draft (a : Attribution) (h : Header) : Draft :=
  .start ⟨a.path, h.span⟩ a.severity h.message

/-- The draft of a header reports what the header does, once the body of the message is there. -/
theorem Attribution.finding_extend_draft (a : Attribution) (h : Header) (after : List String) :
    ((a.draft h).extend (bodyOf after)).finding = a.finding h after := by
  obtain ⟨target, span, tag, message⟩ := h
  cases span <;> rfl

/-! ### The desk -/

/-- Where messages are made: the draft that is being written, and what was reported before it. -/
structure Desk where
  draft : Option Draft
  findings : Findings

namespace Desk

def settled (d : Desk) : Findings := d.findings.settle d.draft

/-- Takes a line, with the lines `before` it. A header or a banner settles what was there; any other
    line is text. -/
def take (rule : HeaderRule) (before : List String) (d : Desk) (line : String) : Desk :=
  match Line.classify line with
  | .header h => ⟨(rule before h).map (·.draft h), d.settled⟩
  | .banner _ => ⟨none, d.settled⟩
  | _ => ⟨d.draft.map (·.push line), d.findings⟩

def run (rule : HeaderRule) (before : List String) : List String → Desk → Desk
  | [], d => d
  | line :: rest, d => run rule (before ++ [line]) rest (d.take rule before line)

/-- The findings when the draft gets the text that is still to come. -/
def expected (d : Desk) (rest : List String) : Findings :=
  d.findings.settle (d.draft.map (·.extend (bodyOf rest)))

theorem expected_nil (d : Desk) : d.expected [] = d.settled := by
  obtain ⟨draft, findings⟩ := d
  cases draft with
  | none => rfl
  | some draft => rw [expected, Option.map_some, bodyOf, List.takeWhile_nil, texts_nil,
      Draft.extend_nil, settled]

/-- A header or a banner leaves nothing to come for the draft before it. -/
theorem expected_cons_of_ends {line : String} (h : (Line.classify line).endsMessage = true)
    (d : Desk) (rest : List String) : d.expected (line :: rest) = d.settled := by
  obtain ⟨draft, findings⟩ := d
  cases draft with
  | none => rfl
  | some draft => rw [expected, bodyOf_cons_of_ends h, Option.map_some, Draft.extend_nil, settled]

/-- Text goes to the draft at once or later. -/
theorem expected_push {line : String} (h : (Line.classify line).endsMessage = false)
    (d : Desk) (rest : List String) :
    expected ⟨d.draft.map (·.push line), d.findings⟩ rest = d.expected (line :: rest) := by
  obtain ⟨draft, findings⟩ := d
  cases draft with
  | none => rfl
  | some draft =>
    simp only [expected, Option.map_some]
    rw [Draft.push_eq_extend, Draft.extend_extend, bodyOf_cons_of_text h]

/-- **One line** is to the desk what it is to the reading that looks ahead: it adds what it reports
    to the findings expected. -/
theorem expected_take (rule : HeaderRule) (before : List String) (d : Desk) (line : String)
    (rest : List String) :
    (d.take rule before line).expected rest =
      (d.expected (line :: rest)).replay (rule.finding? ⟨before, line, rest⟩).toList := by
  unfold take HeaderRule.finding?
  cases hline : Line.classify line with
  | header h =>
    have hends : (Line.classify line).endsMessage = true := by rw [hline]; rfl
    rw [expected_cons_of_ends hends]
    cases hrule : rule before h with
    | none => simp [expected, hrule, Findings.settle, Findings.replay]
    | some a =>
      simp only [expected, hrule, Option.map_some, Option.toList_some]
      rw [← Attribution.finding_extend_draft]
      rfl
  | banner sec =>
    have hends : (Line.classify line).endsMessage = true := by rw [hline]; rfl
    rw [expected_cons_of_ends hends]
    rfl
  | _ =>
    have hends : (Line.classify line).endsMessage = false := by rw [hline]; rfl
    exact expected_push hends d rest

/-- **Writing drafts and looking ahead agree.** The findings at the end are those expected at the
    start, and then one for each header that the rule does not pass over. -/
theorem settled_run (rule : HeaderRule) (before rest : List String) (d : Desk) :
    (run rule before rest d).settled =
      (d.expected rest).replay ((cutsAfter before rest).filterMap rule.finding?) := by
  -- on the lines; what is still expected of the draft is carried along
  induction rest generalizing before d with
  | nil => rw [expected_nil]; rfl
  | cons line rest ih =>
    rw [run, ih, expected_take, ← Findings.replay_append, cutsAfter, List.filterMap_cons]
    cases rule.finding? ⟨before, line, rest⟩ <;> rfl

/-- A parser whose state moves as the desk does ends where the desk ends. The invariant `Inv` may
    say of a state what it knows of the lines before. -/
theorem view_foldl {σ : Type} {feed : σ → String → σ} {view : σ → Desk} {rule : HeaderRule}
    (Inv : List String → σ → Prop)
    (hkeep : ∀ before s line, Inv before s → Inv (before ++ [line]) (feed s line))
    (hview : ∀ before s line, Inv before s →
      view (feed s line) = (view s).take rule before line)
    {before : List String} {s : σ} (h : Inv before s) (rest : List String) :
    view (rest.foldl feed s) = run rule before rest (view s) := by
  induction rest generalizing before s with
  | nil => rfl
  | cons line rest ih =>
    rw [List.foldl_cons, ih (hkeep before s line h), hview before s line h]
    rfl

end Desk

end TlaDigest
