import TlaDigest.Proofs.Findings
import TlaDigest.Proofs.Line.Headline

/-!
# Diagnostics that can be written down and read again

Their message is made of lines that are trimmed and not empty, and a line of it below the first is
still text when it is indented; their range starts at a place that can be counted from one
(`Diagnostic.Legible`).

Every diagnostic that a parser reports is legible (`legible_of_finding?`), whatever its rule for
headers: the text on a header is trimmed by its reader, and a line of the body did not end the
message where it stood, so it does not do so when it is indented.
-/

namespace TlaDigest

open Text

/-- A line of a message: it has text and no blanks around it. -/
structure IsPart (part : String) : Prop where
  trim_eq : trim part.toList = part.toList
  ne_nil : part.toList ≠ []
  unbroken : '\n' ∉ part.toList

def indented (part : String) : String := "    " ++ part

/-- The lines of a message. Those below the first stay text when they are indented. -/
structure MessageParts (parts : List String) : Prop where
  part : ∀ p ∈ parts, IsPart p
  text : ∀ p ∈ parts.tail, (Line.classify (indented p)).endsMessage = false

structure Diagnostic.Legible (d : Diagnostic) : Prop where
  line : predecessor (d.range.start.line + 1) = d.range.start.line
  column : predecessor (d.range.start.column + 1) = d.range.start.column
  message : ∃ parts, MessageParts parts ∧ d.message = joinLines parts

/-- Visible text on one line is a line of a message. -/
theorem isPart_trim {cs : List Char} (hne : trim cs ≠ []) (hbreak : '\n' ∉ cs) :
    IsPart (String.ofList (trim cs)) where
  trim_eq := by rw [String.toList_ofList, trim_trim]
  ne_nil := by rwa [String.toList_ofList]
  unbroken := by
    rw [String.toList_ofList]
    exact fun hmem => hbreak (mem_of_mem_trim hmem)

/-! ### The text on a header -/

namespace Header

def HasPart (message : Option String) : Prop := ∀ m ∈ message, IsPart m

theorem hasPart_messageOf {text : List Char} (hbreak : '\n' ∉ text) : HasPart (messageOf text) := by
  intro m hm
  unfold messageOf at hm
  split at hm
  · cases hm
  · next hne =>
    cases hm
    exact isPart_trim hne hbreak

theorem hasPart_tagged? {cs : List Char} {t : Tagged} (h : tagged? cs = some t) :
    HasPart t.message := by
  unfold tagged? at h
  simp only at h
  split at h
  · cases h
  · split at h
    · cases h
      rintro m ⟨⟩
    · split at h
      · cases h
      · next hbreak =>
        cases h
        exact hasPart_messageOf (by simpa using hbreak)

theorem hasPart_placed? {cs : List Char} {found : Span.Text × Tagged}
    (h : placed? cs = some found) : HasPart found.2.message := by
  unfold placed? at h
  split at h
  · obtain ⟨t, ht, rfl⟩ := Option.map_eq_some_iff.mp h
    exact hasPart_tagged? ht
  · cases h

theorem hasPart_positionedFrom? {path cs : List Char} {found : List Char × Span.Text × Tagged}
    (h : positionedFrom? path cs = some found) : HasPart found.2.2.message := by
  induction cs generalizing path with
  | nil => cases h
  | cons c cs ih =>
    rw [positionedFrom?] at h
    split at h
    · next hplaced =>
      cases h
      split at hplaced
      · exact hasPart_placed? hplaced
      · cases hplaced
    · split at h
      · cases h
      · exact ih h

theorem hasPart_plain? {cs : List Char} {found : List Char × Tagged} (h : plain? cs = some found) :
    HasPart found.2.message := by
  unfold plain? at h
  split at h
  · cases h
  · obtain ⟨t, ht, rfl⟩ := Option.map_eq_some_iff.mp h
    exact hasPart_tagged? ht
  · cases h

theorem hasPart_driven? {cs : List Char} {found : List Char × Tagged}
    (h : driven? cs = some found) : HasPart found.2.message := by
  unfold driven? at h
  split at h
  · split at h
    · obtain ⟨⟨path, t⟩, hplain, rfl⟩ := Option.map_eq_some_iff.mp h
      have ht := hasPart_plain? hplain
      exact ht
    · cases h
  · cases h

/-- **The text on a header is a line of a message.** -/
theorem hasPart_ofLine? {line : List Char} {h : Header} (hline : ofLine? line = some h) :
    HasPart h.message := by
  unfold ofLine? at hline
  split at hline
  · next path span t hpos =>
    obtain ⟨span, -, rfl⟩ := Option.map_eq_some_iff.mp hline
    unfold positioned? at hpos
    split at hpos
    · cases hpos
    · split at hpos
      · cases hpos
      · exact hasPart_positionedFrom? hpos
  · split at hline
    · next path t hplain =>
      cases hline
      unfold unpositioned? at hplain
      cases hdriven : driven? line with
      | some found =>
        rw [hdriven] at hplain
        cases hplain
        exact hasPart_driven? hdriven
      | none =>
        rw [hdriven] at hplain
        exact hasPart_plain? hplain
    · split at hline
      · obtain ⟨span, -, rfl⟩ := Option.map_eq_some_iff.mp hline
        rintro m ⟨⟩
      · cases hline

end Header

theorem Line.ofLine?_of_classify_header {line : String} {h : Header}
    (hclassify : classify line = .header h) : Header.ofLine? line.toList = some h := by
  unfold classify at hclassify
  split at hclassify
  · cases hclassify
  · split at hclassify
    · cases hclassify
    · split at hclassify
      · next hheader =>
        cases hclassify
        exact hheader
      · unfold loose at hclassify
        repeat' split at hclassify
        all_goals cases hclassify

/-! ### The text below a header -/

@[simp] theorem toList_indented (part : String) :
    (indented part).toList = ' ' :: ' ' :: ' ' :: ' ' :: part.toList := by
  rw [indented, String.toList_append]
  rfl

/-- Indentation does not count as text. -/
@[simp] theorem trim_indented (part : String) : trim (indented part).toList = trim part.toList := by
  rw [toList_indented]
  exact trim_append_of_blank (u := [' ', ' ', ' ', ' ']) (List.all_eq_true.mp (by decide)) _

/-- A line of the body is text where it stands, and so it is when it is indented. -/
theorem mem_bodyOf {after : List String} (hbreak : ∀ line ∈ after, '\n' ∉ line.toList)
    {part : String} (h : part ∈ bodyOf after) :
    IsPart part ∧ (Line.classify (indented part)).endsMessage = false := by
  unfold bodyOf texts at h
  obtain ⟨hmem, hne⟩ := List.mem_filter.mp h
  obtain ⟨line, hline, rfl⟩ := List.mem_map.mp hmem
  have htext := List.mem_takeWhile_imp hline
  have hvisible : trim line.toList ≠ [] := by
    rw [ne_eq, ← trimmed_eq_empty_iff]
    simpa using hne
  refine ⟨isPart_trim hvisible (hbreak line ((List.takeWhile_prefix _).subset hline)), ?_⟩
  cases hends : (Line.classify (indented (trimmed line))).endsMessage with
  | false => rfl
  | true =>
    have htrim : trim (indented (trimmed line)).toList = trim line.toList := by
      rw [trim_indented, trim_toList_trimmed]
    have hline' := Line.endsMessage_of_indented (toList_indented _) (by decide) htrim hends
    rw [hline'] at htext
    cases htext

/-! ### Findings -/

theorem predecessor_predecessor_add_one (n : UInt32) :
    predecessor (predecessor n + 1) = predecessor n := by
  unfold predecessor
  by_cases hn : n = 0
  · subst hn
    decide
  · rw [if_neg hn]
    have hback : n - 1 + 1 = n := by simp
    rw [hback, if_neg hn]

/-- A message starts where counting from one leads back to. -/
theorem start_toRange (span : Option Span) :
    ∃ spot : Spot, ((span.map Span.toRange).getD (.point ⟨0, 0⟩)).start =
      ⟨predecessor spot.line, predecessor spot.column⟩ := by
  cases span with
  | none => exact ⟨⟨0, 0⟩, rfl⟩
  | some span =>
    obtain ⟨first, last⟩ := span
    cases last <;> exact ⟨first, rfl⟩

theorem messageParts_append {message : Option String} (hmessage : Header.HasPart message)
    {body : List String}
    (hbody : ∀ p ∈ body, IsPart p ∧ (Line.classify (indented p)).endsMessage = false) :
    MessageParts (message.toList ++ body) where
  part p hp := by
    rcases List.mem_append.mp hp with hp | hp
    · exact hmessage p (Option.mem_toList.mp hp)
    · exact (hbody p hp).1
  text p hp := by
    cases message with
    | none => exact (hbody p (List.mem_of_mem_tail hp)).2
    | some m => exact (hbody p hp).2

/-- **What a header reports is legible**, whatever the rule for headers. -/
theorem legible_of_finding? {rule : HeaderRule} {cut : Cut} {finding : Finding}
    (hbreak : ∀ line ∈ cut.after, '\n' ∉ line.toList) (h : rule.finding? cut = some finding) :
    finding.diagnostic.Legible := by
  unfold HeaderRule.finding? at h
  split at h
  · next header hclassify =>
    obtain ⟨a, -, rfl⟩ := Option.map_eq_some_iff.mp h
    obtain ⟨spot, hstart⟩ := start_toRange header.span
    have hheader := Header.hasPart_ofLine? (Line.ofLine?_of_classify_header hclassify)
    refine ⟨?_, ?_, _, messageParts_append hheader fun p hp => mem_bodyOf hbreak hp, rfl⟩
    · simp only [Attribution.finding, hstart, predecessor_predecessor_add_one]
    · simp only [Attribution.finding, hstart, predecessor_predecessor_add_one]
  · cases h

theorem mem_cutsAfter {before lines : List String} {cut : Cut} (h : cut ∈ cutsAfter before lines) :
    ∀ line ∈ cut.after, line ∈ lines := by
  induction lines generalizing before with
  | nil => cases h
  | cons first lines ih =>
    rcases List.mem_cons.mp h with rfl | h
    · exact fun line hline => List.mem_cons_of_mem first hline
    · exact fun line hline => List.mem_cons_of_mem first (ih h line hline)

/-- The reports of a run are legible. -/
theorem legible_of_mem_filterMap {rule : HeaderRule} {lines : List String}
    (hbreak : ∀ line ∈ lines, '\n' ∉ line.toList) {finding : Finding}
    (h : finding ∈ (cuts lines).filterMap rule.finding?) : finding.diagnostic.Legible := by
  obtain ⟨cut, hcut, hfinding⟩ := List.mem_filterMap.mp h
  exact legible_of_finding? (fun line hline => hbreak line (mem_cutsAfter hcut line hline)) hfinding

namespace Findings

/-- Every diagnostic was reported. -/
theorem mem_diagnostics_ofLog {log : List Finding} {d : Diagnostic}
    (h : d ∈ (ofLog log).diagnostics) : ∃ finding ∈ log, finding.diagnostic = d :=
  List.mem_map.mp ((diagnostics_ofLog_perm log).mem_iff.mp h)

end Findings

end TlaDigest
