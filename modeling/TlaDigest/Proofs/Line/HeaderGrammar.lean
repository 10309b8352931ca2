import TlaDigest.Proofs.Line.SpanText

/-!
# The grammar of headers that name a path

A header with a position is a path, a colon, a span, a colon and a tag (`Placed`); as the path may
hold colons and digits of its own, a line can have many such decompositions, and the one with the
shortest path counts (`exists_shortest_of_positioned?`). A header without a position is a plain
name, perhaps behind a drive, a colon and a tag (`Unplaced`). `classify_header_grammar` says what a
line is in terms of the two; a position whose numbers are no words is not given a second chance as a
header without one.
-/

namespace TlaDigest

open Text

/-! ### Tags -/

theorem Severity.lower_eq_toLower (c : Char) : lower c = c.toLower := by
  have hupper : ∀ d : Fin 26, lower (Char.ofNat (65 + d.val)) = (Char.ofNat (65 + d.val)).toLower :=
    by decide
  by_cases h : 'A' ≤ c ∧ c ≤ 'Z'
  · have hcode : 65 ≤ c.toNat ∧ c.toNat ≤ 90 := by
      simpa [Char.le_def, UInt32.le_iff_toNat_le] using h
    have hletter := hupper ⟨c.toNat - 65, by omega⟩
    rwa [Nat.add_sub_cancel' hcode.1, Char.ofNat_toNat] at hletter
  · have hval : ¬ (c.val ≥ 'A'.val ∧ c.val ≤ 'Z'.val) := h
    delta Char.toLower
    rw [lower, if_neg h, dif_neg hval]

theorem Severity.tag_toList_injective {s t : Severity} (h : s.tag.toList = t.tag.toList) :
    s = t := by
  revert h
  cases s <;> cases t <;> decide

theorem Severity.ofTag?_eq_some_iff {cs : List Char} {s : Severity} :
    ofTag? cs = some s ↔ cs.map Char.toLower = s.tag.toList := by
  have hlower : cs.map lower = cs.map Char.toLower :=
    List.map_congr_left fun c _ => lower_eq_toLower c
  unfold ofTag?
  dsimp only
  rw [hlower]
  constructor
  · intro h
    split at h
    · next herror =>
      obtain rfl : Severity.error = s := by simpa using h
      exact herror
    · split at h
      · next hwarning =>
        obtain rfl : Severity.warning = s := by simpa using h
        exact hwarning
      · cases h
  · intro h
    rw [h]
    cases s <;> rfl

namespace Header

/-- Blanks, a tag in upper or lower case, and perhaps a colon and a message. A line break can stand
    only among the blanks at the front of the message. -/
structure TagText where
  blanks : List Char
  blank : ∀ c ∈ blanks, isBlank c = true
  tag : List Char
  severity : Severity
  spelled : tag.map Char.toLower = severity.tag.toList
  message : Option (List Char)
  unbroken : ∀ m ∈ message, ∃ u text, m = u ++ text ∧ (∀ c ∈ u, isBlank c = true) ∧ '\n' ∉ text

namespace TagText

def tail (t : TagText) : List Char :=
  match t.message with
  | none => []
  | some m => ':' :: m

def chars (t : TagText) : List Char := t.blanks ++ (t.tag ++ t.tail)

def text? (t : TagText) : Option String :=
  t.message.bind fun m => if trim m = [] then none else some (String.ofList (trim m))

def tagged (t : TagText) : Tagged := ⟨t.severity, t.text?⟩

theorem toLower_mem {t : TagText} {c : Char} (h : c ∈ t.tag) :
    c.toLower ∈ t.severity.tag.toList := by
  rw [← t.spelled]
  exact List.mem_map_of_mem h

/-- A tag is made of ASCII letters. -/
theorem isAlpha_of_mem {t : TagText} {c : Char} (h : c ∈ t.tag) : c.isAlpha = true := by
  by_cases hupper : 'A' ≤ c ∧ c ≤ 'Z'
  · simp [isAlpha_eq, hupper]
  · -- what is no capital is a letter of the tag as it stands
    have hmem := toLower_mem h
    rw [← Severity.lower_eq_toLower, Severity.lower, if_neg hupper] at hmem
    have hletters : t.severity.tag.toList.all Char.isAlpha = true := by
      cases t.severity <;> decide
    exact List.all_eq_true.mp hletters c hmem

theorem visible {t : TagText} {c : Char} (h : c ∈ t.tag) : isBlank c = false :=
  isBlank_eq_false_of_isAlpha (isAlpha_of_mem h)

theorem colon_notMem_tag (t : TagText) : ':' ∉ t.tag := by
  intro h
  have hmem := toLower_mem h
  cases hseverity : t.severity <;> rw [hseverity] at hmem <;> exact absurd hmem (by decide)

theorem tag_ne_nil (t : TagText) : t.tag ≠ [] := by
  intro hnil
  have hspelled := t.spelled
  rw [hnil] at hspelled
  cases hseverity : t.severity <;> rw [hseverity] at hspelled <;> exact absurd hspelled (by decide)

@[simp] theorem trimStart_chars (t : TagText) : trimStart t.chars = t.tag ++ t.tail := by
  rw [trimStart, chars, List.dropWhile_append_of_pos t.blank]
  cases htag : t.tag with
  | nil => exact absurd htag t.tag_ne_nil
  | cons c tag =>
    have hc : isBlank c = false := visible (t := t) (by simp [htag])
    rw [List.cons_append, List.dropWhile_cons_of_neg (by simp [hc])]

theorem cutAt_colon (t : TagText) : cutAt (· == ':') (t.tag ++ t.tail) = (t.tag, t.tail) := by
  refine cutAt_eq_iff.mpr ⟨rfl, ?_, ?_⟩
  · intro c hc
    rw [beq_eq_false_iff_ne]
    rintro rfl
    exact t.colon_notMem_tag hc
  · intro c hc
    unfold tail at hc
    split at hc
    · cases hc
    · obtain rfl : ':' = c := by simpa using hc
      rfl

/-- **Tag and message are told by their text.** -/
theorem chars_injective {t t' : TagText} (h : t.chars = t'.chars) : t = t' := by
  have hafter : t.tag ++ t.tail = t'.tag ++ t'.tail := by
    rw [← trimStart_chars, ← trimStart_chars, h]
  have hcut : (t.tag, t.tail) = (t'.tag, t'.tail) := by
    rw [← cutAt_colon, ← cutAt_colon, hafter]
  obtain ⟨htag, htail⟩ := Prod.mk.inj hcut
  have hblanks : t.blanks = t'.blanks := by
    unfold chars at h
    rw [hafter] at h
    exact List.append_cancel_right h
  have hseverity : t.severity = t'.severity := by
    apply Severity.tag_toList_injective
    rw [← t.spelled, ← t'.spelled, htag]
  have hmessage : t.message = t'.message := by
    unfold tail at htail
    cases hm : t.message with
    | none => cases hm' : t'.message <;> simp [hm, hm'] at htail ⊢
    | some m => cases hm' : t'.message <;> simp [hm, hm'] at htail ⊢; exact htail
  obtain ⟨blanks, hblank, tag, severity, hspelled, message, hunbroken⟩ := t
  obtain ⟨blanks', hblank', tag', severity', hspelled', message', hunbroken'⟩ := t'
  obtain rfl : blanks = blanks' := hblanks
  obtain rfl : tag = tag' := htag
  obtain rfl : severity = severity' := hseverity
  obtain rfl : message = message' := hmessage
  rfl

end TagText

theorem messageOf_eq (cs : List Char) :
    messageOf cs = if trim cs = [] then none else some (String.ofList (trim cs)) := by
  unfold messageOf
  split
  · next h => rw [if_pos h]
  · next h => rw [if_neg h]

@[simp] theorem messageOf_trimStart (cs : List Char) : messageOf (trimStart cs) = messageOf cs := by
  have htrim : trim (trimStart cs) = trim cs :=
    congrArg trimEnd (List.dropWhile_idempotent _ _)
  rw [messageOf_eq, messageOf_eq, htrim]

/-- **The reader of tags accepts what is written as one.** -/
theorem tagged?_eq_some_iff {cs : List Char} {tagged : Tagged} :
    tagged? cs = some tagged ↔ ∃ t : TagText, cs = t.chars ∧ t.tagged = tagged := by
  constructor
  · intro h
    obtain ⟨blanks, hblank, hcs⟩ := exists_trimStart cs
    rcases hcut : cutAt (· == ':') (trimStart cs) with ⟨word, rest⟩
    obtain ⟨hword, -, hcolon⟩ := cutAt_eq_iff.mp hcut
    unfold tagged? at h
    simp only [hcut] at h
    cases htag : Severity.ofTag? word with
    | none =>
      rw [htag] at h
      cases h
    | some severity =>
      have hspelled := Severity.ofTag?_eq_some_iff.mp htag
      cases rest with
      | nil =>
        obtain rfl : (⟨severity, none⟩ : Tagged) = tagged := by simpa [htag] using h
        refine ⟨⟨blanks, hblank, word, severity, hspelled, none, by simp⟩, ?_, rfl⟩
        rw [hcs, hword]
        rfl
      | cons c text =>
        obtain rfl : c = ':' := by simpa using hcolon
        simp only [htag] at h
        split at h
        · cases h
        · next hbreak =>
          rw [Option.some.injEq, messageOf_trimStart, messageOf_eq] at h
          obtain ⟨u, hu, htext⟩ := exists_trimStart text
          refine ⟨⟨blanks, hblank, word, severity, hspelled, some text, ?_⟩, ?_, h⟩
          · rintro m ⟨⟩
            exact ⟨u, trimStart text, htext, hu, by simpa using hbreak⟩
          · rw [hcs, hword]
            rfl
  · rintro ⟨t, rfl, rfl⟩
    have htag : Severity.ofTag? t.tag = some t.severity :=
      Severity.ofTag?_eq_some_iff.mpr t.spelled
    unfold tagged?
    simp only [t.trimStart_chars, t.cutAt_colon, htag]
    cases hmessage : t.message with
    | none => simp [TagText.tail, TagText.tagged, TagText.text?, hmessage]
    | some m =>
      obtain ⟨u, text, hm, hu, hbreak⟩ := t.unbroken m hmessage
      have hstart : '\n' ∉ trimStart m := by
        rw [hm, trimStart, List.dropWhile_append_of_pos hu]
        intro hmem
        exact hbreak ((List.dropWhile_sublist _).subset hmem)
      have htail : t.tail = ':' :: m := by simp [TagText.tail, hmessage]
      simp only [htail]
      rw [if_neg (by simpa using hstart), messageOf_trimStart, messageOf_eq]
      simp [TagText.tagged, TagText.text?, hmessage]

/-! ### Headers with a position -/

/-- A path that starts with a visible character, a span and a tag, with colons between them. -/
structure Placed where
  initial : Char
  visible : isBlank initial = false
  more : List Char
  unbroken : '\n' ∉ more
  span : Span.Text
  runs : span.Runs
  tag : TagText

namespace Placed

def path (d : Placed) : List Char := d.initial :: d.more

def chars (d : Placed) : List Char := d.path ++ ':' :: (d.span.chars ++ ':' :: d.tag.chars)

/-- The decomposition of a line with the shortest path; there is no other one that short. -/
structure IsShortest (d : Placed) (line : List Char) : Prop where
  chars_eq : d.chars = line
  shortest : ∀ d' : Placed, d'.chars = line → d' = d ∨ d.path.length < d'.path.length

end Placed

theorem text?_append_colon {span : Span.Text} (h : span.Runs) (rest : List Char) :
    Span.text? (span.chars ++ ':' :: rest) = some (span, ':' :: rest) := by
  refine Span.text?_eq_some_iff.mpr ⟨rfl, h, ?_, by simp⟩
  rintro c ⟨⟩
  decide

/-- What follows the path of a header with a position. -/
theorem placed?_eq_some_iff {cs : List Char} {span : Span.Text} {tagged : Tagged} :
    placed? cs = some (span, tagged) ↔
      ∃ t : TagText, cs = span.chars ++ ':' :: t.chars ∧ span.Runs ∧ t.tagged = tagged := by
  constructor
  · intro h
    unfold placed? at h
    split at h
    · next found rest htext =>
      obtain ⟨t, ht, heq⟩ := Option.map_eq_some_iff.mp h
      obtain ⟨rfl, rfl⟩ := Prod.mk.inj heq
      obtain ⟨tag, rfl, rfl⟩ := tagged?_eq_some_iff.mp ht
      obtain ⟨rfl, hruns, -, -⟩ := Span.text?_eq_some_iff.mp htext
      exact ⟨tag, rfl, hruns, rfl⟩
    · cases h
  · rintro ⟨t, rfl, hruns, rfl⟩
    rw [placed?, text?_append_colon hruns]
    simp only [tagged?_eq_some_iff.mpr ⟨t, rfl, rfl⟩, Option.map_some]

namespace Placed

theorem placed?_after_path (d : Placed) :
    placed? (d.span.chars ++ ':' :: d.tag.chars) = some (d.span, d.tag.tagged) :=
  placed?_eq_some_iff.mpr ⟨d.tag, rfl, d.runs, rfl⟩

/-- A decomposition of a line is settled by the length of its path. -/
theorem eq_of_length {d d' : Placed} (h : d.chars = d'.chars)
    (hlength : d.path.length = d'.path.length) : d = d' := by
  obtain ⟨hpath, hrest⟩ := List.append_inj h hlength
  have hafter : d.span.chars ++ ':' :: d.tag.chars = d'.span.chars ++ ':' :: d'.tag.chars :=
    (List.cons.inj hrest).2
  have hspan : some (d.span, ':' :: d.tag.chars) = some (d'.span, ':' :: d'.tag.chars) := by
    rw [← text?_append_colon d.runs, ← text?_append_colon d'.runs, hafter]
  rw [Option.some.injEq, Prod.mk.injEq, List.cons.injEq] at hspan
  obtain ⟨initial, hvisible, more, hunbroken, span, hruns, tag⟩ := d
  obtain ⟨initial', hvisible', more', hunbroken', span', hruns', tag'⟩ := d'
  obtain ⟨rfl, rfl⟩ : initial = initial' ∧ more = more' := List.cons.inj hpath
  obtain rfl : span = span' := hspan.1
  obtain rfl : tag = tag' := TagText.chars_injective hspan.2.2
  rfl

end Placed

theorem positionedFrom?_of_placed {cs : List Char} {found : Span.Text × Tagged}
    (h : placed? cs = some found) (path : List Char) :
    positionedFrom? path (':' :: cs) = some (path.reverse, found) := by
  rw [positionedFrom?, if_pos rfl, h]

/-- The search goes on where no colon ends the path. -/
theorem positionedFrom?_of_passed {c : Char} {cs : List Char} (h : c = ':' → placed? cs = none)
    (path : List Char) :
    positionedFrom? path (c :: cs) = if c = '\n' then none else positionedFrom? (c :: path) cs := by
  by_cases hc : c = ':'
  · rw [positionedFrom?, if_pos hc, h hc]
  · exact positionedFrom?_cons_of_ne path cs hc

/-- The search stops at the first colon that a span and a tag follow. -/
theorem positionedFrom?_sound {path cs p : List Char} {found : Span.Text × Tagged}
    (h : positionedFrom? path cs = some (p, found)) :
    ∃ front tail, cs = front ++ ':' :: tail ∧ '\n' ∉ front ∧ p = path.reverse ++ front ∧
      placed? tail = some found ∧
      ∀ front' tail', cs = front' ++ ':' :: tail' → front'.length < front.length →
        placed? tail' = none := by
  induction cs generalizing path with
  | nil => cases h
  | cons c cs ih =>
    by_cases hstop : c = ':' ∧ placed? cs ≠ none
    · obtain ⟨rfl, hplaced⟩ := hstop
      obtain ⟨found', hfound⟩ := Option.ne_none_iff_exists'.mp hplaced
      rw [positionedFrom?_of_placed hfound, Option.some.injEq, Prod.mk.injEq] at h
      obtain ⟨rfl, rfl⟩ := h
      refine ⟨[], cs, rfl, by simp, by simp, hfound, ?_⟩
      intro front' tail' _ hlength
      exact absurd hlength (Nat.not_lt_zero _)
    · have hpassed : c = ':' → placed? cs = none := by
        intro hc
        by_contra hne
        exact hstop ⟨hc, hne⟩
      rw [positionedFrom?_of_passed hpassed] at h
      split at h
      · cases h
      · next hbreak =>
        obtain ⟨front, tail, rfl, hfront, rfl, hplaced, hshortest⟩ := ih h
        refine ⟨c :: front, tail, rfl, ?_, by simp, hplaced, ?_⟩
        · rw [List.mem_cons, not_or]
          exact ⟨Ne.symm hbreak, hfront⟩
        · intro front' tail' hcs hlength
          cases front' with
          | nil =>
            obtain ⟨rfl, rfl⟩ := List.cons.inj hcs
            exact hpassed rfl
          | cons c' front' =>
            exact hshortest front' tail' (List.cons.inj hcs).2 (Nat.lt_of_succ_lt_succ hlength)

/-- The search finds something where there is something to find. -/
theorem positionedFrom?_complete {front tail : List Char} (hfront : '\n' ∉ front)
    (hplaced : placed? tail ≠ none) (path : List Char) :
    positionedFrom? path (front ++ ':' :: tail) ≠ none := by
  induction front generalizing path with
  | nil =>
    obtain ⟨found, hfound⟩ := Option.ne_none_iff_exists'.mp hplaced
    rw [List.nil_append, positionedFrom?_of_placed hfound]
    simp
  | cons c front ih =>
    rw [List.mem_cons, not_or] at hfront
    by_cases hstop : c = ':' → placed? (front ++ ':' :: tail) = none
    · rw [List.cons_append, positionedFrom?_of_passed hstop, if_neg (Ne.symm hfront.1)]
      exact ih hfront.2 (c :: path)
    · rw [Classical.not_imp] at hstop
      obtain ⟨rfl, hearlier⟩ := hstop
      obtain ⟨found, hfound⟩ := Option.ne_none_iff_exists'.mp hearlier
      rw [List.cons_append, positionedFrom?_of_placed hfound]
      simp

/-- **Of all decompositions the reader takes the one with the shortest path.** -/
theorem exists_shortest_of_positioned? {line p : List Char} {span : Span.Text} {tagged : Tagged}
    (h : positioned? line = some (p, span, tagged)) :
    ∃ d : Placed, d.IsShortest line ∧ d.path = p ∧ d.span = span ∧ d.tag.tagged = tagged := by
  cases line with
  | nil => cases h
  | cons c cs =>
    rw [positioned?] at h
    split at h
    · cases h
    · next hc =>
      obtain ⟨front, tail, rfl, hfront, rfl, hplaced, hshortest⟩ := positionedFrom?_sound h
      obtain ⟨tag, rfl, hruns, rfl⟩ := placed?_eq_some_iff.mp hplaced
      let d : Placed := ⟨c, by simpa using hc, front, hfront, span, hruns, tag⟩
      refine ⟨d, ⟨rfl, ?_⟩, rfl, rfl, rfl⟩
      intro d' hd'
      rcases Nat.lt_trichotomy d'.path.length d.path.length with hlt | heq | hgt
      · have hrest : front ++ ':' :: (span.chars ++ ':' :: tag.chars) =
            d'.more ++ ':' :: (d'.span.chars ++ ':' :: d'.tag.chars) :=
          (List.cons.inj hd').2.symm
        have hnone := hshortest _ _ hrest (Nat.lt_of_succ_lt_succ hlt)
        rw [d'.placed?_after_path] at hnone
        cases hnone
      · exact .inl (Placed.eq_of_length hd' heq)
      · exact .inr hgt

theorem Placed.positioned?_ne_none (d : Placed) : positioned? d.chars ≠ none := by
  have hplaced : placed? (d.span.chars ++ ':' :: d.tag.chars) ≠ none := by
    rw [d.placed?_after_path]
    simp
  change positioned? (d.initial :: (d.more ++ ':' :: (d.span.chars ++ ':' :: d.tag.chars))) ≠ none
  rw [positioned?, if_neg (by simp [d.visible])]
  exact positionedFrom?_complete d.unbroken hplaced _

/-- The header of the decomposition that counts, where its numbers are words. -/
theorem exists_shortest_of_placed {line : List Char} (h : ∃ d : Placed, d.chars = line) :
    ∃ d : Placed, d.IsShortest line ∧ ofLine? line = d.span.value?.map fun span =>
      ⟨.path ⟨String.ofList d.path⟩, some span, some d.tag.severity, d.tag.text?⟩ := by
  obtain ⟨d₀, rfl⟩ := h
  obtain ⟨⟨path, span, tagged⟩, hfound⟩ :=
    Option.ne_none_iff_exists'.mp d₀.positioned?_ne_none
  obtain ⟨d, hd, rfl, rfl, rfl⟩ := exists_shortest_of_positioned? hfound
  refine ⟨d, hd, ?_⟩
  rw [ofLine?, hfound]
  rfl

/-- Where there is no decomposition, none is found. -/
theorem positioned?_eq_none {line : List Char} (h : ∀ d : Placed, d.chars ≠ line) :
    positioned? line = none := by
  rw [Option.eq_none_iff_forall_ne_some]
  rintro ⟨path, span, tagged⟩ hfound
  obtain ⟨d, hd, -⟩ := exists_shortest_of_positioned? hfound
  exact h d hd.chars_eq

/-! ### Headers without a position -/

/-- Perhaps a drive and a colon, then a name without colon and blank, a colon and a tag. -/
structure Unplaced where
  drive : Option Char
  letter : ∀ c ∈ drive, c.isAlpha = true
  name : List Char
  run : Run (fun c => c != ':' && !isBlank c) name
  tag : TagText

namespace Unplaced

def path (d : Unplaced) : List Char :=
  match d.drive with
  | none => d.name
  | some c => c :: ':' :: d.name

def chars (d : Unplaced) : List Char := d.path ++ ':' :: d.tag.chars

/-- A reading of a line that counts: one with a drive, if there is such a reading. -/
structure Prevails (d : Unplaced) (line : List Char) : Prop where
  chars_eq : d.chars = line
  drive_first : d.drive = none → ∀ d' : Unplaced, d'.chars = line → d'.drive = none

end Unplaced

theorem plain?_eq_some_iff {cs p : List Char} {tagged : Tagged} :
    plain? cs = some (p, tagged) ↔
      ∃ t : TagText, cs = p ++ ':' :: t.chars ∧ Run (fun c => c != ':' && !isBlank c) p ∧
        t.tagged = tagged := by
  constructor
  · intro h
    unfold plain? at h
    split at h
    · cases h
    · next front rest hne hcut =>
      obtain ⟨t, ht, heq⟩ := Option.map_eq_some_iff.mp h
      obtain ⟨rfl, rfl⟩ := Prod.mk.inj heq
      obtain ⟨tag, rfl, rfl⟩ := tagged?_eq_some_iff.mp ht
      obtain ⟨rfl, hfront, -⟩ := cutAt_eq_iff.mp hcut
      refine ⟨tag, rfl, ⟨?_, ?_⟩, rfl⟩
      · rintro rfl
        exact hne rfl
      · intro c hc
        simpa using hfront c hc
    · cases h
  · rintro ⟨t, rfl, hrun, rfl⟩
    have hcut : cutAt (fun c => c == ':' || isBlank c) (p ++ ':' :: t.chars) =
        (p, ':' :: t.chars) := by
      refine cutAt_eq_iff.mpr ⟨rfl, ?_, by simp⟩
      intro c hc
      simpa using hrun.all c hc
    unfold plain?
    rw [hcut]
    split
    · next heq => exact absurd (Prod.mk.inj heq).1 hrun.ne_nil
    · next heq =>
      obtain ⟨rfl, htail⟩ := Prod.mk.inj heq
      obtain ⟨-, rfl⟩ := List.cons.inj htail
      simp only [tagged?_eq_some_iff.mpr ⟨t, rfl, rfl⟩, Option.map_some]
    · next heq => exact absurd rfl (heq _ _)

theorem driven?_eq_some_iff {cs p : List Char} {tagged : Tagged} :
    driven? cs = some (p, tagged) ↔
      ∃ d : Unplaced, d.chars = cs ∧ d.drive ≠ none ∧ d.path = p ∧ d.tag.tagged = tagged := by
  constructor
  · intro h
    unfold driven? at h
    split at h
    · next c rest =>
      split at h
      · next hc =>
        obtain ⟨⟨name, t⟩, hplain, heq⟩ := Option.map_eq_some_iff.mp h
        obtain ⟨rfl, rfl⟩ := Prod.mk.inj heq
        obtain ⟨tag, rfl, hrun, rfl⟩ := plain?_eq_some_iff.mp hplain
        refine ⟨⟨some c, ?_, name, hrun, tag⟩, rfl, by simp, rfl, rfl⟩
        rintro _ ⟨⟩
        exact hc
      · cases h
    · cases h
  · rintro ⟨⟨drive, hletter, name, hrun, tag⟩, rfl, hdrive, rfl, rfl⟩
    cases drive with
    | none => exact absurd rfl hdrive
    | some c =>
      have hplain : plain? (name ++ ':' :: tag.chars) = some (name, tag.tagged) :=
        plain?_eq_some_iff.mpr ⟨tag, rfl, hrun, rfl⟩
      change driven? (c :: ':' :: (name ++ ':' :: tag.chars)) = some (c :: ':' :: name, tag.tagged)
      rw [driven?, if_pos (hletter c rfl), hplain]
      rfl

/-- **A header without a position is read with its drive if it has one.** -/
theorem unpositioned?_eq_some_iff {line p : List Char} {tagged : Tagged} :
    unpositioned? line = some (p, tagged) ↔
      ∃ d : Unplaced, d.Prevails line ∧ d.path = p ∧ d.tag.tagged = tagged := by
  have hdriven : ∀ d : Unplaced, d.chars = line → d.drive ≠ none →
      driven? line = some (d.path, d.tag.tagged) := by
    intro d hd hdrive
    exact driven?_eq_some_iff.mpr ⟨d, hd, hdrive, rfl, rfl⟩
  unfold unpositioned?
  cases h : driven? line with
  | some found =>
    obtain ⟨d, hd, hdrive, hpath, htagged⟩ := driven?_eq_some_iff.mp h
    change some found = some (p, tagged) ↔ _
    rw [← h]
    constructor
    · intro hfound
      obtain ⟨d, hd, hdrive, hpath, htagged⟩ := driven?_eq_some_iff.mp hfound
      exact ⟨d, ⟨hd, fun hnone => absurd hnone hdrive⟩, hpath, htagged⟩
    · rintro ⟨d', ⟨hd', hfirst⟩, rfl, rfl⟩
      apply hdriven d' hd'
      intro hnone
      exact hdrive (hfirst hnone d hd)
  | none =>
    have hundriven : ∀ d : Unplaced, d.chars = line → d.drive = none := by
      intro d hd
      by_contra hdrive
      rw [hdriven d hd hdrive] at h
      cases h
    change plain? line = some (p, tagged) ↔ _
    rw [plain?_eq_some_iff]
    constructor
    · rintro ⟨tag, hline, hrun, htagged⟩
      exact ⟨⟨none, by simp, p, hrun, tag⟩, ⟨hline.symm, fun _ => hundriven⟩, rfl, htagged⟩
    · rintro ⟨⟨drive, hletter, name, hrun, tag⟩, ⟨hline, -⟩, rfl, rfl⟩
      obtain rfl : drive = none := hundriven _ hline
      exact ⟨tag, hline.symm, hrun, rfl⟩

end Header

/-! ### Lines -/

namespace Line

open Header

/-- A line that is neither record nor banner is a header or loose text. -/
theorem classify_of_unstructured {line : String} (hstatus : ∀ s, classify line ≠ .status s)
    (hbanner : ∀ s, classify line ≠ .banner s) :
    classify line = ((Header.ofLine? line.toList).map .header).getD (loose line) := by
  unfold classify at hstatus hbanner ⊢
  cases hs : Status.ofLine? line.toList with
  | some s =>
    rw [hs] at hstatus
    exact absurd rfl (hstatus s)
  | none =>
    simp only [hs] at hbanner ⊢
    cases hb : Section.ofLine? line.toList with
    | some s =>
      rw [hb] at hbanner
      exact absurd rfl (hbanner s)
    | none => cases Header.ofLine? line.toList <;> rfl

theorem classify_eq_header_iff {line : String} (hstatus : ∀ s, classify line ≠ .status s)
    (hbanner : ∀ s, classify line ≠ .banner s) (h : Header) :
    classify line = .header h ↔ Header.ofLine? line.toList = some h := by
  rw [classify_of_unstructured hstatus hbanner]
  cases Header.ofLine? line.toList with
  | some h' => simp
  | none =>
    rcases loose_cases line with h | h <;> simp [h]

theorem span_ofModule? {m : Span.Text × List Char} {h : Header} (hm : ofModule? m = some h) :
    h.span ≠ none := by
  obtain ⟨span, -, rfl⟩ := Option.map_eq_some_iff.mp hm
  simp

/-- Without a decomposition for a position, the headers without a span are the unplaced ones. -/
theorem ofLine?_spanless_iff {line : List Char} (hpositioned : positioned? line = none)
    (h : Header) :
    Header.ofLine? line = some h ∧ h.span = none ↔
      ∃ p tagged, unpositioned? line = some (p, tagged) ∧
        h = ⟨.path ⟨String.ofList p⟩, none, some tagged.severity, tagged.message⟩ := by
  cases hplain : unpositioned? line with
  | some found =>
    rw [Header.ofLine?, hpositioned, hplain]
    constructor
    · rintro ⟨hsome, -⟩
      exact ⟨found.1, found.2, rfl, (Option.some.inj hsome).symm⟩
    · rintro ⟨p, tagged, hfound, rfl⟩
      obtain rfl := Option.some.inj hfound
      exact ⟨rfl, rfl⟩
  | none =>
    rw [ofLine?_of_unplaced hpositioned hplain]
    constructor
    · rintro ⟨hsome, hspan⟩
      obtain ⟨m, -, hm⟩ := Option.bind_eq_some_iff.mp hsome
      exact absurd hspan (span_ofModule? hm)
    · rintro ⟨p, tagged, hfound, -⟩
      cases hfound

/-- A line that starts with a visible character is no message. -/
theorem loose_of_visible {line : String} {c : Char} {cs : List Char} (hline : line.toList = c :: cs)
    (hc : isBlank c = false) : loose line = .unrecognized line := by
  have hindent : isIndented line.toList = false := by
    rw [hline, isIndented, Bool.or_eq_false_iff, beq_eq_false_iff_ne, beq_eq_false_iff_ne]
    constructor
    · rintro rfl
      exact absurd hc (by decide)
    · rintro rfl
      exact absurd hc (by decide)
  unfold loose
  split
  · rfl
  · rw [hindent]
    rfl

/-- **The lines that are headers with a path.** Of the decompositions of a line as a header with a
    position only the one with the shortest path counts: the line is that header when its digits are
    ASCII and its numbers are words, and else it is nothing. Where there is no decomposition, the
    line is a header without a position exactly if it reads as one, with a drive where it can. -/
theorem classify_header_grammar (line : String) (hstatus : ∀ s, classify line ≠ .status s)
    (hbanner : ∀ s, classify line ≠ .banner s) :
    ((∃ d : Placed, d.chars = line.toList) →
      ∃ d : Placed, d.IsShortest line.toList ∧
        (∀ span, d.span.Denotes span → classify line =
          .header ⟨.path ⟨String.ofList d.path⟩, some span, some d.tag.severity, d.tag.text?⟩) ∧
        ((∀ span, ¬ d.span.Denotes span) → classify line = .unrecognized line)) ∧
    ((∀ d : Placed, d.chars ≠ line.toList) →
      ∀ h : Header, classify line = .header h ∧ h.span = none ↔
        ∃ d : Unplaced, d.Prevails line.toList ∧
          h = ⟨.path ⟨String.ofList d.path⟩, none, some d.tag.severity, d.tag.text?⟩) := by
  have hclassify := classify_of_unstructured hstatus hbanner
  constructor
  · intro hplaced
    obtain ⟨d, hd, hofLine⟩ := exists_shortest_of_placed hplaced
    rw [hofLine] at hclassify
    refine ⟨d, hd, ?_, ?_⟩
    · intro span hspan
      rw [hclassify, Span.Text.value?_eq_some_iff.mpr hspan]
      rfl
    · intro hnone
      have hvalue : d.span.value? = none := by
        rw [Option.eq_none_iff_forall_ne_some]
        intro span hspan
        exact hnone span (Span.Text.value?_eq_some_iff.mp hspan)
      rw [hclassify, hvalue]
      exact loose_of_visible hd.chars_eq.symm d.visible
  · intro hunplaced h
    have hpositioned := positioned?_eq_none hunplaced
    rw [classify_eq_header_iff hstatus hbanner, ofLine?_spanless_iff hpositioned]
    simp only [unpositioned?_eq_some_iff]
    constructor
    · rintro ⟨_, _, ⟨d, hd, rfl, rfl⟩, rfl⟩
      exact ⟨d, hd, rfl⟩
    · rintro ⟨d, hd, rfl⟩
      exact ⟨d.path, d.tag.tagged, ⟨d, hd, rfl, rfl⟩, rfl⟩

/-- Two lines with rival readings: the path could also reach to the second position, and the drive
    could also be the path. -/
theorem classify_header_grammar_of_rivals :
    (∃ d : Placed, d.IsShortest "q:9:1:2: Error: b:3:4: error".toList ∧
      d.path = "q:9".toList ∧ d.tag.text? = some "b:3:4: error") ∧
    ∃ d : Unplaced, d.Prevails "a:error: error".toList ∧ d.path = "a:error".toList := by
  constructor
  · have hline : classify "q:9:1:2: Error: b:3:4: error" =
        .header ⟨.path ⟨"q:9"⟩, some ⟨⟨1, 2⟩, none⟩, some .error, some "b:3:4: error"⟩ := by
      decide +kernel
    have hfound : positioned? "q:9:1:2: Error: b:3:4: error".toList =
        some ("q:9".toList, ⟨⟨['1'], ['2']⟩, none⟩, ⟨.error, some "b:3:4: error"⟩) := by
      decide +kernel
    obtain ⟨d₀, hd₀, -⟩ := exists_shortest_of_positioned? hfound
    obtain ⟨d, hd, hwords, hrest⟩ := (classify_header_grammar "q:9:1:2: Error: b:3:4: error"
      (by simp [hline]) (by simp [hline])).1 ⟨d₀, hd₀.chars_eq⟩
    by_cases hdenotes : ∃ span, d.span.Denotes span
    · obtain ⟨span, hspan⟩ := hdenotes
      have hsame := hline.symm.trans (hwords span hspan)
      simp only [Line.header.injEq, Header.mk.injEq, Target.path.injEq, Path.mk.injEq] at hsame
      exact ⟨d, hd, by rw [hsame.1, String.toList_ofList], hsame.2.2.2.symm⟩
    · have hsame := hline.symm.trans (hrest (not_exists.mp hdenotes))
      cases hsame
  · have hline : classify "a:error: error" =
        .header ⟨.path ⟨"a:error"⟩, none, some .error, none⟩ := by decide +kernel
    have hunplaced : ∀ d : Placed, d.chars ≠ "a:error: error".toList := by
      intro d hd
      apply d.positioned?_ne_none
      rw [hd]
      decide +kernel
    obtain ⟨d, hd, hsame⟩ := ((classify_header_grammar "a:error: error" (by simp [hline])
      (by simp [hline])).2 hunplaced _).mp ⟨hline, rfl⟩
    simp only [Header.mk.injEq, Target.path.injEq, Path.mk.injEq] at hsame
    exact ⟨d, hd, by rw [hsame.1, String.toList_ofList]⟩

end Line

end TlaDigest
