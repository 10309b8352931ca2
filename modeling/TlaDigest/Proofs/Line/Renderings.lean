import TlaDigest.Proofs.Line.FieldGrammar
import TlaDigest.Proofs.Line.SpanText

/-!
# Status records as they may be written

A record has a slot for each of its keys (`Status.slots`), and some fields show the record when
every key is one of its own and the last value under each key is one that its slot admits
(`Status.Shows`): the order of the fields, values that are overwritten, quotes and blanks are all
free. `ofFields?_of_shows` reads the record back from such fields, and `ofFields?_congr` says that
nothing but the last values counts.
-/

namespace TlaDigest

open Text

namespace Field

/-! ### Last values -/

def IsLast (fields : List Field) (key value : String) : Prop :=
  ∃ front back, fields = front ++ ⟨key, value⟩ :: back ∧ ∀ f ∈ back, f.key ≠ key

theorem lookup?_eq_some_iff {key value : String} {fields : List Field} :
    lookup? key fields = some value ↔ IsLast fields key value := by
  rw [lookup?, Option.map_eq_some_iff]
  simp only [List.find?_eq_some_iff_append, decide_eq_true_eq, Bool.not_eq_true',
    decide_eq_false_iff_not]
  constructor
  · rintro ⟨f, ⟨rfl, back, front, hfields, hback⟩, rfl⟩
    refine ⟨front.reverse, back.reverse, ?_, fun g hg => hback g (List.mem_reverse.mp hg)⟩
    rw [← List.reverse_reverse fields, hfields]
    simp
  · rintro ⟨front, back, rfl, hback⟩
    refine ⟨⟨key, value⟩, ⟨rfl, back.reverse, front.reverse, by simp, ?_⟩, rfl⟩
    intro g hg
    exact hback g (List.mem_reverse.mp hg)

theorem lookup?_eq_none_iff {key : String} {fields : List Field} :
    lookup? key fields = none ↔ ∀ f ∈ fields, f.key ≠ key := by
  simp [lookup?]

/-- A list of fields can be written whenever its keys can be and its values hold no quote. -/
theorem exists_reading {fields : List Field} (hne : fields ≠ [])
    (hkeys : ∀ f ∈ fields, Run (fun c => c.isAlphanum || c == '_') f.key.toList)
    (hvalues : ∀ f ∈ fields, '"' ∉ f.value.toList) : ∃ r : Reading, r.fields = fields := by
  induction fields with
  | nil => exact absurd rfl hne
  | cons f fields ih =>
    let token : Token :=
      ⟨f.key.toList, hkeys f (by simp), .quoted f.value.toList (hvalues f (by simp))⟩
    have htoken : token.field = f := by simp [token, Token.field, Spelling.text]
    by_cases hmore : fields = []
    · exact ⟨.single token, by simp [Reading.fields, htoken, hmore]⟩
    · obtain ⟨r, hr⟩ := ih hmore (fun g hg => hkeys g (List.mem_cons_of_mem f hg))
        (fun g hg => hvalues g (List.mem_cons_of_mem f hg))
      have hgap : Run isBlank [' '] := ⟨by simp, by simp; decide⟩
      exact ⟨.cons token [' '] hgap r, by simp [Reading.fields, htoken, hr]⟩

end Field

open TlaDigest.Field

/-! ### What a record writes -/

/-- What stands under one key of a record: the values admitted there, and whether the key may be left
    out. -/
structure Slot where
  key : String
  optional : Prop
  admits : String → Prop

namespace Slot

def text (key : String) (value : Option String) : Slot := ⟨key, value = none, (value = some ·)⟩

def range (span : Span) : Slot :=
  ⟨"range", False, fun value => ∃ t : Span.Text, t.Denotes span ∧ value.toList = t.chars⟩

/-- A counter in decimal. Zero may be left out. -/
def count (key : String) (n : UInt32) : Slot :=
  ⟨key, n = 0, fun value => Numeral value.toList n.toNat⟩

/-- The last value under the key is admitted; where there is none, the key may be left out. -/
def Filled (slot : Slot) (fields : List Field) : Prop :=
  (slot.optional ∧ ∀ f ∈ fields, f.key ≠ slot.key) ∨
    ∃ value, IsLast fields slot.key value ∧ slot.admits value

theorem filled_iff {slot : Slot} {fields : List Field} :
    slot.Filled fields ↔ (lookup? slot.key fields).elim slot.optional slot.admits := by
  unfold Filled
  rw [← lookup?_eq_none_iff]
  simp only [← lookup?_eq_some_iff]
  cases lookup? slot.key fields with
  | none => simp
  | some value => simp

theorem lookup?_of_text {key : String} {value : Option String} {fields : List Field}
    (h : (text key value).Filled fields) : lookup? key fields = value := by
  have hfilled : (lookup? key fields).elim (value = none) (value = some ·) := filled_iff.mp h
  cases hlookup : lookup? key fields with
  | none =>
    rw [hlookup] at hfilled
    exact hfilled.symm
  | some found =>
    rw [hlookup] at hfilled
    exact hfilled.symm

theorem parse?_of_range {span : Span} {fields : List Field} (h : (range span).Filled fields) :
    (lookup? "range" fields).bind Span.parse? = some span := by
  rcases h with ⟨hfalse, -⟩ | ⟨value, hlast, t, ht, hvalue⟩
  · cases hfalse
  · have hlookup : lookup? "range" fields = some value := lookup?_eq_some_iff.mpr hlast
    rw [hlookup, Option.bind_some, ← String.ofList_toList (s := value), hvalue]
    exact Span.parse?_of_denotes ht

theorem counter?_of_count {key : String} {n : UInt32} {fields : List Field}
    (h : (count key n).Filled fields) : Status.counter? fields key = some n := by
  have hfilled : (lookup? key fields).elim (n = 0) (fun value => Numeral value.toList n.toNat) :=
    filled_iff.mp h
  unfold Status.counter?
  cases hlookup : lookup? key fields with
  | none =>
    rw [hlookup] at hfilled
    exact congrArg some hfilled.symm
  | some value =>
    rw [hlookup] at hfilled
    have hnumeral : Numeral value.toList n.toNat := hfilled
    change signedWord32? value.toList = some n
    unfold signedWord32?
    split
    · next cs hplus =>
      have hdigit := hnumeral.run.all '+' (by simp [hplus])
      exact absurd hdigit (by decide)
    · exact word32?_eq_some_iff.mpr hnumeral

end Slot

namespace Status

def slots : Status → List Slot
  | obligation role span status normalized =>
    [.text "role" (some role), .range span, .text "status" (some status),
      .text "normalized" normalized]
  | prover name method status reason =>
    [.text "prover" (some name), .text "meth" method, .text "status" (some status),
      .text "reason" reason]
  | tally counts =>
    [.count "proved" counts.proved, .count "failed" counts.failed, .count "omitted" counts.omitted,
      .count "missing" counts.missing, .count "pending" counts.pending,
      .count "progress" counts.progress]

/-- The fields write the record, with keys of its own only. -/
structure Shows (s : Status) (fields : List Field) : Prop where
  own : ∀ f ∈ fields, f.key ∈ s.slots.map (·.key)
  filled : ∀ slot ∈ s.slots, slot.Filled fields

theorem onlyKeys_iff {keys : List String} {fields : List Field} :
    onlyKeys keys fields = true ↔ ∀ f ∈ fields, f.key ∈ keys := by
  simp [onlyKeys]

theorem lookup?_of_onlyKeys {keys : List String} {fields : List Field}
    (h : onlyKeys keys fields = true) {key : String} (hkey : key ∉ keys) :
    lookup? key fields = none := by
  rw [lookup?_eq_none_iff]
  rintro f hf rfl
  exact hkey (onlyKeys_iff.mp h f hf)

theorem onlyKeys_iff_lookup? {keys : List String} {fields : List Field} :
    onlyKeys keys fields = true ↔ ∀ key, lookup? key fields ≠ none → key ∈ keys := by
  rw [onlyKeys_iff]
  constructor
  · intro h key hkey
    by_contra hmem
    exact hkey (lookup?_of_onlyKeys (onlyKeys_iff.mpr h) hmem)
  · intro h f hf
    apply h
    rw [Ne, lookup?_eq_none_iff]
    intro hunused
    exact hunused f hf rfl

/-- **A record is read back from the fields that show it.** -/
theorem ofFields?_of_shows {s : Status} {fields : List Field} (h : s.Shows fields) :
    ofFields? fields = some s := by
  obtain ⟨hown, hfilled⟩ := h
  cases s with
  | obligation role span status normalized =>
    have hrole := Slot.lookup?_of_text (hfilled (.text "role" (some role)) (by simp [slots]))
    have hrange := Slot.parse?_of_range (hfilled (.range span) (by simp [slots]))
    have hstatus := Slot.lookup?_of_text (hfilled (.text "status" (some status)) (by simp [slots]))
    have hnormalized :=
      Slot.lookup?_of_text (hfilled (.text "normalized" normalized) (by simp [slots]))
    have honly : onlyKeys obligationKeys fields = true := onlyKeys_iff.mpr hown
    rw [ofFields?, hrole, honly]
    simp [obligation?, hrange, hstatus, hnormalized]
  | prover name method status reason =>
    have hname := Slot.lookup?_of_text (hfilled (.text "prover" (some name)) (by simp [slots]))
    have hmethod := Slot.lookup?_of_text (hfilled (.text "meth" method) (by simp [slots]))
    have hstatus := Slot.lookup?_of_text (hfilled (.text "status" (some status)) (by simp [slots]))
    have hreason := Slot.lookup?_of_text (hfilled (.text "reason" reason) (by simp [slots]))
    have honly : onlyKeys proverKeys fields = true := onlyKeys_iff.mpr hown
    have hrole : lookup? "role" fields = none := lookup?_of_onlyKeys honly (by decide)
    rw [ofFields?, hrole, hname, honly]
    simp [prover?, hmethod, hstatus, hreason]
  | tally counts =>
    have hcounter : ∀ key n, Slot.count key n ∈ slots (.tally counts) →
        counter? fields key = some n := by
      intro key n hslot
      exact Slot.counter?_of_count (hfilled _ hslot)
    have honly : onlyKeys tallyKeys fields = true := onlyKeys_iff.mpr hown
    have hrole : lookup? "role" fields = none := lookup?_of_onlyKeys honly (by decide)
    have hprover : lookup? "prover" fields = none := lookup?_of_onlyKeys honly (by decide)
    rw [ofFields?, hrole, hprover, honly]
    simp [tally?, hcounter "proved" counts.proved (by simp [slots]),
      hcounter "failed" counts.failed (by simp [slots]),
      hcounter "omitted" counts.omitted (by simp [slots]),
      hcounter "missing" counts.missing (by simp [slots]),
      hcounter "pending" counts.pending (by simp [slots]),
      hcounter "progress" counts.progress (by simp [slots])]

/-- **Only the last values count.** -/
theorem ofFields?_congr {fs gs : List Field}
    (h : ∀ key value, IsLast fs key value ↔ IsLast gs key value) : ofFields? fs = ofFields? gs := by
  have hlookup : ∀ key, lookup? key fs = lookup? key gs := by
    intro key
    apply Option.ext
    intro value
    rw [lookup?_eq_some_iff, lookup?_eq_some_iff]
    exact h key value
  have honly : ∀ keys, onlyKeys keys fs = onlyKeys keys gs := by
    intro keys
    rw [Bool.eq_iff_iff, onlyKeys_iff_lookup?, onlyKeys_iff_lookup?]
    simp only [hlookup]
  simp only [ofFields?, obligation?, prover?, tally?, counter?, hlookup, honly]

/-! ### Every record can be written -/

def texts : Status → List String
  | obligation role _ status normalized => role :: status :: normalized.toList
  | prover name method status reason => name :: status :: (method.toList ++ reason.toList)
  | tally _ => []

def plainFields : Status → List Field
  | obligation role span status normalized =>
    ⟨"role", role⟩ :: ⟨"range", String.ofList span.chars⟩ :: ⟨"status", status⟩ ::
      normalized.toList.map (⟨"normalized", ·⟩)
  | prover name method status reason =>
    ⟨"prover", name⟩ :: ⟨"status", status⟩ ::
      (method.toList.map (⟨"meth", ·⟩) ++ reason.toList.map (⟨"reason", ·⟩))
  | tally counts =>
    [⟨"proved", toString counts.proved.toNat⟩, ⟨"failed", toString counts.failed.toNat⟩,
      ⟨"omitted", toString counts.omitted.toNat⟩, ⟨"missing", toString counts.missing.toNat⟩,
      ⟨"pending", toString counts.pending.toNat⟩,
      ⟨"progress", toString counts.progress.toNat⟩]

theorem shows_plainFields (s : Status) : s.Shows s.plainFields := by
  cases s with
  | obligation role span status normalized =>
    have hspan := span.exists_denotes
    constructor
    · cases normalized <;> simp [plainFields, slots, Slot.text, Slot.range]
    · cases normalized <;>
        simp [plainFields, slots, Slot.filled_iff, Slot.text, Slot.range, lookup?, hspan]
  | prover name method status reason =>
    constructor
    · cases method <;> cases reason <;> simp [plainFields, slots, Slot.text]
    · cases method <;> cases reason <;>
        simp [plainFields, slots, Slot.filled_iff, Slot.text, lookup?]
  | tally counts =>
    constructor
    · simp [plainFields, slots, Slot.count]
    · simp [plainFields, slots, Slot.filled_iff, Slot.count, lookup?, numeral_decimal]

/-- The keys of all records are key words. -/
theorem run_of_own (s : Status) {key : String} (h : key ∈ s.slots.map (·.key)) :
    Run (fun c => c.isAlphanum || c == '_') key.toList := by
  have hwords : (obligationKeys ++ proverKeys ++ tallyKeys).all (fun key =>
      !key.toList.isEmpty && key.toList.all fun c => c.isAlphanum || c == '_') = true := by decide
  have hmem : key ∈ obligationKeys ++ proverKeys ++ tallyKeys := by
    rw [List.mem_append, List.mem_append]
    cases s with
    | obligation role span status normalized => exact .inl (.inl h)
    | prover name method status reason => exact .inl (.inr h)
    | tally counts => exact .inr h
  have hword := List.all_eq_true.mp hwords key hmem
  rw [Bool.and_eq_true, List.all_eq_true] at hword
  refine ⟨?_, hword.2⟩
  intro hnil
  simp [hnil] at hword

theorem quote_notMem_plainFields {s : Status} (h : ∀ text ∈ s.texts, '"' ∉ text.toList) :
    ∀ f ∈ s.plainFields, '"' ∉ f.value.toList := by
  have hdecimal : ∀ n, '"' ∉ decimal n := fun n =>
    (numeral_decimal n).digits.notMem (by decide +kernel)
  have hspot : ∀ spot : Spot, '"' ∉ Span.spotChars spot := by
    intro spot
    simp [Span.spotChars, hdecimal]
  cases s with
  | obligation role span status normalized =>
    have hspan : '"' ∉ span.chars := by
      unfold Span.chars
      split <;> simp [hspot]
    cases normalized <;> simp_all [plainFields, texts]
  | prover name method status reason =>
    cases method <;> cases reason <;> simp_all [plainFields, texts]
  | tally counts => simp [plainFields, hdecimal]

/-- A record whose texts hold no quote has a rendering. -/
theorem exists_shows {s : Status} (h : ∀ text ∈ s.texts, '"' ∉ text.toList) :
    ∃ r : Reading, s.Shows r.fields := by
  have hshows := s.shows_plainFields
  have hne : s.plainFields ≠ [] := by cases s <;> simp [plainFields]
  obtain ⟨r, hr⟩ := exists_reading hne (fun f hf => s.run_of_own (hshows.own f hf))
    (quote_notMem_plainFields h)
  exact ⟨r, hr.symm ▸ hshows⟩

end Status

/-! ### Lines -/

namespace Line

theorem classify_eq_status_iff {line : String} {s : Status} :
    classify line = .status s ↔ Status.ofLine? line.toList = some s := by
  unfold classify
  cases Status.ofLine? line.toList with
  | some s' => simp
  | none =>
    simp only [reduceCtorEq, iff_false]
    cases Section.ofLine? line.toList with
    | some b => simp
    | none =>
      cases Header.ofLine? line.toList with
      | some h => simp
      | none => rcases loose_cases line with h | h <;> simp [h]

theorem status_ofLine?_of_reading {line : List Char} {r : Reading} (h : r.chars = trim line) :
    Status.ofLine? line = Status.ofFields? r.fields := by
  rw [Status.ofLine?, all?_eq_some_iff.mpr ⟨r, h, rfl⟩, Option.bind_some]

/-- **Status records survive any rendering.** A line that shows a record, in whatever order, quotes
    and blanks, is that record, and there is such a line whenever the texts hold no quote. Two lines
    of fields with the same last values are the same record or none. -/
theorem classify_rendering :
    (∀ (s : Status) (r : Reading) (u v : List Char), s.Shows r.fields →
      (∀ c ∈ u, isBlank c = true) → (∀ c ∈ v, isBlank c = true) →
        classify (String.ofList (u ++ (r.chars ++ v))) = .status s) ∧
    (∀ s : Status, (∀ text ∈ s.texts, '"' ∉ text.toList) → ∃ r : Reading, s.Shows r.fields) ∧
    (∀ (line₁ line₂ : String) (r₁ r₂ : Reading), r₁.chars = trim line₁.toList →
      r₂.chars = trim line₂.toList →
      (∀ key value, IsLast r₁.fields key value ↔ IsLast r₂.fields key value) →
        ∀ s, classify line₁ = .status s ↔ classify line₂ = .status s) := by
  refine ⟨?_, fun s => Status.exists_shows, ?_⟩
  · intro s r u v hshows hu hv
    rw [classify_eq_status_iff, String.toList_ofList,
      status_ofLine?_of_reading (r.trim_surrounded hu hv).symm]
    exact Status.ofFields?_of_shows hshows
  · intro line₁ line₂ r₁ r₂ h₁ h₂ hlast s
    rw [classify_eq_status_iff, classify_eq_status_iff, status_ofLine?_of_reading h₁,
      status_ofLine?_of_reading h₂, Status.ofFields?_congr hlast]

/-- A status that is written twice, a number with a leading zero and quotes that are not needed; a
    text that needs its quotes; counters in another order, one of them overwritten. -/
theorem classify_rendering_of_repeated_keys :
    classify " status=old  range=\"4:01-4:20\"\trole=main status=\"not yet\"\n" =
      .status (.obligation "main" ⟨⟨4, 1⟩, some ⟨4, 20⟩⟩ "not yet" none) ∧
    (∃ r : Reading, (Status.prover "Zenon 2" none "=failed" none).Shows r.fields) ∧
    ∀ s, classify "failed=1 proved=2" = .status s ↔
      classify "proved=2 failed=9 failed=1" = .status s := by
  obtain ⟨hrendered, hexists, hlast⟩ := classify_rendering
  refine ⟨?_, hexists _ (by decide), ?_⟩
  · have hall : all? "status=old  range=\"4:01-4:20\"\trole=main status=\"not yet\"".toList =
        some [⟨"status", "old"⟩, ⟨"range", "4:01-4:20"⟩, ⟨"role", "main"⟩, ⟨"status", "not yet"⟩] := by
      decide +kernel
    obtain ⟨r, hr, hfields⟩ := all?_eq_some_iff.mp hall
    have hspan : ∃ t : Span.Text, t.Denotes ⟨⟨4, 1⟩, some ⟨4, 20⟩⟩ ∧
        "4:01-4:20".toList = t.chars :=
      ⟨⟨⟨['4'], ['0', '1']⟩, some ⟨['4'], ['2', '0']⟩⟩, Span.Text.value?_eq_some_iff.mp (by decide),
        by decide⟩
    have hshows : (Status.obligation "main" ⟨⟨4, 1⟩, some ⟨4, 20⟩⟩ "not yet" none).Shows r.fields := by
      rw [hfields]
      constructor
      · simp [Status.slots, Slot.text, Slot.range]
      · simp [Status.slots, Slot.filled_iff, Slot.text, Slot.range, lookup?]
        exact hspan
    have hline := hrendered _ r [' '] ['\n'] hshows (by simp; decide) (by simp; decide)
    rw [hr] at hline
    exact hline
  · have hall₁ : all? "failed=1 proved=2".toList = some [⟨"failed", "1"⟩, ⟨"proved", "2"⟩] := by
      decide +kernel
    have hall₂ : all? "proved=2 failed=9 failed=1".toList =
        some [⟨"proved", "2"⟩, ⟨"failed", "9"⟩, ⟨"failed", "1"⟩] := by
      decide +kernel
    obtain ⟨r₁, hr₁, hfields₁⟩ := all?_eq_some_iff.mp hall₁
    obtain ⟨r₂, hr₂, hfields₂⟩ := all?_eq_some_iff.mp hall₂
    refine hlast _ _ r₁ r₂ hr₁ hr₂ ?_
    intro key value
    rw [← lookup?_eq_some_iff, ← lookup?_eq_some_iff, hfields₁, hfields₂]
    by_cases hfailed : "failed" = key
    · subst hfailed
      simp [lookup?]
    · simp [lookup?, List.find?, hfailed]

end Line

end TlaDigest
