import Mathlib.Data.List.Basic
import TlaDigest.Proofs.Text.Escapes
import TlaDigest.Proofs.Text.Readers
import TlaDigest.Report

/-!
# The JSON form of a report

Nothing that a report holds is lost in its JSON form: two reports that are printed alike are the same
report (`json_out_injective`).

The argument has two halves. The text of a value determines the value (`pretty_injective`). The proof
runs along the value with the text behind it as a parameter (`Cancels`): a string ends at the first
quote that is no escape, a number where the digits end, a list where no comma follows. And the value
of a report determines the report, field by field.
-/

namespace TlaDigest

namespace JsonValue

/-! ### Strings and numbers -/

@[simp] theorem toList_quoted (s : String) :
    (quoted s).toList = '"' :: (s.toList.flatMap escaped ++ ['"']) := by
  rw [quoted, String.toList_ofList]
  rfl

/-- No character is printed with a bare quote in front. -/
theorem head_escaped_ne (c : Char) (rest rest' : List Char) :
    escaped c ++ rest ≠ '"' :: rest' := by
  intro h
  have hfirst := firstChar?_escaped c rest
  rw [h, firstChar?_of_ne (by decide)] at hfirst
  obtain ⟨rfl, rfl⟩ := Prod.mk.inj (Option.some.inj hfirst)
  cases h

/-- The body of a string ends at its closing quote. -/
theorem cancel_body {cs ds rest rest' : List Char}
    (h : cs.flatMap escaped ++ '"' :: rest = ds.flatMap escaped ++ '"' :: rest') :
    cs = ds ∧ rest = rest' := by
  induction cs generalizing ds with
  | nil =>
    cases ds with
    | nil => exact ⟨rfl, (List.cons.inj h).2⟩
    | cons d ds =>
      rw [List.flatMap_cons, List.append_assoc] at h
      exact absurd h.symm (head_escaped_ne d _ _)
  | cons c cs ih =>
    cases ds with
    | nil =>
      rw [List.flatMap_cons, List.append_assoc] at h
      exact absurd h (head_escaped_ne c _ _)
    | cons d ds =>
      rw [List.flatMap_cons, List.flatMap_cons, List.append_assoc, List.append_assoc] at h
      have hfirst := firstChar?_escaped c (cs.flatMap escaped ++ '"' :: rest)
      rw [h, firstChar?_escaped] at hfirst
      obtain ⟨rfl, htail⟩ := Prod.mk.inj (Option.some.inj hfirst)
      obtain ⟨rfl, hrest⟩ := ih htail.symm
      exact ⟨rfl, hrest⟩

theorem cancel_quoted {s s' : String} {rest rest' : List Char}
    (h : (quoted s).toList ++ rest = (quoted s').toList ++ rest') : s = s' ∧ rest = rest' := by
  simp only [toList_quoted, List.cons_append, List.append_assoc, List.nil_append] at h
  obtain ⟨hbody, hrest⟩ := cancel_body (List.cons.inj h).2
  exact ⟨String.toList_inj.mp hbody, hrest⟩

def EndsNumber (rest : List Char) : Prop := ∀ c ∈ rest.head?, c.isDigit = false

theorem takeWhile_decimal (n : Nat) {rest : List Char} (h : EndsNumber rest) :
    (Text.decimal n ++ rest).takeWhile Char.isDigit = Text.decimal n := by
  have hdigits : ∀ c ∈ Text.decimal n, c.isDigit = true := fun _ hc =>
    Nat.isDigit_of_mem_toDigits (by decide) (by decide) hc
  exact (Text.takeWhile_dropWhile_eq_iff.mpr ⟨rfl, hdigits, h⟩).1

theorem cancel_decimal {n m : Nat} {rest rest' : List Char} (hrest : EndsNumber rest)
    (hrest' : EndsNumber rest') (h : Text.decimal n ++ rest = Text.decimal m ++ rest') :
    n = m ∧ rest = rest' := by
  have hdigits : Text.decimal n = Text.decimal m := by
    rw [← takeWhile_decimal n hrest, h, takeWhile_decimal m hrest']
  have hvalue : n = m := by
    rw [← Nat.ofDigitChars_ten_toDigits (n := n), ← Nat.ofDigitChars_ten_toDigits (n := m)]
    exact congrArg (Nat.ofDigitChars 10 · 0) hdigits
  rw [hdigits] at h
  exact ⟨hvalue, List.append_cancel_left h⟩

/-! ### Values

The text of each form of value, with the text behind it. -/

section Texts

variable (level : Nat) (v : JsonValue) (vs : List JsonValue) (k : String)
  (ms : List (String × JsonValue)) (rest : List Char)

def indent (level : Nat) : List Char := List.replicate (2 * level) ' '

theorem toList_newLine : (newLine level).toList = '\n' :: indent level := String.toList_ofList

@[simp] theorem chars_null : (render level .null).toList = ['n', 'u', 'l', 'l'] := by
  simp [render]

@[simp] theorem chars_number (n : Nat) : (render level (.number n)).toList = Text.decimal n := by
  rw [render, Nat.toString_eq_ofList_toDigits, String.toList_ofList]

@[simp] theorem chars_string (s : String) :
    (render level (.string s)).toList = (quoted s).toList := by
  rw [render]

@[simp] theorem chars_array_nil : (render level (.array [])).toList = ['[', ']'] := by
  simp [render]

@[simp] theorem chars_array_cons :
    (render level (.array (v :: vs))).toList ++ rest =
      '[' :: '\n' :: (indent (level + 1) ++ ((render (level + 1) v).toList ++
        ((renderItems (level + 1) vs).toList ++ '\n' :: (indent level ++ ']' :: rest)))) := by
  simp [render, toList_newLine]

@[simp] theorem chars_object_nil : (render level (.object [])).toList = ['\x7b', '\x7d'] := by
  simp [render]

@[simp] theorem chars_object_cons :
    (render level (.object ((k, v) :: ms))).toList ++ rest =
      '\x7b' :: '\n' :: (indent (level + 1) ++ ((quoted k).toList ++ ':' :: ' ' ::
        ((render (level + 1) v).toList ++ ((renderMembers (level + 1) ms).toList ++
          '\n' :: (indent level ++ '\x7d' :: rest))))) := by
  simp [render, toList_newLine]

@[simp] theorem chars_items_nil : (renderItems level []).toList = [] := rfl

@[simp] theorem chars_items_cons :
    (renderItems level (v :: vs)).toList ++ rest =
      ',' :: '\n' :: (indent level ++ ((render level v).toList ++
        ((renderItems level vs).toList ++ rest))) := by
  simp [renderItems, toList_newLine]

@[simp] theorem chars_members_nil : (renderMembers level []).toList = [] := rfl

@[simp] theorem chars_members_cons :
    (renderMembers level ((k, v) :: ms)).toList ++ rest =
      ',' :: '\n' :: (indent level ++ ((quoted k).toList ++ ':' :: ' ' ::
        ((render level v).toList ++ ((renderMembers level ms).toList ++ rest)))) := by
  simp [renderMembers, toList_newLine]

/-- A comma or a line break ends a number. -/
theorem endsNumber_items :
    EndsNumber ((renderItems level vs).toList ++ '\n' :: rest) := by
  cases vs with
  | nil => simp [EndsNumber]
  | cons v vs => simp [EndsNumber]

theorem endsNumber_members :
    EndsNumber ((renderMembers level ms).toList ++ '\n' :: rest) := by
  rcases ms with _ | ⟨⟨k, v⟩, ms⟩
  · simp [EndsNumber]
  · simp [EndsNumber]

end Texts

/-! ### One text, one value -/

/-- The forms of values, which differ in the first character of their texts. -/
inductive Form where
  | null
  | number
  | string
  | array
  | object

def form : JsonValue → Form
  | .null => .null
  | .number _ => .number
  | .string _ => .string
  | .array _ => .array
  | .object _ => .object

def formOf (c : Char) : Form :=
  if c = 'n' then .null
  else if c = '"' then .string
  else if c = '[' then .array
  else if c = '\x7b' then .object
  else .number

theorem formOf_of_isDigit {c : Char} (h : c.isDigit = true) : formOf c = .number := by
  have hne : ∀ d : Char, d.isDigit = false → c ≠ d := by
    rintro d hd rfl
    simp [hd] at h
  rw [formOf, if_neg (hne 'n' rfl), if_neg (hne '"' rfl), if_neg (hne '[' rfl),
    if_neg (hne '\x7b' rfl)]

theorem exists_head_render (v : JsonValue) (level : Nat) (rest : List Char) :
    ∃ c cs, (render level v).toList ++ rest = c :: cs ∧ formOf c = v.form := by
  cases v with
  | null => exact ⟨'n', 'u' :: 'l' :: 'l' :: rest, by simp, rfl⟩
  | number n =>
    obtain ⟨c, cs, hdigits⟩ := List.exists_cons_of_ne_nil (Nat.toDigits_ne_nil (n := n) (b := 10))
    have hdigit : c.isDigit = true := by
      refine Nat.isDigit_of_mem_toDigits (b := 10) (n := n) (by decide) (by decide) ?_
      rw [hdigits]
      exact List.mem_cons_self
    exact ⟨c, cs ++ rest, by rw [chars_number, Text.decimal, hdigits]; rfl,
      formOf_of_isDigit hdigit⟩
  | string s => exact ⟨'"', _, by rw [chars_string, toList_quoted]; rfl, rfl⟩
  | array items =>
    cases items with
    | nil => exact ⟨'[', _, by rw [chars_array_nil]; rfl, rfl⟩
    | cons v vs => exact ⟨'[', _, chars_array_cons .., rfl⟩
  | object members =>
    rcases members with _ | ⟨⟨k, v⟩, ms⟩
    · exact ⟨'\x7b', _, by rw [chars_object_nil]; rfl, rfl⟩
    · exact ⟨'\x7b', _, chars_object_cons .., rfl⟩

theorem form_eq_of_append_eq {v w : JsonValue} {level : Nat} {rest rest' : List Char}
    (h : (render level v).toList ++ rest = (render level w).toList ++ rest') :
    v.form = w.form := by
  obtain ⟨c, cs, hv, hc⟩ := exists_head_render v level rest
  obtain ⟨d, ds, hw, hd⟩ := exists_head_render w level rest'
  rw [hv, hw] at h
  rw [← hc, ← hd, (List.cons.inj h).1]

/-- The text of the value can be told from what stands behind it, and is that of no other value. -/
def Cancels (v : JsonValue) : Prop :=
  ∀ ⦃w : JsonValue⦄ ⦃level : Nat⦄ ⦃rest rest' : List Char⦄, EndsNumber rest → EndsNumber rest' →
    (render level v).toList ++ rest = (render level w).toList ++ rest' → v = w ∧ rest = rest'

theorem cancel_items {vs ws : List JsonValue} (hvs : ∀ v ∈ vs, v.Cancels) {level : Nat}
    {rest rest' : List Char}
    (h : (renderItems level vs).toList ++ '\n' :: rest =
      (renderItems level ws).toList ++ '\n' :: rest') :
    vs = ws ∧ rest = rest' := by
  induction vs generalizing ws with
  | nil =>
    cases ws with
    | nil => simpa using h
    | cons w ws => simp at h
  | cons v vs ih =>
    cases ws with
    | nil => simp at h
    | cons w ws =>
      rw [chars_items_cons, chars_items_cons] at h
      simp only [List.cons.injEq, List.append_cancel_left_eq, true_and] at h
      obtain ⟨rfl, hitems⟩ :=
        hvs v List.mem_cons_self (endsNumber_items _ _ _) (endsNumber_items _ _ _) h
      obtain ⟨rfl, hrests⟩ := ih (fun v hv => hvs v (List.mem_cons_of_mem _ hv)) hitems
      exact ⟨rfl, hrests⟩

theorem cancel_members {ms ns : List (String × JsonValue)} (hms : ∀ m ∈ ms, m.2.Cancels)
    {level : Nat} {rest rest' : List Char}
    (h : (renderMembers level ms).toList ++ '\n' :: rest =
      (renderMembers level ns).toList ++ '\n' :: rest') :
    ms = ns ∧ rest = rest' := by
  induction ms generalizing ns with
  | nil =>
    rcases ns with _ | ⟨⟨l, w⟩, ns⟩
    · simpa using h
    · simp at h
  | cons m ms ih =>
    obtain ⟨k, v⟩ := m
    rcases ns with _ | ⟨⟨l, w⟩, ns⟩
    · simp at h
    · rw [chars_members_cons, chars_members_cons] at h
      simp only [List.cons.injEq, List.append_cancel_left_eq, true_and] at h
      obtain ⟨rfl, hvalue⟩ := cancel_quoted h
      simp only [List.cons.injEq, true_and] at hvalue
      obtain ⟨rfl, hmembers⟩ := hms (k, v) List.mem_cons_self (endsNumber_members _ _ _)
        (endsNumber_members _ _ _) hvalue
      obtain ⟨rfl, hrests⟩ := ih (fun m hm => hms m (List.mem_cons_of_mem _ hm)) hmembers
      exact ⟨rfl, hrests⟩

/-- The first element is written as the others are, but for the comma in front of it. -/
theorem cancels_array {vs : List JsonValue} (hvs : ∀ v ∈ vs, v.Cancels) : (array vs).Cancels := by
  intro w level rest rest' _ _ h
  have hform := form_eq_of_append_eq h
  cases w with
  | array ws =>
    rcases vs with _ | ⟨v, vs⟩ <;> rcases ws with _ | ⟨w, ws⟩
    · simpa using h
    · simp at h
    · simp at h
    · rw [chars_array_cons, chars_array_cons] at h
      have hitems := congrArg (',' :: ·) (List.cons.inj h).2
      simp only [← chars_items_cons] at hitems
      obtain ⟨hsame, hrests⟩ := cancel_items hvs hitems
      exact ⟨congrArg array hsame, by simpa using hrests⟩
  | _ => cases hform

theorem cancels_object {ms : List (String × JsonValue)} (hms : ∀ m ∈ ms, m.2.Cancels) :
    (object ms).Cancels := by
  intro w level rest rest' _ _ h
  have hform := form_eq_of_append_eq h
  cases w with
  | object ns =>
    rcases ms with _ | ⟨⟨k, v⟩, ms⟩ <;> rcases ns with _ | ⟨⟨l, w⟩, ns⟩
    · simpa using h
    · simp at h
    · simp at h
    · rw [chars_object_cons, chars_object_cons] at h
      have hmembers := congrArg (',' :: ·) (List.cons.inj h).2
      simp only [← chars_members_cons] at hmembers
      obtain ⟨hsame, hrests⟩ := cancel_members hms hmembers
      exact ⟨congrArg object hsame, by simpa using hrests⟩
  | _ => cases hform

/-- **The text of a value determines the value**, whatever stands behind it. -/
theorem cancels (v : JsonValue) : v.Cancels := by
  match v with
  | .null =>
    intro w level rest rest' _ _ h
    have hform := form_eq_of_append_eq h
    cases w with
    | null => simpa using h
    | _ => cases hform
  | .number n =>
    intro w level rest rest' hrest hrest' h
    have hform := form_eq_of_append_eq h
    cases w with
    | number m =>
      rw [chars_number, chars_number] at h
      obtain ⟨rfl, hrests⟩ := cancel_decimal hrest hrest' h
      exact ⟨rfl, hrests⟩
    | _ => cases hform
  | .string s =>
    intro w level rest rest' _ _ h
    have hform := form_eq_of_append_eq h
    cases w with
    | string s' =>
      rw [chars_string, chars_string] at h
      obtain ⟨rfl, hrests⟩ := cancel_quoted h
      exact ⟨rfl, hrests⟩
    | _ => cases hform
  | .array vs => exact cancels_array fun v _ => cancels v
  | .object ms =>
    refine cancels_object fun m hm => ?_
    have hmember := List.sizeOf_lt_of_mem hm
    have hvalue : sizeOf m.2 < sizeOf m := by
      obtain ⟨k, v⟩ := m
      simp only [Prod.mk.sizeOf_spec]
      omega
    exact cancels m.2

theorem pretty_injective : Function.Injective pretty := by
  intro v w h
  have htext : (render 0 v).toList ++ [] = (render 0 w).toList ++ [] :=
    congrArg (String.toList · ++ []) h
  exact (cancels v (by simp [EndsNumber]) (by simp [EndsNumber]) htext).1

end JsonValue

/-! ### Reports -/

namespace Report

theorem wordJson_injective : Function.Injective wordJson := by
  intro n m h
  exact UInt32.toNat_inj.mp (JsonValue.number.inj h)

theorem optionalJson_injective : Function.Injective optionalJson := by
  intro s s' h
  cases s with
  | none =>
    cases s' with
    | none => rfl
    | some _ => cases h
  | some _ =>
    cases s' with
    | none => cases h
    | some _ => rw [JsonValue.string.inj h]

theorem positionJson_injective : Function.Injective positionJson := by
  rintro ⟨line, column⟩ ⟨line', column'⟩ h
  simp only [positionJson, JsonValue.object.injEq, List.cons.injEq, Prod.mk.injEq, true_and,
    and_true] at h
  rw [wordJson_injective h.1, wordJson_injective h.2]

theorem rangeJson_injective : Function.Injective rangeJson := by
  rintro ⟨start, stop⟩ ⟨start', stop'⟩ h
  simp only [rangeJson, JsonValue.object.injEq, List.cons.injEq, Prod.mk.injEq, true_and,
    and_true] at h
  rw [positionJson_injective h.1, positionJson_injective h.2]

theorem tag_injective : Function.Injective Severity.tag := by
  intro s s' h
  cases s <;> cases s' <;> first | rfl | simp [Severity.tag] at h

theorem diagnosticJson_injective : Function.Injective diagnosticJson := by
  rintro ⟨range, severity, message⟩ ⟨range', severity', message'⟩ h
  simp only [diagnosticJson, JsonValue.object.injEq, List.cons.injEq, Prod.mk.injEq,
    JsonValue.string.injEq, true_and, and_true] at h
  obtain ⟨hrange, hseverity, hmessage⟩ := h
  rw [rangeJson_injective hrange, tag_injective hseverity, hmessage]

theorem findingsJson_injective : Function.Injective findingsJson := by
  rintro ⟨files⟩ ⟨files'⟩ h
  have hentry : Function.Injective fun entry : Path × List Diagnostic =>
      (entry.1.text, JsonValue.array (entry.2.map diagnosticJson)) := by
    rintro ⟨⟨text⟩, items⟩ ⟨⟨text'⟩, items'⟩ hentry
    obtain ⟨htext, hitems⟩ := Prod.mk.inj hentry
    have hsame : items = items' := diagnosticJson_injective.list_map (JsonValue.array.inj hitems)
    rw [hsame, show text = text' from htext]
  have hfiles : files = files' := hentry.list_map (JsonValue.object.inj h)
  rw [hfiles]

theorem resultJson_injective : Function.Injective resultJson := by
  rintro ⟨prover, method, status, reason, obligation⟩
    ⟨prover', method', status', reason', obligation'⟩ h
  simp only [resultJson, JsonValue.object.injEq, List.cons.injEq, Prod.mk.injEq,
    JsonValue.string.injEq, true_and, and_true] at h
  obtain ⟨rfl, rfl, rfl, hreason, hobligation⟩ := h
  rw [optionalJson_injective hreason, optionalJson_injective hobligation]

theorem obligationJson_injective : Function.Injective obligationJson := by
  rintro ⟨role, range, status, normalized, results⟩
    ⟨role', range', status', normalized', results'⟩ h
  simp only [obligationJson, JsonValue.object.injEq, List.cons.injEq, Prod.mk.injEq,
    JsonValue.string.injEq, JsonValue.array.injEq, true_and, and_true] at h
  obtain ⟨rfl, hrange, rfl, rfl, hresults⟩ := h
  rw [rangeJson_injective hrange, resultJson_injective.list_map hresults]

theorem tallyJson_injective : Function.Injective tallyJson := by
  rintro ⟨a, b, c, d, e, f⟩ ⟨a', b', c', d', e', f'⟩ h
  simpa [tallyJson, wordJson_injective.eq_iff] using h

theorem recordJson_injective : Function.Injective recordJson := by
  rintro ⟨obligation, counts⟩ ⟨obligation', counts'⟩ h
  simp only [recordJson, JsonValue.object.injEq, List.cons.injEq, Prod.mk.injEq, true_and,
    and_true] at h
  rw [obligationJson_injective h.1, tallyJson_injective h.2]

theorem verdictJson_injective : Function.Injective verdictJson := by
  rintro ⟨outcome, reason⟩ ⟨outcome', reason'⟩ h
  simp only [verdictJson, JsonValue.object.injEq, List.cons.injEq, Prod.mk.injEq,
    JsonValue.string.injEq, true_and, and_true] at h
  obtain ⟨houtcome, rfl⟩ := h
  cases outcome <;> cases outcome' <;> first | rfl | simp [Outcome.name] at houtcome

/-- **The value of a report determines the report.** Obligations and verdict stand under keys of
    their own, so it can be told when they are left out. -/
theorem json_injective : Function.Injective json := by
  rintro ⟨findings, obligations, verdict, notes⟩ ⟨findings', obligations', verdict', notes'⟩ h
  have hnotes : Function.Injective JsonValue.string := fun _ _ => JsonValue.string.inj
  cases obligations <;> cases obligations' <;> cases verdict <;> cases verdict' <;>
    simp [json, findingsJson_injective.eq_iff, recordJson_injective.eq_iff,
      recordJson_injective.list_map.eq_iff, verdictJson_injective.eq_iff,
      hnotes.list_map.eq_iff] at h ⊢ <;>
    exact h

/-- **The JSON form loses nothing.** Reports that are printed alike are the same. -/
theorem json_out_injective : Function.Injective fun r : Report => (r.print true).out := by
  intro r r' h
  have htext : r.json.pretty.toList ++ ['\n'] = r'.json.pretty.toList ++ ['\n'] := by
    simpa [print] using congrArg String.toList h
  exact json_injective (JsonValue.pretty_injective
    (String.toList_inj.mp (List.append_cancel_right htext)))

end Report

end TlaDigest
