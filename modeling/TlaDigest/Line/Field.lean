import TlaDigest.Text.Blank

/-!
# Fields of a record

Records of `key=value` fields on one line. A value in double quotes may hold blanks; any other value
ends at the first blank. A line is a record when all of it is made of such fields.
-/

namespace TlaDigest

/-- One field of a record; the value is without its quotes. -/
structure Field where
  key : String
  value : String
deriving DecidableEq, Repr

namespace Field

open Text

/-- The value at the front and what follows it. A quoted value needs its closing quote. -/
def value? : List Char → Option (List Char × List Char)
  | '"' :: cs =>
    match cutAt (· == '"') cs with
    | (_, []) => none
    | (value, _ :: tail) => some (value, tail)
  | cs => some (cutAt isBlank cs)

/-- A field has to end the line or be followed by a blank. -/
def endsHere : List Char → Bool
  | [] => true
  | c :: _ => isBlank c

def first? (cs : List Char) : Option (Field × List Char) :=
  match cutAt (· == '=') cs with
  | (_, []) => none
  | (key, _ :: rest) =>
    if key = [] ∨ ¬ key.all isNameChar then none
    else
      match value? rest with
      | none => none
      | some (value, tail) =>
        if endsHere tail then some (⟨String.ofList key, String.ofList value⟩, tail) else none

theorem length_cutAt_snd {α : Type} (stop : α → Bool) (xs : List α) :
    (cutAt stop xs).2.length ≤ xs.length := by
  simpa [cutAt] using (List.dropWhile_sublist (fun x => !stop x)).length_le

theorem length_value? {cs value tail : List Char} (h : value? cs = some (value, tail)) :
    tail.length ≤ cs.length := by
  unfold value? at h
  split at h
  · next cs =>
    split at h
    · simp at h
    · next heq =>
      have hlen := length_cutAt_snd (· == '"') cs
      rw [heq] at hlen
      simp only [Option.some.injEq, Prod.mk.injEq] at h
      obtain ⟨-, rfl⟩ := h
      simp only [List.length_cons] at hlen ⊢
      omega
  · have hlen := length_cutAt_snd isBlank cs
    simp only [Option.some.injEq] at h
    rw [h] at hlen
    exact hlen

/-- Reading a field uses up text. -/
theorem length_first? {cs tail : List Char} {f : Field} (h : first? cs = some (f, tail)) :
    tail.length < cs.length := by
  unfold first? at h
  split at h
  · simp at h
  · next heq =>
    have hlen := length_cutAt_snd (· == '=') cs
    rw [heq] at hlen
    split at h
    · simp at h
    · split at h
      · simp at h
      · next hv =>
        have hval := length_value? hv
        split at h
        · simp only [Option.some.injEq, Prod.mk.injEq] at h
          obtain ⟨-, rfl⟩ := h
          simp only [List.length_cons] at hlen
          omega
        · simp at h

theorem length_trimStart (cs : List Char) : (trimStart cs).length ≤ cs.length :=
  (List.dropWhile_sublist isBlank).length_le

/-- The fields of a text that starts with a field or is empty. -/
def allFrom? : List Char → Option (List Field)
  | [] => some []
  | c :: cs =>
    match _h : first? (c :: cs) with
    | none => none
    | some (f, tail) => (allFrom? (trimStart tail)).map (f :: ·)
termination_by cs => cs.length
decreasing_by
  have h₁ := length_first? _h
  have h₂ := length_trimStart tail
  omega

/-- The fields of a line, in order. A line without a field is no record. -/
def all? (line : List Char) : Option (List Field) :=
  match trim line with
  | [] => none
  | cs => allFrom? cs

/-- The value of a key; where it is repeated, the last one. -/
def lookup? (key : String) (fields : List Field) : Option String :=
  (fields.reverse.find? (·.key = key)).map (·.value)

end Field

end TlaDigest
