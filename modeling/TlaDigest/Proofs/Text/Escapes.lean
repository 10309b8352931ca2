import Mathlib.Tactic.IntervalCases
import TlaDigest.JsonValue
import TlaDigest.Toml.Lexeme

/-!
# Escaped characters

Strings are printed with escapes (`JsonValue.escaped`), and the strings of settings are read with
escapes (`Toml.escape?`). What is printed for a character is read as that character and nothing more
(`firstChar?_escaped`), so an escaped text falls into its characters in one way only.
-/

namespace TlaDigest

open Text

/-! ### Printing -/

def shortForms : List (Char × Char) :=
  [('"', '"'), ('\\', '\\'), ('\n', 'n'), ('\r', 'r'), ('\t', 't'), (Char.ofNat 8, 'b'),
    (Char.ofNat 12, 'f')]

/-- What is printed for a character: a short form, its number, or the character itself. -/
theorem escaped_cases (c : Char) :
    (∃ e, (c, e) ∈ shortForms ∧ JsonValue.escaped c = ['\\', e]) ∨
      (c.toNat < 32 ∧ JsonValue.escaped c =
        ['\\', 'u', '0', '0', Nat.digitChar (c.toNat / 16), Nat.digitChar (c.toNat % 16)]) ∨
      (32 ≤ c.toNat ∧ c ≠ '"' ∧ c ≠ '\\' ∧ JsonValue.escaped c = [c]) := by
  unfold JsonValue.escaped
  split
  · exact .inl ⟨'"', by simp [shortForms], rfl⟩
  · exact .inl ⟨'\\', by simp [shortForms], rfl⟩
  · exact .inl ⟨'n', by simp [shortForms], rfl⟩
  · exact .inl ⟨'r', by simp [shortForms], rfl⟩
  · exact .inl ⟨'t', by simp [shortForms], rfl⟩
  · next hquote hbackslash _ _ _ =>
    have hofNat : ∀ n, c.toNat = n → c = Char.ofNat n := by
      rintro n rfl
      exact (Char.ofNat_toNat c).symm
    by_cases hback : c.toNat = 8
    · rw [if_pos hback]
      exact .inl ⟨'b', by simp [shortForms, hofNat 8 hback], rfl⟩
    rw [if_neg hback]
    by_cases hfeed : c.toNat = 12
    · rw [if_pos hfeed]
      exact .inl ⟨'f', by simp [shortForms, hofNat 12 hfeed], rfl⟩
    rw [if_neg hfeed]
    by_cases hcontrol : c.toNat < 32
    · rw [if_pos hcontrol]
      exact .inr (.inl ⟨hcontrol, rfl⟩)
    · rw [if_neg hcontrol]
      exact .inr (.inr ⟨by omega, hquote, hbackslash, rfl⟩)

/-! ### Reading -/

def firstChar? : List Char → Option (Char × List Char)
  | [] => none
  | '\\' :: cs => Toml.escape? cs
  | c :: cs => some (c, cs)

theorem firstChar?_of_ne {c : Char} (h : c ≠ '\\') (cs : List Char) :
    firstChar? (c :: cs) = some (c, cs) := by
  unfold firstChar?
  split
  · next heq => cases heq
  · next heq => exact absurd (List.cons.inj heq).1 h
  · next heq => rw [(List.cons.inj heq).1, (List.cons.inj heq).2]

theorem escape?_short {c e : Char} (h : (c, e) ∈ shortForms) (rest : List Char) :
    Toml.escape? (e :: rest) = some (c, rest) := by
  simp only [shortForms, List.mem_cons, Prod.mk.injEq, List.not_mem_nil, or_false] at h
  rcases h with ⟨rfl, rfl⟩ | ⟨rfl, rfl⟩ | ⟨rfl, rfl⟩ | ⟨rfl, rfl⟩ | ⟨rfl, rfl⟩ | ⟨rfl, rfl⟩ |
    ⟨rfl, rfl⟩ <;> rfl

theorem hexValue?_digitChar {n : Nat} (h : n < 16) : Toml.hexValue? (Nat.digitChar n) = some n := by
  interval_cases n <;> rfl

/-- A numbered escape with two digits behind two zeros. -/
theorem escape?_numbered {n : Nat} (h : n < 256) (rest : List Char) :
    Toml.escape? ('u' :: '0' :: '0' :: Nat.digitChar (n / 16) :: Nat.digitChar (n % 16) :: rest) =
      some (Char.ofNat n, rest) := by
  have hhigh := hexValue?_digitChar (n := n / 16) (by omega)
  have hlow := hexValue?_digitChar (n := n % 16) (by omega)
  have hzero : Toml.hexValue? '0' = some 0 := rfl
  have hvalue : n / 16 * 16 + n % 16 = n := by omega
  have hchar : Toml.char? n = some (Char.ofNat n) := by
    rw [Toml.char?, if_pos (.inl (by omega))]
  simp [Toml.escape?, Toml.escape?.numbered, Toml.hexNumber?, hhigh, hlow, hzero, hvalue, hchar]

/-- **A character is read as it was printed.** -/
theorem firstChar?_escaped (c : Char) (rest : List Char) :
    firstChar? (JsonValue.escaped c ++ rest) = some (c, rest) := by
  rcases escaped_cases c with ⟨e, hshort, htext⟩ | ⟨hcontrol, htext⟩ | ⟨-, -, hbackslash, htext⟩
  · rw [htext]
    exact escape?_short hshort rest
  · have hread := escape?_numbered (n := c.toNat) (by omega) rest
    rw [Char.ofNat_toNat] at hread
    rw [htext]
    exact hread
  · rw [htext]
    exact firstChar?_of_ne hbackslash rest

end TlaDigest
