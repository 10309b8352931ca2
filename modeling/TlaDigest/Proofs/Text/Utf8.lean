import Mathlib.Algebra.Group.Nat.Defs
import TlaDigest.Text.Utf8

/-!
# ASCII bytes and well-formed text

What the UTF-8 machine does with ASCII bytes and with well-formed text. An ASCII byte is never part
of a longer sequence: it ends one that is open, stands for itself, and leaves the machine between
characters (`decode_append_cons`). Nor does an ASCII character come from another byte
(`mem_of_mem_decode`, `getLast?_of_getLast?_decode`). Bytes that encode a text are read as that text
(`decode_encode`).

The first two facts need an invariant of the machine. UTF-8 admits only the shortest sequence for a
character, so the bits read so far already tell that the character lies beyond ASCII (`Open.Wide`).
Every byte keeps this (`step_wide`).
-/

namespace TlaDigest.Text.Utf8

/-! ### The invariant -/

/-- A sequence that leads beyond ASCII: its next byte is none of ASCII, and whatever that byte is,
    the bits come to `0x80` at least. -/
structure Open.Wide (o : Open) : Prop where
  low_ge : 0x80 ≤ o.low.toNat
  code_ge : 0x80 ≤ (o.code * 64 + (o.low.toNat - 0x80)) * 64 ^ o.more

def Wide (s : State) : Prop := ∀ o ∈ s, o.Wide

theorem wide_none : Wide none := by
  intro o h
  cases h

/-- What a first byte may be: an ASCII character, no part of UTF-8, or the start of a sequence that
    leads beyond ASCII. -/
theorem first_cases (b : UInt8) :
    (b < 0x80 ∧ first b = ([some (Char.ofNat b.toNat)], none)) ∨ first b = ([none], none) ∨
      ∃ o : Open, o.Wide ∧ first b = ([], some o) := by
  have hlead : ∀ o : Open, 0x80 ≤ o.low.toNat →
      0x80 ≤ (o.code * 64 + (o.low.toNat - 0x80)) * 64 ^ o.more →
      ((([], some o) : List (Option Char) × State) = ([none], none) ∨
        ∃ o' : Open, o'.Wide ∧ (([], some o) : List (Option Char) × State) = ([], some o')) :=
    fun o hlow hcode => .inr ⟨o, ⟨hlow, hcode⟩, rfl⟩
  have hge : ∀ {low : UInt8} {q : Bool}, (decide (low ≤ b) && q) = true → low.toNat ≤ b.toNat := by
    intro low q h
    exact UInt8.le_iff_toNat_le.mp (of_decide_eq_true (Bool.and_eq_true_iff.mp h).1)
  unfold first
  split
  · next h => exact .inl ⟨h, rfl⟩
  refine .inr ?_
  split
  · next h =>
    have hb : 0xC2 ≤ b.toNat := hge h
    exact hlead _ (by simp) (by simp; omega)
  split
  · exact hlead _ (by simp) (by simp)
  split
  · exact hlead _ (by simp) (by simp)
  split
  · next h =>
    have hb : 0xE1 ≤ b.toNat := hge h
    exact hlead _ (by simp) (by simp; omega)
  split
  · exact hlead _ (by simp) (by simp)
  split
  · next h =>
    have hb : 0xF1 ≤ b.toNat := hge h
    exact hlead _ (by simp) (by simp; omega)
  split
  · exact hlead _ (by simp) (by simp)
  · exact .inl rfl

theorem first_wide (b : UInt8) : Wide (first b).2 := by
  rcases first_cases b with ⟨-, h⟩ | h | ⟨o, ho, h⟩
  · rw [h]
    exact wide_none
  · rw [h]
    exact wide_none
  · rw [h]
    intro o' ho'
    cases ho'
    exact ho

/-- A byte that continues the sequence leaves the bits large enough. -/
theorem Open.Wide.code_next {o : Open} (ho : o.Wide) {b : UInt8} (hb : o.low.toNat ≤ b.toNat) :
    0x80 ≤ (o.code * 64 + (b.toNat - 0x80)) * 64 ^ o.more := by
  have hle : o.code * 64 + (o.low.toNat - 0x80) ≤ o.code * 64 + (b.toNat - 0x80) := by omega
  exact Nat.le_trans ho.code_ge (Nat.mul_le_mul_right _ hle)

/-- **Every byte keeps the invariant.** -/
theorem step_wide {s : State} (hs : Wide s) (b : UInt8) : Wide (step s b).2 := by
  cases s with
  | none => exact first_wide b
  | some o =>
    rw [step]
    split
    · next hb =>
      simp only [Bool.and_eq_true, decide_eq_true_eq, UInt8.le_iff_toNat_le] at hb
      have hnext := (hs o rfl).code_next hb.1
      split
      · exact wide_none
      · next more hmore =>
        rintro - ⟨⟩
        rw [hmore, Nat.pow_succ', ← Nat.mul_assoc] at hnext
        exact ⟨Nat.le_of_eq rfl, by simpa using hnext⟩
    · exact first_wide b

/-! ### ASCII characters come from their own byte -/

/-- An ASCII character other than NUL. -/
def IsAscii (c : Char) : Prop := 0 < c.toNat ∧ c.toNat < 0x80

instance (c : Char) : Decidable (IsAscii c) :=
  inferInstanceAs (Decidable (0 < c.toNat ∧ c.toNat < 0x80))

theorem toNat_char_ofNat (n : Nat) : (Char.ofNat n).toNat = n ∨ (Char.ofNat n).toNat = 0 := by
  by_cases h : n.isValidChar
  · left
    rw [Char.ofNat, dif_pos h]
    rfl
  · right
    rw [Char.ofNat, dif_neg h]
    rfl

theorem toNat_of_mem_first {b : UInt8} {c : Char} (hc : IsAscii c) (h : some c ∈ (first b).1) :
    b.toNat = c.toNat := by
  have heq : c = Char.ofNat b.toNat := by
    rcases first_cases b with ⟨-, hfirst⟩ | hfirst | ⟨o, -, hfirst⟩
    · simpa [hfirst] using h
    · simp [hfirst] at h
    · simp [hfirst] at h
  rcases toNat_char_ofNat b.toNat with hnat | hzero
  · rw [heq, hnat]
  · rw [← heq] at hzero
    exact absurd hzero (Nat.ne_of_gt hc.1)

/-- A byte completes no ASCII character but the one it stands for. -/
theorem toNat_of_mem_step {s : State} (hs : Wide s) {b : UInt8} {c : Char} (hc : IsAscii c)
    (h : some c ∈ (step s b).1) : b.toNat = c.toNat := by
  cases s with
  | none => exact toNat_of_mem_first hc h
  | some o =>
    rw [step] at h
    split at h
    · next hb =>
      simp only [Bool.and_eq_true, decide_eq_true_eq, UInt8.le_iff_toNat_le] at hb
      have hnext := (hs o rfl).code_next hb.1
      split at h
      · -- the last byte of a sequence: its character is beyond ASCII
        next hmore =>
        simp only [List.mem_singleton, Option.some.injEq] at h
        rw [hmore, Nat.pow_zero, Nat.mul_one] at hnext
        obtain ⟨hpos, hlt⟩ := hc
        rcases toNat_char_ofNat (o.code * 64 + (b.toNat - 0x80)) with hnat | hzero
        · rw [← h] at hnat
          omega
        · rw [← h] at hzero
          omega
      · simp at h
    · simp only [List.mem_cons, reduceCtorEq, false_or] at h
      exact toNat_of_mem_first hc h

@[simp] theorem run_cons (s : State) (b : UInt8) (bytes : List UInt8) :
    run s (b :: bytes) = (step s b).1 ++ run (step s b).2 bytes := by
  cases s <;> rfl

theorem mem_of_mem_run {s : State} (hs : Wide s) {bytes : List UInt8} {c : Char} (hc : IsAscii c)
    (h : some c ∈ run s bytes) : ∃ b ∈ bytes, b.toNat = c.toNat := by
  induction bytes generalizing s with
  | nil => cases s <;> simp [run] at h
  | cons b bytes ih =>
    rw [run_cons] at h
    rcases List.mem_append.mp h with hstep | hrun
    · exact ⟨b, by simp, toNat_of_mem_step hs hc hstep⟩
    · obtain ⟨b', hmem, heq⟩ := ih (step_wide hs b) hrun
      exact ⟨b', by simp [hmem], heq⟩

/-- Only bytes that are all read between characters leave nothing: an open sequence counts at the
    end. -/
theorem run_some_ne_nil (o : Open) (bytes : List UInt8) : run (some o) bytes ≠ [] := by
  induction bytes generalizing o with
  | nil => simp [run]
  | cons b bytes ih =>
    rw [run_cons, step]
    split
    · split
      · simp
      · exact ih _
    · simp

theorem run_ne_nil (s : State) {bytes : List UInt8} (h : bytes ≠ []) : run s bytes ≠ [] := by
  cases s with
  | some o => exact run_some_ne_nil o bytes
  | none =>
    cases bytes with
    | nil => exact absurd rfl h
    | cons b bytes =>
      rw [run_cons, step]
      rcases first_cases b with ⟨-, h⟩ | h | ⟨o, -, h⟩
      · simp [h]
      · simp [h]
      · rw [h]
        exact run_some_ne_nil o bytes

theorem getLast?_run {s : State} (hs : Wide s) {bytes : List UInt8} {c : Char} (hc : IsAscii c)
    (h : (run s bytes).getLast? = some (some c)) :
    ∃ b, bytes.getLast? = some b ∧ b.toNat = c.toNat := by
  induction bytes generalizing s with
  | nil => cases s <;> simp [run] at h
  | cons b bytes ih =>
    rw [run_cons, List.getLast?_append] at h
    cases bytes with
    | nil =>
      cases hnext : (step s b).2 with
      | some o => simp [hnext, run] at h
      | none =>
        simp only [hnext, run, List.getLast?_nil, Option.none_or] at h
        exact ⟨b, rfl, toNat_of_mem_step hs hc (List.mem_of_getLast? h)⟩
    | cons b' bytes =>
      have hlast :=
        List.getLast?_eq_some_getLast (run_ne_nil (step s b).2 (List.cons_ne_nil b' bytes))
      rw [hlast, Option.some_or, ← hlast] at h
      exact ih (step_wide hs b) h

/-! ### ASCII bytes end what is open -/

theorem step_ascii {s : State} (hs : Wide s) {b : UInt8} (hb : b < 0x80) :
    step s b = ((run s []) ++ [some (Char.ofNat b.toNat)], none) := by
  have hfirst : first b = ([some (Char.ofNat b.toNat)], none) := by rw [first, if_pos hb]
  cases s with
  | none => exact hfirst
  | some o =>
    have hlow := (hs o rfl).low_ge
    have hout : ¬ o.low ≤ b := by
      rw [UInt8.le_iff_toNat_le]
      have hnat : b.toNat < 0x80 := hb
      omega
    simp [step, hout, hfirst, run]

/-- What stands before an ASCII byte and what stands behind it are read apart. -/
theorem run_append_cons {s : State} (hs : Wide s) (xs ys : List UInt8) {b : UInt8} (hb : b < 0x80) :
    run s (xs ++ b :: ys) = run s xs ++ some (Char.ofNat b.toNat) :: run none ys := by
  induction xs generalizing s with
  | nil => rw [List.nil_append, run_cons, step_ascii hs hb, List.append_assoc]; rfl
  | cons x xs ih =>
    rw [List.cons_append, run_cons, run_cons, ih (step_wide hs x), List.append_assoc]

/-! ### The lossy reading -/

@[simp] theorem decode_eq_nil_iff (bytes : List UInt8) : decode bytes = [] ↔ bytes = [] := by
  constructor
  · intro h
    cases bytes with
    | nil => rfl
    | cons b bytes =>
      exact absurd (List.map_eq_nil_iff.mp h) (run_ne_nil none (List.cons_ne_nil b bytes))
  · rintro rfl
    rfl

/-- **An ASCII byte stands for itself**, whatever stands before it. -/
theorem decode_append_cons (xs ys : List UInt8) {b : UInt8} (hb : b < 0x80) :
    decode (xs ++ b :: ys) = decode xs ++ Char.ofNat b.toNat :: decode ys := by
  simp only [decode, run_append_cons wide_none xs ys hb, List.map_append, List.map_cons,
    Option.getD_some]

/-- The replacement character is none of ASCII. -/
theorem eq_some_of_getD_replacement {c : Char} (hc : IsAscii c) {o : Option Char}
    (h : o.getD replacement = c) : o = some c := by
  cases o with
  | some d => rw [← h]; rfl
  | none =>
    rw [← h] at hc
    exact absurd hc.2 (by decide)

/-- An ASCII character that is read is among the bytes. -/
theorem mem_of_mem_decode {bytes : List UInt8} {c : Char} (hc : IsAscii c) (h : c ∈ decode bytes) :
    ∃ b ∈ bytes, b.toNat = c.toNat := by
  obtain ⟨o, hmem, ho⟩ := List.mem_map.mp h
  rw [eq_some_of_getD_replacement hc ho] at hmem
  exact mem_of_mem_run wide_none hc hmem

/-- An ASCII character that is read last is the last byte. -/
theorem getLast?_of_getLast?_decode {bytes : List UInt8} {c : Char} (hc : IsAscii c)
    (h : (decode bytes).getLast? = some c) : ∃ b, bytes.getLast? = some b ∧ b.toNat = c.toNat := by
  rw [decode, List.getLast?_map, Option.map_eq_some_iff] at h
  obtain ⟨o, hlast, ho⟩ := h
  rw [eq_some_of_getD_replacement hc ho] at hlast
  exact getLast?_run wide_none hc hlast

/-! ### Reading what was written -/

/-- The byte with the value `n`, where that is one. -/
theorem toNat_ofNat_of_lt {n : Nat} (h : n < 256) : (UInt8.ofNat n).toNat = n := by
  rw [UInt8.toNat_ofNat']
  exact Nat.mod_eq_of_lt h

theorem first_lead2 {n : Nat} (hlow : 2 ≤ n) (hhigh : n < 32) :
    first (UInt8.ofNat (n + 192)) = ([], some ⟨0x80, 0xBF, 0, n⟩) := by
  have hall : ∀ n : Fin 32, 2 ≤ n.val →
      first (UInt8.ofNat (n.val + 192)) = ([], some ⟨0x80, 0xBF, 0, n.val⟩) := by decide
  exact hall ⟨n, hhigh⟩ hlow

/-- The lead byte of three narrows the second byte at both ends of its range. -/
theorem first_lead3 {n : Nat} (h : n < 16) :
    first (UInt8.ofNat (n + 224)) =
      ([], some ⟨if n = 0 then 0xA0 else 0x80, if n = 13 then 0x9F else 0xBF, 1, n⟩) := by
  have hall : ∀ n : Fin 16, first (UInt8.ofNat (n.val + 224)) =
      ([], some ⟨if n.val = 0 then 0xA0 else 0x80, if n.val = 13 then 0x9F else 0xBF, 1,
        n.val⟩) := by
    decide
  exact hall ⟨n, h⟩

theorem first_lead4 {n : Nat} (h : n < 5) :
    first (UInt8.ofNat (n + 240)) =
      ([], some ⟨if n = 0 then 0x90 else 0x80, if n = 4 then 0x8F else 0xBF, 2, n⟩) := by
  have hall : ∀ n : Fin 5, first (UInt8.ofNat (n.val + 240)) =
      ([], some ⟨if n.val = 0 then 0x90 else 0x80, if n.val = 4 then 0x8F else 0xBF, 2,
        n.val⟩) := by
    decide
  exact hall ⟨n, h⟩

/-- A byte that continues a sequence adds its six bits. -/
theorem run_continuation {low high : UInt8} {n : Nat} (hn : n < 64) (hlow : low.toNat ≤ n + 128)
    (hhigh : n + 128 ≤ high.toNat) (more code : Nat) (rest : List UInt8) :
    run (some ⟨low, high, more + 1, code⟩) (UInt8.ofNat (n + 128) :: rest) =
        run (some ⟨0x80, 0xBF, more, code * 64 + n⟩) rest ∧
      run (some ⟨low, high, 0, code⟩) (UInt8.ofNat (n + 128) :: rest) =
        some (Char.ofNat (code * 64 + n)) :: run none rest := by
  have hbyte : (UInt8.ofNat (n + 128)).toNat = n + 128 := toNat_ofNat_of_lt (by omega)
  have hin : low ≤ UInt8.ofNat (n + 128) ∧ UInt8.ofNat (n + 128) ≤ high := by
    rw [UInt8.le_iff_toNat_le, UInt8.le_iff_toNat_le, hbyte]
    exact ⟨hlow, hhigh⟩
  generalize UInt8.ofNat (n + 128) = b at hbyte hin ⊢
  constructor
  · simp [step, hin, hbyte]
  · simp [step, hin, hbyte]

/-- **A character is read back from its bytes**, whatever follows them. -/
theorem run_utf8EncodeChar (c : Char) (rest : List UInt8) :
    run none (String.utf8EncodeChar c ++ rest) = some c :: run none rest := by
  have hvalid : c.val.toNat < 0xD800 ∨ 0xDFFF < c.val.toNat ∧ c.val.toNat < 0x110000 := c.valid
  have hchar : ∀ n, n = c.val.toNat → Char.ofNat n = c := by
    rintro n rfl
    exact Char.ofNat_toNat c
  unfold String.utf8EncodeChar
  simp only
  generalize c.val.toNat = v at hvalid hchar ⊢
  -- by the number of bytes; the parts of the number are put together again
  split
  · next h1 =>
    have hbyte : (UInt8.ofNat v).toNat = v := toNat_ofNat_of_lt (by omega)
    have hb : UInt8.ofNat v < 0x80 := by
      rw [UInt8.lt_iff_toNat_lt, hbyte]
      exact Nat.lt_succ_of_le h1
    rw [List.singleton_append, run_cons, step_ascii wide_none hb, hbyte, hchar _ rfl]
    rfl
  split
  · next h1 h2 =>
    rw [List.cons_append, run_cons, step, first_lead2 (by omega) (by omega), List.nil_append,
      List.singleton_append, (run_continuation (by omega) (by simp) (by simp; omega) 0 _ _).2,
      hchar _ (by omega)]
  split
  · next h1 h2 h3 =>
    have hlow : (if v / 4096 % 16 = 0 then (0xA0 : UInt8) else 0x80).toNat ≤ v / 64 % 64 + 128 := by
      split
      · simp
        omega
      · simp
    have hhigh :
        v / 64 % 64 + 128 ≤ (if v / 4096 % 16 = 13 then (0x9F : UInt8) else 0xBF).toNat := by
      split <;> simp <;> omega
    rw [List.cons_append, run_cons, step, first_lead3 (by omega), List.nil_append,
      List.cons_append, (run_continuation (by omega) hlow hhigh _ _ _).1, List.singleton_append,
      (run_continuation (by omega) (by simp) (by simp; omega) 0 _ _).2, hchar _ (by omega)]
  · next h1 h2 h3 =>
    have hlow : (if v / 262144 % 8 = 0 then (0x90 : UInt8) else 0x80).toNat ≤
        v / 4096 % 64 + 128 := by
      split
      · simp
        omega
      · simp
    have hhigh : v / 4096 % 64 + 128 ≤
        (if v / 262144 % 8 = 4 then (0x8F : UInt8) else 0xBF).toNat := by
      split <;> simp <;> omega
    rw [List.cons_append, run_cons, step, first_lead4 (by omega), List.nil_append,
      List.cons_append, (run_continuation (by omega) hlow hhigh _ _ _).1, List.cons_append,
      (run_continuation (by omega) (by simp) (by simp; omega) _ _ _).1, List.singleton_append,
      (run_continuation (by omega) (by simp) (by simp; omega) 0 _ _).2, hchar _ (by omega)]

/-- **Bytes that encode a text are read as that text.** -/
theorem decode_encode (cs : List Char) : decode (encode cs) = cs := by
  induction cs with
  | nil => rfl
  | cons c cs ih =>
    have hrun : run none (encode (c :: cs)) = some c :: run none (encode cs) :=
      run_utf8EncodeChar c (encode cs)
    rw [decode, hrun, List.map_cons, ← decode, ih]
    rfl

end TlaDigest.Text.Utf8
