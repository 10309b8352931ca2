import TlaDigest.Catalog

/-!
# Merging tables

One table goes into another entry by entry (`insertAll`), and an entry changes what stands under its
key by a rule such as "append to it" or "put in its place". When the rule absorbs itself
(`Absorbs`), it does not matter whether a change is made to a table before it is merged or to the
result afterwards: this is `insertAll_alter`, for tables that hold each key once. A table that was
built by changes can therefore be merged as a whole, with the same result as making the changes one
after the other.

Keys are compared with a test that may be coarser than equality, but has to be an equivalence
(`KeyTest`). A change keeps the keys and their order, and adds its own at the end when it is new
(`keys_alter`).
-/

namespace TlaDigest.Catalog

variable {κ ν : Type}

/-- A test of keys that does not tell apart keys that are the same. -/
structure KeyTest (same : κ → κ → Bool) : Prop where
  refl : ∀ k, same k k = true
  congr : ∀ {k k'}, same k k' = true → ∀ key, same key k = same key k'

theorem KeyTest.symm {same : κ → κ → Bool} (h : KeyTest same) {k k' : κ}
    (hk : same k k' = true) : same k' k = true := by
  rw [h.congr hk k']
  exact h.refl k'

theorem KeyTest.comm {same : κ → κ → Bool} (h : KeyTest same) (k k' : κ) :
    same k k' = same k' k :=
  Bool.eq_iff_iff.mpr ⟨h.symm, h.symm⟩

/-- Equality is such a test. -/
theorem keyTest_beq [BEq κ] [LawfulBEq κ] : KeyTest fun a b : κ => a == b where
  refl k := beq_self_eq_true k
  congr hk key := by rw [eq_of_beq hk]

/-! ### Keys -/

def keys (table : Catalog κ ν) : List κ := table.map (·.1)

def has (same : κ → κ → Bool) (k : κ) (table : Catalog κ ν) : Bool := (keys table).any (same · k)

def Distinct (same : κ → κ → Bool) (table : Catalog κ ν) : Prop :=
  (keys table).Pairwise fun a b => same a b = false

@[simp] theorem has_cons (same : κ → κ → Bool) (k key : κ) (v : ν) (table : Catalog κ ν) :
    has same k ((key, v) :: table) = (same key k || has same k table) := rfl

section Alter

variable {same : κ → κ → Bool} {k k' : κ}

@[simp] theorem alter_cons_of_same {key : κ} (h : same key k = true) (f : Option ν → ν) (v : ν)
    (table : Catalog κ ν) : alter same k f ((key, v) :: table) = (key, f (some v)) :: table := by
  rw [alter, if_pos h]

@[simp] theorem alter_cons_of_other {key : κ} (h : same key k = false) (f : Option ν → ν) (v : ν)
    (table : Catalog κ ν) :
    alter same k f ((key, v) :: table) = (key, v) :: alter same k f table := by
  rw [alter, if_neg (by simp [h])]

/-- A new key goes to the end. -/
theorem alter_of_absent {table : Catalog κ ν} (h : has same k table = false) (f : Option ν → ν) :
    alter same k f table = table ++ [(k, f none)] := by
  induction table with
  | nil => rfl
  | cons entry table ih =>
    obtain ⟨key, v⟩ := entry
    rw [has_cons, Bool.or_eq_false_iff] at h
    rw [alter_cons_of_other h.1, ih h.2]
    rfl

/-- A change adds its key where it is new, and leaves the other keys in their places. -/
theorem keys_alter (same : κ → κ → Bool) (k : κ) (f : Option ν → ν) (table : Catalog κ ν) :
    keys (alter same k f table) = keys table ++ if has same k table then [] else [k] := by
  induction table with
  | nil => rfl
  | cons entry table ih =>
    obtain ⟨key, v⟩ := entry
    rw [has_cons]
    cases h : same key k with
    | true => simp [alter_cons_of_same h, keys]
    | false =>
      have hkeys : keys (alter same k f ((key, v) :: table)) =
          key :: keys (alter same k f table) := by
        rw [alter_cons_of_other h]
        rfl
      rw [hkeys, ih, Bool.false_or]
      rfl

/-- What is entered was there before, or the change made its value. -/
theorem mem_alter {f : Option ν → ν} {table : Catalog κ ν} {entry : κ × ν}
    (h : entry ∈ alter same k f table) : entry ∈ table ∨ ∃ old, entry.2 = f old := by
  induction table with
  | nil =>
    rw [alter, List.mem_singleton] at h
    exact .inr ⟨none, by rw [h]⟩
  | cons first table ih =>
    obtain ⟨key, v⟩ := first
    rw [alter] at h
    split at h
    · rcases List.mem_cons.mp h with rfl | hmem
      · exact .inr ⟨some v, rfl⟩
      · exact .inl (List.mem_cons_of_mem _ hmem)
    · rcases List.mem_cons.mp h with rfl | hmem
      · exact .inl (List.mem_cons_self ..)
      · rcases ih hmem with hin | hmade
        · exact .inl (List.mem_cons_of_mem _ hin)
        · exact .inr hmade

theorem distinct_alter {table : Catalog κ ν} (h : Distinct same table) (k : κ)
    (f : Option ν → ν) : Distinct same (alter same k f table) := by
  rw [Distinct, keys_alter]
  cases hk : has same k table with
  | true => rwa [if_pos rfl, List.append_nil]
  | false =>
    refine List.pairwise_append.mpr ⟨h, List.pairwise_singleton _ _, ?_⟩
    intro a ha b hb
    rw [List.mem_singleton.mp hb]
    exact Bool.eq_false_iff.mpr (List.any_eq_false.mp hk a ha)

theorem has_alter_of_has {table : Catalog κ ν} (h : has same k table = true) (k' : κ)
    (f : Option ν → ν) : has same k (alter same k' f table) = true := by
  rw [has, keys_alter, List.any_append, ← has, h, Bool.true_or]

theorem has_alter_of_same (hsame : KeyTest same) (hk : same k' k = true) (f : Option ν → ν)
    (table : Catalog κ ν) : has same k (alter same k' f table) = true := by
  have hcongr : has same k' table = has same k table := by
    simp only [has, hsame.congr hk]
  cases h : has same k' table with
  | true => exact has_alter_of_has (hcongr ▸ h) k' f
  | false =>
    rw [has, keys_alter, h, List.any_append]
    simp [hk]

/-- Two changes under one key are one change. -/
theorem alter_alter_of_same (hsame : KeyTest same) (hk : same k' k = true) (f g : Option ν → ν)
    (table : Catalog κ ν) :
    alter same k g (alter same k' f table) = alter same k' (fun old => g (some (f old))) table := by
  induction table with
  | nil => exact alter_cons_of_same hk g (f none) []
  | cons entry table ih =>
    obtain ⟨key, v⟩ := entry
    have heq : same key k' = same key k := hsame.congr hk key
    cases h : same key k' with
    | true => simp [h, heq ▸ h]
    | false => simp [h, heq ▸ h, ih]

/-- Changes under different keys commute, when the second key is there already: its place in the
    table is settled then. -/
theorem alter_comm (hsame : KeyTest same) (hk : same k' k = false) (f g : Option ν → ν)
    {table : Catalog κ ν} (hhas : has same k table = true) :
    alter same k g (alter same k' f table) = alter same k' f (alter same k g table) := by
  induction table with
  | nil => simp [has, keys] at hhas
  | cons entry table ih =>
    obtain ⟨key, v⟩ := entry
    rw [has_cons] at hhas
    cases h : same key k with
    | true =>
      have h' : same key k' = false := by rw [← hk, ← hsame.congr h k', hsame.comm]
      simp [h, h']
    | false =>
      cases h' : same key k' with
      | true => simp [h, h']
      | false =>
        have hrest : has same k table = true := by simpa [h] using hhas
        simp [h, h', ih hrest]

end Alter

/-! ### Looking up -/

section Lookup

variable {same : κ → κ → Bool}

theorem get?_congr (hsame : KeyTest same) {k k' : κ} (hk : same k k' = true)
    (table : Catalog κ ν) : get? same k table = get? same k' table := by
  induction table with
  | nil => rfl
  | cons entry table ih => rw [get?, get?, hsame.congr hk, ih]

/-- A change is found under its key, and the other keys are as before. -/
theorem get?_alter (hsame : KeyTest same) (k k' : κ) (f : Option ν → ν) (table : Catalog κ ν) :
    get? same k (alter same k' f table) =
      if same k' k then some (f (get? same k table)) else get? same k table := by
  induction table with
  | nil => rfl
  | cons entry table ih =>
    obtain ⟨key, v⟩ := entry
    cases h : same key k' with
    | true =>
      have hkey : same key k = same k' k := by
        rw [hsame.comm key k, hsame.congr h k, hsame.comm]
      rw [alter_cons_of_same h, get?, get?, hkey]
      cases same k' k with
      | true => rfl
      | false => rfl
    | false =>
      rw [alter_cons_of_other h, get?, get?, ih]
      cases hk : same k' k with
      | true =>
        have hkey : same key k = false := by rw [← h, hsame.congr hk]
        simp [hkey]
      | false => rfl

/-- In a table that holds each key once, every entry is found. -/
theorem get?_of_mem (hsame : KeyTest same) {table : Catalog κ ν} (h : Distinct same table)
    {key : κ} {v : ν} (hmem : (key, v) ∈ table) {k : κ} (hk : same key k = true) :
    get? same k table = some v := by
  induction table with
  | nil => cases hmem
  | cons entry table ih =>
    obtain ⟨first, old⟩ := entry
    obtain ⟨hfirst, hrest⟩ := List.pairwise_cons.mp h
    rw [get?]
    rcases List.mem_cons.mp hmem with heq | hmem
    · obtain ⟨rfl, rfl⟩ := Prod.mk.inj heq
      rw [if_pos hk]
    · have hother : same first k = false := by
        rw [← hsame.congr hk first]
        exact hfirst key (List.mem_map_of_mem hmem)
      rw [if_neg (by simp [hother]), ih hrest hmem]

theorem mem_of_get? {k : κ} {v : ν} {table : Catalog κ ν} (h : get? same k table = some v) :
    ∃ key, (key, v) ∈ table ∧ same key k = true := by
  induction table with
  | nil => cases h
  | cons entry table ih =>
    obtain ⟨first, old⟩ := entry
    rw [get?] at h
    split at h
    · next hfirst =>
      obtain rfl := Option.some.inj h
      exact ⟨first, List.mem_cons_self, hfirst⟩
    · obtain ⟨key, hmem, hkey⟩ := ih h
      exact ⟨key, List.mem_cons_of_mem _ hmem, hkey⟩

end Lookup

/-! ### Merging -/

/-- A rule for entries absorbs itself: to apply it to a value, and the outcome to an older value, is
    to apply it to the older value twice. -/
structure Absorbs (rule : ν → Option ν → ν) : Prop where
  first : ∀ x old, rule (rule x none) old = rule x old
  again : ∀ x v old, rule (rule x (some v)) old = rule x (some (rule v old))

def insertAll (same : κ → κ → Bool) (rule : ν → Option ν → ν) (table other : Catalog κ ν) :
    Catalog κ ν :=
  other.foldl (fun table entry => alter same entry.1 (rule entry.2) table) table

section InsertAll

variable {same : κ → κ → Bool} {rule : ν → Option ν → ν}

/-- A change under a key that is there, and that the other table does not hold, is made before or
    after merging. -/
theorem insertAll_alter_of_has (hsame : KeyTest same) {k : κ} (g : Option ν → ν)
    {table other : Catalog κ ν} (hhas : has same k table = true)
    (hother : ∀ key ∈ keys other, same key k = false) :
    insertAll same rule (alter same k g table) other =
      alter same k g (insertAll same rule table other) := by
  induction other generalizing table with
  | nil => rfl
  | cons entry other ih =>
    obtain ⟨key, v⟩ := entry
    have hkey : same key k = false := hother key (by simp [keys])
    have hrest : ∀ key ∈ keys other, same key k = false := by
      intro other' hmem
      exact hother other' (by rw [keys] at hmem ⊢; exact List.mem_cons_of_mem _ hmem)
    have hstep := ih (has_alter_of_has hhas key (rule v)) hrest
    rw [alter_comm hsame hkey (rule v) g hhas] at hstep
    exact hstep

/-- **A change may be made before or after merging.** -/
theorem insertAll_alter (hsame : KeyTest same) (hrule : Absorbs rule) (k : κ) (x : ν)
    {other : Catalog κ ν} (hother : Distinct same other) (table : Catalog κ ν) :
    insertAll same rule table (alter same k (rule x) other) =
      alter same k (rule x) (insertAll same rule table other) := by
  -- on the table that is merged; the entry with the key decides, or the end where there is none
  induction other generalizing table with
  | nil =>
    have hfirst : rule (rule x none) = rule x := funext (hrule.first x)
    simp only [alter, insertAll, List.foldl_cons, List.foldl_nil, hfirst]
  | cons entry other ih =>
    obtain ⟨key, v⟩ := entry
    obtain ⟨hkeys, hrest⟩ := List.pairwise_cons.mp hother
    cases h : same key k with
    | true =>
      have hagain : rule (rule x (some v)) = fun old => rule x (some (rule v old)) :=
        funext (hrule.again x v)
      have hother' : ∀ key' ∈ keys other, same key' k = false := by
        intro key' hmem
        rw [← hsame.congr h key', ← hkeys key' hmem, hsame.comm]
      rw [alter_cons_of_same h, insertAll, List.foldl_cons, ← insertAll, hagain,
        ← alter_alter_of_same hsame h]
      exact insertAll_alter_of_has hsame (rule x) (has_alter_of_same hsame h (rule v) table) hother'
    | false =>
      rw [alter_cons_of_other h]
      exact ih hrest (alter same key (rule v) table)

/-- Merging leaves the keys of the first table in their places. -/
theorem keys_prefix_insertAll (same : κ → κ → Bool) (rule : ν → Option ν → ν)
    (table other : Catalog κ ν) : keys table <+: keys (insertAll same rule table other) := by
  induction other generalizing table with
  | nil => exact List.prefix_rfl
  | cons entry other ih =>
    have hstep : keys table <+: keys (alter same entry.1 (rule entry.2) table) := by
      rw [keys_alter]
      exact List.prefix_append _ _
    exact hstep.trans (ih _)

/-- A table with different keys is what merging it into the empty table gives. -/
theorem insertAll_eq_append (hrule : ∀ v, rule v none = v) {table other : Catalog κ ν}
    (h : Distinct same (table ++ other)) : insertAll same rule table other = table ++ other := by
  induction other generalizing table with
  | nil => simp [insertAll]
  | cons entry other ih =>
    obtain ⟨key, v⟩ := entry
    have hmove : table ++ (key, v) :: other = (table ++ [(key, v)]) ++ other := by simp
    have habsent : has same key table = false := by
      rw [Distinct, keys, List.map_append] at h
      refine List.any_eq_false.mpr fun key' hmem => ?_
      simp [(List.pairwise_append.mp h).2.2 key' hmem key (by simp)]
    rw [insertAll, List.foldl_cons, ← insertAll, alter_of_absent habsent, hrule, hmove]
    exact ih (hmove ▸ h)

end InsertAll

end TlaDigest.Catalog
