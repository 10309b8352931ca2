import TlaDigest.Line.Field
import TlaDigest.Proofs.Text.Readers

/-!
# The grammar of records

A record is one or more tokens `key=value` with blanks between them, and a value either stands in
quotes or is a run of visible characters that does not start with a quote. The scanner knows nothing
of tokens: it cuts at the first equals sign, the first quote or the first blank, although values may
hold all three. `first?_eq_some_iff` says that these cuts are the ends of tokens, `allFrom?_chars`
and `exists_reading_of_allFrom?` follow them through the line, and `Reading.chars_injective` says
that a line has one reading at most.
-/

namespace TlaDigest.Field

open Text

/-! ### Tokens -/

/-- How a value is written: in quotes, or as it stands. -/
inductive Spelling where
  | quoted (text : List Char) (closed : '"' ∉ text)
  | bare (text : List Char) (visible : ∀ c ∈ text, isBlank c = false)
      (unquoted : text.head? ≠ some '"')

namespace Spelling

def text : Spelling → List Char
  | quoted text _ => text
  | bare text _ _ => text

def chars : Spelling → List Char
  | quoted text _ => '"' :: (text ++ ['"'])
  | bare text _ _ => text

/-- The first character tells the two ways apart. -/
theorem chars_injective {s s' : Spelling} (h : s.chars = s'.chars) : s = s' := by
  cases s with
  | quoted text hclosed =>
    cases s' with
    | quoted text' hclosed' =>
      obtain rfl : text = text' := List.append_cancel_right (List.cons.inj h).2
      rfl
    | bare text' hvisible' hunquoted' =>
      obtain rfl : '"' :: (text ++ ['"']) = text' := h
      exact absurd rfl hunquoted'
  | bare text hvisible hunquoted =>
    cases s' with
    | quoted text' hclosed' =>
      obtain rfl : text = '"' :: (text' ++ ['"']) := h
      exact absurd rfl hunquoted
    | bare text' hvisible' hunquoted' =>
      obtain rfl : text = text' := h
      rfl

end Spelling

structure Token where
  key : List Char
  run : Run (fun c => c.isAlphanum || c == '_') key
  value : Spelling

namespace Token

def chars (t : Token) : List Char := t.key ++ '=' :: t.value.chars

def field (t : Token) : Field := ⟨String.ofList t.key, String.ofList t.value.text⟩

end Token

/-- Some tokens with blanks between them. -/
inductive Reading where
  | single (token : Token)
  | cons (token : Token) (gap : List Char) (blank : Run isBlank gap) (rest : Reading)

namespace Reading

def chars : Reading → List Char
  | single token => token.chars
  | cons token gap _ rest => token.chars ++ (gap ++ rest.chars)

def fields : Reading → List Field
  | single token => [token.field]
  | cons token _ _ rest => token.field :: rest.fields

end Reading

/-! ### The cuts of the scanner -/

theorem endsHere_iff {tail : List Char} :
    endsHere tail = true ↔ ∀ c ∈ tail.head?, isBlank c = true := by
  cases tail with
  | nil => simp [endsHere]
  | cons c tail => simp [endsHere]

theorem value?_of_unquoted {cs : List Char} (h : cs.head? ≠ some '"') :
    value? cs = some (cutAt isBlank cs) := by
  unfold value?
  split
  · exact absurd rfl h
  · rfl

theorem value?_quote_eq_some_iff {cs value tail : List Char} :
    value? ('"' :: cs) = some (value, tail) ↔ cs = value ++ '"' :: tail ∧ '"' ∉ value := by
  have hcut : ∀ rest, cutAt (· == '"') cs = (value, rest) ↔
      cs = value ++ rest ∧ '"' ∉ value ∧ ∀ c ∈ rest.head?, c = '"' := by
    intro rest
    rw [cutAt_eq_iff]
    simp only [beq_eq_false_iff_ne, beq_iff_eq]
    constructor
    · rintro ⟨hcs, hvalue, hrest⟩
      exact ⟨hcs, fun hmem => hvalue _ hmem rfl, hrest⟩
    · rintro ⟨hcs, hvalue, hrest⟩
      refine ⟨hcs, ?_, hrest⟩
      rintro c hc rfl
      exact hvalue hc
  simp only [value?]
  constructor
  · intro h
    split at h
    · cases h
    · next front q rest heq =>
      obtain ⟨rfl, rfl⟩ : front = value ∧ rest = tail := by simpa using h
      obtain ⟨hcs, hvalue, hq⟩ := (hcut _).mp heq
      rw [hq q rfl] at hcs
      exact ⟨hcs, hvalue⟩
  · rintro ⟨hcs, hvalue⟩
    rw [(hcut ('"' :: tail)).mpr ⟨hcs, hvalue, by simp⟩]

/-- The value that is cut off is a spelling, and every spelling is cut off. -/
theorem value?_eq_some_iff {cs value tail : List Char} (hend : endsHere tail = true) :
    value? cs = some (value, tail) ↔ ∃ s : Spelling, cs = s.chars ++ tail ∧ s.text = value := by
  constructor
  · intro h
    by_cases hquote : cs.head? = some '"'
    · obtain ⟨rest, rfl⟩ := List.head?_eq_some_iff.mp hquote
      obtain ⟨rfl, hvalue⟩ := value?_quote_eq_some_iff.mp h
      exact ⟨.quoted value hvalue, by simp [Spelling.chars], rfl⟩
    · rw [value?_of_unquoted hquote, Option.some.injEq, cutAt_eq_iff] at h
      obtain ⟨rfl, hvisible, -⟩ := h
      refine ⟨.bare value hvisible ?_, rfl, rfl⟩
      intro hhead
      rw [List.head?_append, hhead] at hquote
      exact hquote rfl
  · rintro ⟨s, rfl, rfl⟩
    cases s with
    | quoted text hclosed =>
      have hchars : text ++ ['"'] ++ tail = text ++ '"' :: tail := by simp
      exact value?_quote_eq_some_iff.mpr ⟨hchars, hclosed⟩
    | bare text hvisible hunquoted =>
      have hhead : (text ++ tail).head? ≠ some '"' := by
        cases text with
        | cons c text => exact hunquoted
        | nil =>
          intro hquote
          have hblank := endsHere_iff.mp hend _ hquote
          exact absurd hblank (by decide)
      change value? (text ++ tail) = some (text, tail)
      rw [value?_of_unquoted hhead, Option.some.injEq, cutAt_eq_iff]
      exact ⟨rfl, hvisible, endsHere_iff.mp hend⟩

/-- **The scanner takes off one token**, and what follows starts with a blank or is empty. -/
theorem first?_eq_some_iff {cs tail : List Char} {f : Field} :
    first? cs = some (f, tail) ↔
      ∃ t : Token, cs = t.chars ++ tail ∧ t.field = f ∧ endsHere tail = true := by
  constructor
  · intro h
    unfold first? at h
    split at h
    · cases h
    · next key q rest heq =>
      obtain ⟨rfl, -, hq⟩ := cutAt_eq_iff.mp heq
      obtain rfl : q = '=' := by simpa using hq
      split at h
      · cases h
      · next hkey =>
        split at h
        · cases h
        · next value back hvalue =>
          split at h
          · next hend =>
            obtain ⟨rfl, rfl⟩ : (⟨String.ofList key, String.ofList value⟩ : Field) = f ∧
                back = tail := by simpa using h
            obtain ⟨s, rfl, rfl⟩ := (value?_eq_some_iff hend).mp hvalue
            rw [not_or, not_not, List.all_eq_true] at hkey
            exact ⟨⟨key, ⟨hkey.1, hkey.2⟩, s⟩, by simp [Token.chars], rfl, hend⟩
          · cases h
  · rintro ⟨⟨key, hrun, s⟩, rfl, rfl, hend⟩
    have hkey : ∀ c ∈ key, isNameChar c = true := hrun.all
    have hcut : cutAt (· == '=') (key ++ '=' :: (s.chars ++ tail)) =
        (key, '=' :: (s.chars ++ tail)) := by
      refine cutAt_eq_iff.mpr ⟨rfl, ?_, by simp⟩
      intro c hc
      rw [beq_eq_false_iff_ne]
      rintro rfl
      exact absurd (hkey _ hc) (by decide)
    have hvalue : value? (s.chars ++ tail) = some (s.text, tail) :=
      (value?_eq_some_iff hend).mpr ⟨s, rfl, rfl⟩
    have hallowed : ¬ (key = [] ∨ ¬ key.all isNameChar) := by
      rw [not_or, not_not, List.all_eq_true]
      exact ⟨hrun.ne_nil, hkey⟩
    have hchars : Token.chars ⟨key, hrun, s⟩ ++ tail = key ++ '=' :: (s.chars ++ tail) := by
      simp [Token.chars]
    rw [hchars, first?, hcut]
    simp only [if_neg hallowed, hvalue, if_pos hend]
    rfl

/-! ### From token to token -/

theorem endsHere_of_blank {tail : List Char} (h : ∀ c ∈ tail, isBlank c = true) :
    endsHere tail = true := by
  rw [endsHere_iff]
  intro c hc
  exact h c (List.mem_of_mem_head? hc)

namespace Token

theorem exists_chars_eq_cons (t : Token) : ∃ c cs, t.chars = c :: cs ∧ isBlank c = false := by
  cases hkey : t.key with
  | nil => exact absurd hkey t.run.ne_nil
  | cons c key =>
    refine ⟨c, key ++ '=' :: t.value.chars, by simp [chars, hkey], ?_⟩
    exact isBlank_eq_false_of_isNameChar (t.run.all c (by simp [hkey]))

/-- A token ends with a visible character. -/
theorem trimEnd_append_chars (front : List Char) (t : Token) :
    trimEnd (front ++ t.chars) = front ++ t.chars := by
  have hvalue : trimEnd t.value.chars = t.value.chars := by
    cases t.value with
    | quoted text hclosed => exact trimEnd_append_cons ('"' :: text) [] (by decide)
    | bare text hvisible hunquoted => exact trimEnd_of_visible hvisible
  have hfront : front ++ t.chars = front ++ t.key ++ '=' :: t.value.chars := by simp [chars]
  rw [hfront, trimEnd_append_cons _ _ (by decide), hvalue]

/-- **A token is told by the text it stands in.** The scanner gives its key and what follows it, and
    the text between them has one spelling. -/
theorem eq_of_append_eq {t t' : Token} {tail tail' : List Char} (htail : endsHere tail = true)
    (htail' : endsHere tail' = true) (h : t.chars ++ tail = t'.chars ++ tail') :
    t = t' ∧ tail = tail' := by
  have hfirst : first? (t.chars ++ tail) = some (t.field, tail) :=
    first?_eq_some_iff.mpr ⟨t, rfl, rfl, htail⟩
  have hfirst' : first? (t.chars ++ tail) = some (t'.field, tail') :=
    first?_eq_some_iff.mpr ⟨t', h, rfl, htail'⟩
  rw [hfirst, Option.some.injEq, Prod.mk.injEq] at hfirst'
  obtain ⟨hfield, rfl⟩ := hfirst'
  have hchars : t.chars = t'.chars := List.append_cancel_right h
  obtain ⟨key, hrun, s⟩ := t
  obtain ⟨key', hrun', s'⟩ := t'
  obtain rfl : key = key' := String.ofList_injective (Field.mk.inj hfield).1
  obtain rfl : s = s' := Spelling.chars_injective (by simpa [chars] using hchars)
  exact ⟨rfl, rfl⟩

end Token

namespace Reading

theorem exists_chars_eq_cons (r : Reading) : ∃ c cs, r.chars = c :: cs ∧ isBlank c = false := by
  cases r with
  | single token => exact token.exists_chars_eq_cons
  | cons token gap hblank rest =>
    obtain ⟨c, cs, hchars, hc⟩ := token.exists_chars_eq_cons
    exact ⟨c, cs ++ (gap ++ rest.chars), by simp [chars, hchars], hc⟩

theorem chars_ne_nil (r : Reading) : r.chars ≠ [] := by
  obtain ⟨c, cs, hchars, -⟩ := r.exists_chars_eq_cons
  simp [hchars]

/-- Nothing but the gap stands before the next token. -/
theorem trimStart_gap {gap : List Char} (hgap : ∀ c ∈ gap, isBlank c = true) (r : Reading)
    (tail : List Char) : trimStart (gap ++ (r.chars ++ tail)) = r.chars ++ tail := by
  obtain ⟨c, cs, hchars, hc⟩ := r.exists_chars_eq_cons
  rw [trimStart, List.dropWhile_append_of_pos hgap, hchars, List.cons_append,
    List.dropWhile_cons_of_neg (by simp [hc])]

theorem trimEnd_append_chars (front : List Char) (r : Reading) :
    trimEnd (front ++ r.chars) = front ++ r.chars := by
  induction r generalizing front with
  | single token => exact token.trimEnd_append_chars front
  | cons token gap hblank rest ih =>
    have hchars : front ++ (cons token gap hblank rest).chars =
        front ++ token.chars ++ gap ++ rest.chars := by simp [chars]
    rw [hchars, ih]

/-- Blanks around a record are no part of it. -/
theorem trim_surrounded {u v : List Char} (hu : ∀ c ∈ u, isBlank c = true)
    (hv : ∀ c ∈ v, isBlank c = true) (r : Reading) : trim (u ++ (r.chars ++ v)) = r.chars := by
  rw [trim, trimStart_gap hu, trimEnd_append_of_blank _ hv]
  exact r.trimEnd_append_chars []

def first : Reading → Token
  | single token => token
  | cons token _ _ _ => token

def tail : Reading → List Char
  | single _ => []
  | cons _ gap _ rest => gap ++ rest.chars

theorem chars_eq (r : Reading) : r.chars = r.first.chars ++ r.tail := by
  cases r with
  | single token => exact (List.append_nil _).symm
  | cons token gap hblank rest => rfl

theorem endsHere_gap {gap : List Char} (h : Run isBlank gap) (more : List Char) :
    endsHere (gap ++ more) = true := by
  cases gap with
  | nil => exact absurd rfl h.ne_nil
  | cons c gap => exact h.all c (by simp)

@[simp] theorem endsHere_tail (r : Reading) : endsHere r.tail = true := by
  cases r with
  | single token => rfl
  | cons token gap hblank rest => exact endsHere_gap hblank rest.chars

/-- **The grammar is unambiguous.** -/
theorem chars_injective {r r' : Reading} (h : r.chars = r'.chars) : r = r' := by
  induction r generalizing r' with
  | single token =>
    rw [chars_eq, chars_eq r'] at h
    obtain ⟨htoken, htail⟩ := Token.eq_of_append_eq (endsHere_tail _) (endsHere_tail _) h
    cases r' with
    | single token' => exact congrArg single htoken
    | cons token' gap' hblank' rest' =>
      exact absurd (List.append_eq_nil_iff.mp htail.symm).1 hblank'.ne_nil
  | cons token gap hblank rest ih =>
    rw [chars_eq, chars_eq r'] at h
    obtain ⟨htoken, htail⟩ := Token.eq_of_append_eq (endsHere_tail _) (endsHere_tail _) h
    cases r' with
    | single token' => exact absurd (List.append_eq_nil_iff.mp htail).1 hblank.ne_nil
    | cons token' gap' hblank' rest' =>
      have hstart := trimStart_gap hblank.all rest []
      have hstart' := trimStart_gap hblank'.all rest' []
      rw [List.append_nil] at hstart hstart'
      have hrest : rest.chars = rest'.chars :=
        calc rest.chars
            = trimStart (gap ++ rest.chars) := hstart.symm
          _ = trimStart (gap' ++ rest'.chars) := congrArg trimStart htail
          _ = rest'.chars := hstart'
      obtain rfl : token = token' := htoken
      obtain rfl : rest = rest' := ih hrest
      obtain rfl : gap = gap' := List.append_cancel_right htail
      rfl

end Reading

theorem allFrom?_cons_of_first? {cs tail : List Char} {f : Field}
    (h : first? cs = some (f, tail)) :
    allFrom? cs = (allFrom? (trimStart tail)).map (f :: ·) := by
  cases cs with
  | nil => cases h
  | cons c cs =>
    rw [allFrom?]
    split
    · next hnone =>
      rw [h] at hnone
      cases hnone
    · next hsome =>
      rw [h, Option.some.injEq, Prod.mk.injEq] at hsome
      obtain ⟨rfl, rfl⟩ := hsome
      rfl

/-- A reading is scanned to its end, whatever blanks follow it. -/
theorem allFrom?_chars (r : Reading) {v : List Char} (hv : ∀ c ∈ v, isBlank c = true) :
    allFrom? (r.chars ++ v) = some r.fields := by
  induction r with
  | single token =>
    have hfirst : first? (token.chars ++ v) = some (token.field, v) :=
      first?_eq_some_iff.mpr ⟨token, rfl, rfl, endsHere_of_blank hv⟩
    have hrest : trimStart v = [] := List.dropWhile_eq_nil_iff.mpr hv
    change allFrom? (token.chars ++ v) = some [token.field]
    rw [allFrom?_cons_of_first? hfirst, hrest, allFrom?]
    rfl
  | cons token gap hblank rest ih =>
    have hfirst : first? (token.chars ++ (gap ++ (rest.chars ++ v))) =
        some (token.field, gap ++ (rest.chars ++ v)) :=
      first?_eq_some_iff.mpr ⟨token, rfl, rfl, Reading.endsHere_gap hblank _⟩
    have hchars : (Reading.cons token gap hblank rest).chars ++ v =
        token.chars ++ (gap ++ (rest.chars ++ v)) := by simp [Reading.chars]
    rw [hchars, allFrom?_cons_of_first? hfirst, Reading.trimStart_gap hblank.all, ih]
    rfl

/-- What is scanned to its end is a reading with blanks behind it. -/
theorem exists_reading_of_allFrom? {cs : List Char} {fields : List Field} (hne : cs ≠ [])
    (h : allFrom? cs = some fields) :
    ∃ r : Reading, ∃ v, (∀ c ∈ v, isBlank c = true) ∧ cs = r.chars ++ v ∧ r.fields = fields := by
  fun_induction allFrom? cs generalizing fields with
  | case1 => exact absurd rfl hne
  | case2 c cs hnone => cases h
  | case3 c cs f tail hfirst ih =>
    obtain ⟨more, hmore, rfl⟩ := Option.map_eq_some_iff.mp h
    obtain ⟨token, hchars, rfl, hend⟩ := first?_eq_some_iff.mp hfirst
    obtain ⟨gap, hgap, htail⟩ := exists_trimStart tail
    by_cases hrest : trimStart tail = []
    · rw [hrest, allFrom?, Option.some.injEq] at hmore
      refine ⟨.single token, tail, ?_, hchars, by rw [← hmore]; rfl⟩
      rw [htail, hrest, List.append_nil]
      exact hgap
    · obtain ⟨r, v, hv, hr, rfl⟩ := ih hrest hmore
      have hne : gap ≠ [] := by
        rintro rfl
        -- the next token would be glued to this one
        obtain ⟨d, ds, hd, hvisible⟩ := r.exists_chars_eq_cons
        rw [htail, hr, hd] at hend
        have hblank : isBlank d = true := hend
        rw [hvisible] at hblank
        cases hblank
      refine ⟨.cons token gap ⟨hne, hgap⟩ r, v, hv, ?_, rfl⟩
      rw [hchars, htail, hr]
      simp [Reading.chars]

/-- The scanner accepts a line with the fields of a reading of it. -/
theorem all?_eq_some_iff {line : List Char} {fields : List Field} :
    all? line = some fields ↔ ∃ r : Reading, r.chars = trim line ∧ r.fields = fields := by
  constructor
  · intro h
    unfold all? at h
    split at h
    · cases h
    · next hne =>
      obtain ⟨r, v, hv, hchars, hfields⟩ := exists_reading_of_allFrom? hne h
      refine ⟨r, ?_, hfields⟩
      calc r.chars
          = trim (r.chars ++ v) := (r.trim_surrounded (u := []) (by simp) hv).symm
        _ = trim (trim line) := by rw [hchars]
        _ = trim line := trim_trim line
  · rintro ⟨r, hchars, rfl⟩
    have hscan := allFrom?_chars r (v := []) (by simp)
    rw [List.append_nil, hchars] at hscan
    unfold all?
    split
    · next hnil => exact absurd (hchars.trans hnil) r.chars_ne_nil
    · exact hscan

/-- **The scanner accepts exactly the grammar, and reads each line in one way.** It ends on every
    line: where there is no reading, as with a quote that is never closed or with text behind a
    closing quote, it answers that there is none. -/
theorem all?_reads_grammar (line : List Char) :
    (∀ fields, all? line = some fields ↔
      ∃ r : Reading, r.chars = trim line ∧ r.fields = fields) ∧
    (∀ r r' : Reading, r.chars = trim line → r'.chars = trim line → r = r') ∧
    (all? line = none ↔ ∀ r : Reading, r.chars ≠ trim line) := by
  refine ⟨fun fields => all?_eq_some_iff, ?_, ?_⟩
  · intro r r' hr hr'
    exact Reading.chars_injective (hr.trans hr'.symm)
  · rw [Option.eq_none_iff_forall_ne_some]
    constructor
    · intro h r hr
      exact h r.fields (all?_eq_some_iff.mpr ⟨r, hr, rfl⟩)
    · intro h fields hsome
      obtain ⟨r, hr, -⟩ := all?_eq_some_iff.mp hsome
      exact h r hr

example : all? " a=\"x=1 y\" b= c=z\"=\t".toList =
    some [⟨"a", "x=1 y"⟩, ⟨"b", ""⟩, ⟨"c", "z\"="⟩] := by decide +kernel

example : all? "a=\"x\"y".toList = none ∧ all? "a=\"x y".toList = none := by decide +kernel

end TlaDigest.Field
