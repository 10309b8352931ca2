import Mathlib.Data.List.Nodup
import Mathlib.Tactic.IntervalCases
import TlaDigest.Proofs.Text.Escapes
import TlaDigest.Proofs.Text.Readers
import TlaDigest.Toml.Document

/-!
# Plain documents

A plain document has statements of the simplest forms only: keys without quotes, the values a string
between double quotes, an array of such strings or a boolean, and tables with a header of one key.
Such a document is read as it was written (`parse?_text`), whatever its strings hold.

The proof follows the reader upwards. A string is read up to its closing quote (`string?_quoted`), a
value up to the end of its line (`value?_chars`), a statement as one step on the tables under
construction (`statement?_pair`, `statement?_header`), and a row of statements step by step
(`statements?_flatMap`). The steps themselves enter fresh keys at the end (`foldlM_step_pairs`), so
the tables come out in the order of the document.
-/

namespace TlaDigest.Toml

open Text

/-! ### Strings -/

/-- A character between double quotes. The delete control is no printable character, so it is
    escaped here and not elsewhere. -/
def writtenChar (c : Char) : List Char :=
  if c.toNat = 127 then ['\\', 'u', '0', '0', '7', 'f'] else JsonValue.escaped c

def quotedChars (s : String) : List Char := '"' :: (s.toList.flatMap writtenChar ++ ['"'])

theorem firstChar?_writtenChar (c : Char) (rest : List Char) :
    firstChar? (writtenChar c ++ rest) = some (c, rest) := by
  unfold writtenChar
  by_cases hdelete : c.toNat = 127
  · rw [if_pos hdelete]
    have hread := escape?_numbered (n := 127) (by decide) rest
    have hc : Char.ofNat 127 = c := by rw [← hdelete, Char.ofNat_toNat]
    rw [hc] at hread
    exact hread
  · rw [if_neg hdelete]
    exact firstChar?_escaped c rest

theorem writtenChar_ne_nil (c : Char) : writtenChar c ≠ [] := by
  intro h
  have hfirst := firstChar?_writtenChar c []
  rw [h] at hfirst
  cases hfirst

/-- One step of undoing escapes. -/
theorem unescaped?_succ (fuel : Nat) {cs : List Char} (h : cs ≠ []) :
    unescaped? (fuel + 1) cs =
      (firstChar? cs).bind fun (c, rest) => (unescaped? fuel rest).map (c :: ·) := by
  obtain ⟨c, cs, rfl⟩ := List.exists_cons_of_ne_nil h
  by_cases hbackslash : c = '\\'
  · subst hbackslash
    rfl
  · rw [firstChar?_of_ne hbackslash, unescaped?]
    · rfl
    · exact hbackslash

theorem unescaped?_flatMap {fuel : Nat} {cs : List Char} (h : cs.length ≤ fuel) :
    unescaped? fuel (cs.flatMap writtenChar) = some cs := by
  induction cs generalizing fuel with
  | nil => cases fuel <;> rfl
  | cons c cs ih =>
    obtain ⟨fuel, rfl⟩ : ∃ n, fuel = n + 1 := Nat.exists_eq_add_one.mpr (by simp at h; omega)
    rw [List.flatMap_cons, unescaped?_succ fuel (by simp [writtenChar_ne_nil]),
      firstChar?_writtenChar, Option.bind_some]
    simp only [ih (Nat.le_of_succ_le_succ h), Option.map_some]

theorem length_le_flatMap (cs : List Char) : cs.length ≤ (cs.flatMap writtenChar).length := by
  induction cs with
  | nil => simp
  | cons c cs ih =>
    have hpos := List.length_pos_iff.mpr (writtenChar_ne_nil c)
    rw [List.flatMap_cons, List.length_append, List.length_cons]
    omega

def IsPlain (c : Char) : Prop := isPrintable c = true ∧ c ≠ '"' ∧ c ≠ '\\'

theorem isPlain_digitChar {n : Nat} (h : n < 16) : IsPlain (Nat.digitChar n) := by
  unfold IsPlain
  interval_cases n <;> decide

theorem writtenBody?_plain {c : Char} (h : IsPlain c) (rest : List Char) :
    writtenBody? (c :: rest) = (writtenBody? rest).map fun (body, rest) => (c :: body, rest) := by
  obtain ⟨hprintable, hquote, hbackslash⟩ := h
  rw [writtenBody?, if_pos hprintable]
  · exact fun heq => hquote heq
  · exact fun _ _ heq => absurd heq hbackslash

theorem writtenBody?_plain_append {cs : List Char} (h : ∀ c ∈ cs, IsPlain c) (rest : List Char) :
    writtenBody? (cs ++ rest) =
      (writtenBody? rest).map fun (body, rest) => (cs ++ body, rest) := by
  induction cs with
  | nil => simp
  | cons c cs ih =>
    rw [List.cons_append, writtenBody?_plain (h c List.mem_cons_self),
      ih fun d hd => h d (List.mem_cons_of_mem c hd), Option.map_map]
    rfl

theorem writtenBody?_escape {e : Char} {cs : List Char} (he : isPrintable e = true)
    (h : ∀ c ∈ cs, IsPlain c) (rest : List Char) :
    writtenBody? ('\\' :: e :: cs ++ rest) =
      (writtenBody? rest).map fun (body, rest) => ('\\' :: e :: cs ++ body, rest) := by
  rw [List.cons_append, List.cons_append, writtenBody?, if_pos he, writtenBody?_plain_append h,
    Option.map_map]
  rfl

/-- What stands for a character is taken into the body of a string as it is. -/
theorem writtenBody?_writtenChar (c : Char) (rest : List Char) :
    writtenBody? (writtenChar c ++ rest) =
      (writtenBody? rest).map fun (body, rest) => (writtenChar c ++ body, rest) := by
  have hzeros : ∀ n, n < 256 → ∀ d ∈ ['0', '0', Nat.digitChar (n / 16), Nat.digitChar (n % 16)],
      IsPlain d := by
    intro n hn d hd
    simp only [List.mem_cons, List.not_mem_nil, or_false] at hd
    rcases hd with rfl | rfl | rfl | rfl
    · exact isPlain_digitChar (n := 0) (by decide)
    · exact isPlain_digitChar (n := 0) (by decide)
    · exact isPlain_digitChar (by omega)
    · exact isPlain_digitChar (by omega)
  unfold writtenChar
  by_cases hdelete : c.toNat = 127
  · rw [if_pos hdelete]
    exact writtenBody?_escape (by decide) (hzeros 127 (by decide)) rest
  rw [if_neg hdelete]
  rcases escaped_cases c with ⟨e, hshort, htext⟩ | ⟨hcontrol, htext⟩ | ⟨hlow, hquote, hslash, htext⟩
  · have hprintable : isPrintable e = true := by
      simp only [shortForms, List.mem_cons, Prod.mk.injEq, List.not_mem_nil, or_false] at hshort
      rcases hshort with ⟨-, rfl⟩ | ⟨-, rfl⟩ | ⟨-, rfl⟩ | ⟨-, rfl⟩ | ⟨-, rfl⟩ | ⟨-, rfl⟩ |
        ⟨-, rfl⟩ <;> decide
    rw [htext]
    exact writtenBody?_escape hprintable (by simp) rest
  · rw [htext]
    exact writtenBody?_escape (by decide) (hzeros c.toNat (by omega)) rest
  · have hprintable : isPrintable c = true := by
      simp only [isPrintable, Bool.or_eq_true, Bool.and_eq_true, decide_eq_true_eq]
      omega
    rw [htext]
    exact writtenBody?_plain ⟨hprintable, hquote, hslash⟩ rest

theorem writtenBody?_flatMap (cs rest : List Char) :
    writtenBody? (cs.flatMap writtenChar ++ '"' :: rest) =
      some (cs.flatMap writtenChar, rest) := by
  induction cs with
  | nil => rfl
  | cons c cs ih =>
    rw [List.flatMap_cons, List.append_assoc, writtenBody?_writtenChar, ih]
    rfl

/-- A string is read up to its closing quote. -/
theorem basicBody?_flatMap (cs rest : List Char) :
    basicBody? (cs.flatMap writtenChar ++ '"' :: rest) = some (cs, rest) := by
  have hbody := unescaped?_flatMap (length_le_flatMap cs)
  simp only [basicBody?, writtenBody?_flatMap, hbody, Option.bind_eq_bind, Option.bind_some]
  rfl

/-- Three quotes would open a string over several lines. -/
theorem string?_of_single {cs : List Char} (h : ∀ rest, cs ≠ '"' :: '"' :: rest) :
    string? ('"' :: cs) = basicBody? cs := by
  have hline : lineString? ('"' :: cs) = basicBody? cs := by rw [lineString?, if_pos rfl]
  rcases cs with _ | ⟨a, _ | ⟨b, cs⟩⟩
  · exact hline
  · exact hline
  · have hnot : ¬ ('"' = '"' ∧ a = '"' ∧ b = '"') := by
      rintro ⟨-, rfl, rfl⟩
      exact h cs rfl
    have hliteral : ¬ ('"' = literalQuote ∧ a = literalQuote ∧ b = literalQuote) := by
      rintro ⟨heq, -⟩
      exact absurd heq (by decide)
    rw [string?, if_neg hnot, if_neg hliteral, hline]

def EndsString (rest : List Char) : Prop := rest.head? ≠ some '"'

theorem string?_quoted (s : String) {rest : List Char} (h : EndsString rest) :
    string? (quotedChars s ++ rest) = some (s.toList, rest) := by
  have htext : quotedChars s ++ rest = '"' :: (s.toList.flatMap writtenChar ++ '"' :: rest) := by
    simp [quotedChars]
  rw [htext, string?_of_single, basicBody?_flatMap]
  intro more heq
  cases hs : s.toList with
  | nil =>
    rw [hs] at heq
    obtain ⟨-, hrest⟩ := List.cons.inj heq
    exact h (by rw [hrest]; rfl)
  | cons c cs =>
    rw [hs, List.flatMap_cons, List.append_assoc] at heq
    have hfirst := firstChar?_writtenChar c (cs.flatMap writtenChar ++ '"' :: rest)
    rw [heq, firstChar?_of_ne (by decide)] at hfirst
    obtain ⟨rfl, hcs⟩ := Prod.mk.inj (Option.some.inj hfirst)
    -- a quote is written with a backslash in front
    cases heq

/-! ### Values -/

inductive PlainValue where
  | string (s : String)
  | strings (items : List String)
  | boolean (b : Bool)
deriving DecidableEq, Repr

namespace PlainValue

def value : PlainValue → Toml
  | .string s => .string s
  | .strings items => .array (items.map .string)
  | .boolean b => .boolean b

/-- The elements of an array have a comma behind each. -/
def chars : PlainValue → List Char
  | .string s => quotedChars s
  | .strings items => '[' :: (items.flatMap (fun s => quotedChars s ++ [',']) ++ [']'])
  | .boolean true => ['t', 'r', 'u', 'e']
  | .boolean false => ['f', 'a', 'l', 's', 'e']

end PlainValue

/-- A character with which something other than a blank, a line break or a comment starts. -/
def Starts (c : Char) : Prop := isSpace c = false ∧ c ≠ '#' ∧ c ≠ '\n' ∧ c ≠ '\r'

instance (c : Char) : Decidable (Starts c) :=
  inferInstanceAs (Decidable (isSpace c = false ∧ c ≠ '#' ∧ c ≠ '\n' ∧ c ≠ '\r'))

theorem skipTrivia_of_starts {c : Char} (h : Starts c) (cs : List Char) :
    skipTrivia false (c :: cs) = c :: cs := by
  obtain ⟨hspace, hcomment, hfeed, hreturn⟩ := h
  rw [skipTrivia]
  · simp [hspace, hcomment]
  · exact hfeed
  · exact fun _ heq => absurd heq hreturn

theorem skipSpace_of_not {c : Char} (h : isSpace c = false) (cs : List Char) :
    skipSpace (c :: cs) = c :: cs := by
  rw [skipSpace, List.dropWhile_cons_of_neg (by simp [h])]

/-- A string with the text behind it, from its opening quote on. -/
theorem exists_quotedChars_eq (s : String) (rest : List Char) :
    ∃ tail, quotedChars s ++ rest = '"' :: tail := ⟨_, List.cons_append⟩

theorem value?_quoted (fuel room : Nat) (s : String) {rest : List Char} (h : EndsString rest) :
    value? (fuel + 1) room (quotedChars s ++ rest) = some (.string s, rest) := by
  have hstring := string?_quoted s h
  obtain ⟨tail, htail⟩ := exists_quotedChars_eq s rest
  rw [htail] at hstring ⊢
  simp [value?, hstring]

theorem items?_cons (fuel room : Nat) (s : String) (rest : List Char) :
    items? (fuel + 2) room (quotedChars s ++ ',' :: rest) =
      (items? (fuel + 1) room rest).map fun (items, rest) => (.string s :: items, rest) := by
  have hvalue : value? (fuel + 1) room (quotedChars s ++ ',' :: rest) =
      some (.string s, ',' :: rest) := value?_quoted fuel room s (by simp [EndsString])
  have hcomma := skipTrivia_of_starts (c := ',') (by decide) rest
  obtain ⟨tail, htail⟩ := exists_quotedChars_eq s (',' :: rest)
  have hskip := skipTrivia_of_starts (c := '"') (by decide) tail
  rw [htail] at hvalue ⊢
  rw [items?]
  simp only [hskip, List.cons.injEq, Char.reduceEq, false_and, imp_self, implies_true, hvalue,
    Option.bind_eq_bind, Option.bind_some, hcomma]
  cases items? (fuel + 1) room rest <;> rfl

theorem items?_flatMap {fuel : Nat} (room : Nat) {items : List String} (h : items.length < fuel)
    (rest : List Char) :
    items? fuel room (items.flatMap (fun s => quotedChars s ++ [',']) ++ ']' :: rest) =
      some (items.map .string, rest) := by
  induction items generalizing fuel with
  | nil =>
    obtain ⟨fuel, rfl⟩ : ∃ n, fuel = n + 1 := Nat.exists_eq_add_one.mpr h
    have hskip := skipTrivia_of_starts (c := ']') (by decide) rest
    simp [items?, hskip]
  | cons s items ih =>
    obtain ⟨fuel, rfl⟩ : ∃ n, fuel = n + 2 := Nat.exists_eq_add_of_le' (by simp at h; omega)
    have hitems := @ih (fuel + 1) (by simpa using h)
    have htext : (s :: items).flatMap (fun s => quotedChars s ++ [',']) ++ ']' :: rest =
        quotedChars s ++ ',' :: (items.flatMap (fun s => quotedChars s ++ [',']) ++ ']' :: rest) := by
      simp
    rw [htext, items?_cons, hitems]
    rfl

theorem length_lt_chars (items : List String) :
    items.length < (PlainValue.strings items).chars.length := by
  simp only [PlainValue.chars, List.length_cons, List.length_append]
  induction items with
  | nil => simp
  | cons s items ih =>
    rw [List.flatMap_cons, List.length_append, List.length_append]
    simp only [List.length_cons] at ih ⊢
    omega

/-- **A value is read up to the end of its line.** -/
theorem value?_chars {fuel : Nat} (v : PlainValue) (h : v.chars.length ≤ fuel) (room : Nat)
    (rest : List Char) :
    value? (fuel + 1) (room + 1) (v.chars ++ '\n' :: rest) = some (v.value, '\n' :: rest) := by
  cases v with
  | string s => exact value?_quoted fuel (room + 1) s (by simp [EndsString])
  | strings items =>
    have hlength := length_lt_chars items
    have hitems := items?_flatMap room (hlength.trans_le h) ('\n' :: rest)
    have htext : (PlainValue.strings items).chars ++ '\n' :: rest =
        '[' :: (items.flatMap (fun s => quotedChars s ++ [',']) ++ ']' :: '\n' :: rest) := by
      simp [PlainValue.chars]
    rw [htext, value?, hitems]
    rfl
  | boolean b =>
    cases b with
    | true =>
      have hscalar : scalar? ('t' :: 'r' :: 'u' :: 'e' :: '\n' :: rest) =
          some (.boolean true, '\n' :: rest) := rfl
      simp [value?, PlainValue.chars, PlainValue.value, hscalar, literalQuote]
    | false =>
      have hscalar : scalar? ('f' :: 'a' :: 'l' :: 's' :: 'e' :: '\n' :: rest) =
          some (.boolean false, '\n' :: rest) := rfl
      simp [value?, PlainValue.chars, PlainValue.value, hscalar, literalQuote]

/-! ### Statements -/

abbrev Bare (key : String) : Prop := Run isBareKeyChar key.toList

inductive Statement where
  | pair (key : String) (value : PlainValue)
  | header (name : String)
deriving DecidableEq, Repr

namespace Statement

def chars : Statement → List Char
  | .pair key value => key.toList ++ ' ' :: '=' :: ' ' :: (value.chars ++ ['\n'])
  | .header name => '[' :: (name.toList ++ [']', '\n'])

def key : Statement → String
  | .pair key _ => key
  | .header name => name

def step (b : Building) : Statement → Option Building
  | .pair key value =>
    (enter? false b.header (insert? [key] value.value) b.entries).map fun entries =>
      ⟨b.header, entries⟩
  | .header name => (openTable? [name] b.entries).map fun entries => ⟨[name], entries⟩

end Statement

/-- A key ends where another character stands, which is no blank and no dot. -/
theorem key?_bare {key : String} (h : Bare key) {rest : List Char}
    (hend : ∀ c ∈ rest.head?, isBareKeyChar c = false)
    (hdot : (skipSpace rest).head? ≠ some '.') :
    key? (key.toList ++ rest) = some ([key], skipSpace rest) := by
  obtain ⟨htake, hdrop⟩ := takeWhile_dropWhile_eq_iff.mpr ⟨rfl, h.all, hend⟩
  have hpart : keyPart? (key.toList ++ rest) = some (key, rest) := by
    unfold keyPart?
    split
    · next hnil => exact absurd (htake.symm.trans hnil) h.ne_nil
    · rw [htake, hdrop, String.ofList_toList]
  rw [key?, maxDepth, keyParts?, hpart]
  simp only [Option.bind_eq_bind, Option.bind_some]
  split
  · next more hmore => exact absurd (by rw [hmore]; rfl) hdot
  · rfl

theorem PlainValue.exists_chars_eq (v : PlainValue) (rest : List Char) :
    ∃ c tail, v.chars ++ rest = c :: tail ∧ isSpace c = false := by
  cases v with
  | string s => exact ⟨'"', _, List.cons_append, rfl⟩
  | strings items => exact ⟨'[', _, List.cons_append, rfl⟩
  | boolean b =>
    cases b with
    | true => exact ⟨'t', _, List.cons_append, rfl⟩
    | false => exact ⟨'f', _, List.cons_append, rfl⟩

theorem assignment?_pair {key : String} (h : Bare key) (v : PlainValue) (rest : List Char) :
    assignment? skipSpace (key.toList ++ ' ' :: '=' :: ' ' :: (v.chars ++ rest)) =
      some ([key], v.chars ++ rest) := by
  have hkey : key? (key.toList ++ ' ' :: '=' :: ' ' :: (v.chars ++ rest)) = some ([key], _) :=
    key?_bare h (by simp [isBareKeyChar, isNameChar]) (by simp [skipSpace, isSpace])
  have hsign : skipSpace (' ' :: '=' :: ' ' :: (v.chars ++ rest)) =
      '=' :: ' ' :: (v.chars ++ rest) := rfl
  have hsame : skipSpace ('=' :: ' ' :: (v.chars ++ rest)) = '=' :: ' ' :: (v.chars ++ rest) := rfl
  have hvalue : skipSpace (' ' :: (v.chars ++ rest)) = v.chars ++ rest := by
    obtain ⟨c, tail, htail, hc⟩ := v.exists_chars_eq rest
    rw [htail]
    exact skipSpace_of_not hc tail
  rw [assignment?, hkey, hsign]
  simp only [Option.bind_eq_bind, Option.bind_some, hsame, hvalue]
  rfl

theorem exists_cons_of_bare {key : String} (h : Bare key) :
    ∃ c cs, key.toList = c :: cs ∧ isBareKeyChar c = true := by
  obtain ⟨c, cs, hkey⟩ := List.exists_cons_of_ne_nil h.ne_nil
  exact ⟨c, cs, hkey, h.all c (by rw [hkey]; exact List.mem_cons_self)⟩

theorem ne_of_isBareKeyChar {c d : Char} (hc : isBareKeyChar c = true)
    (hd : isBareKeyChar d = false) : c ≠ d := by
  rintro rfl
  simp [hd] at hc

/-- The first character of a bare key is none of the marks of a document. -/
theorem starts_of_isBareKeyChar {c : Char} (hc : isBareKeyChar c = true) : Starts c := by
  have hne : ∀ d, isBareKeyChar d = false → c ≠ d := fun d => ne_of_isBareKeyChar hc
  refine ⟨?_, hne _ (by decide), hne _ (by decide), hne _ (by decide)⟩
  simp [isSpace, hne ' ' (by decide), hne '\t' (by decide)]

theorem statement?_pair {key : String} (h : Bare key) (v : PlainValue) {size : Nat}
    (hsize : v.chars.length ≤ size) (b : Building) (rest : List Char) :
    statement? size b ((Statement.pair key v).chars ++ rest) =
      ((Statement.pair key v).step b).map fun b => (b, rest) := by
  have htext : (Statement.pair key v).chars ++ rest =
      key.toList ++ ' ' :: '=' :: ' ' :: (v.chars ++ '\n' :: rest) := by
    simp [Statement.chars]
  have hassign := assignment?_pair h v ('\n' :: rest)
  have hvalue : value? (2 * size + 2) maxDepth (v.chars ++ '\n' :: rest) =
      some (v.value, '\n' :: rest) := value?_chars v (by omega) 79 rest
  have hend : endOfLine? ('\n' :: rest) = some rest := rfl
  obtain ⟨c, cs, hkey, hc⟩ := exists_cons_of_bare h
  have hbracket : c ≠ '[' := ne_of_isBareKeyChar hc (by decide)
  rw [htext]
  rw [hkey, List.cons_append] at hassign ⊢
  unfold statement?
  split
  · next heq => exact absurd (List.cons.inj heq).1 hbracket
  · next heq => exact absurd (List.cons.inj heq).1 hbracket
  · simp only [hassign, Option.bind_eq_bind, Option.bind_some, hvalue, hend, Statement.step]
    cases enter? false b.header (insert? [key] v.value) b.entries <;> rfl

theorem statement?_header {name : String} (h : Bare name) (size : Nat) (b : Building)
    (rest : List Char) :
    statement? size b ((Statement.header name).chars ++ rest) =
      ((Statement.header name).step b).map fun b => (b, rest) := by
  have htext : (Statement.header name).chars ++ rest =
      '[' :: (name.toList ++ ']' :: '\n' :: rest) := by
    simp [Statement.chars]
  have hkey : key? (name.toList ++ ']' :: '\n' :: rest) = some ([name], _) :=
    key?_bare h (by simp [isBareKeyChar, isNameChar]) (by simp [skipSpace, isSpace])
  have hend : endOfLine? ('\n' :: rest) = some rest := rfl
  have hskip : skipSpace (']' :: '\n' :: rest) = ']' :: '\n' :: rest := rfl
  obtain ⟨c, cs, hname, hc⟩ := exists_cons_of_bare h
  have hbracket : c ≠ '[' := ne_of_isBareKeyChar hc (by decide)
  have hspace : skipSpace (name.toList ++ ']' :: '\n' :: rest) =
      name.toList ++ ']' :: '\n' :: rest := by
    rw [hname]
    exact skipSpace_of_not (starts_of_isBareKeyChar hc).1 _
  have hheader : header? [']'] (name.toList ++ ']' :: '\n' :: rest) = some ([name], rest) := by
    simp [header?, hspace, hkey, hskip, after?, hend]
  rw [htext]
  rw [hname, List.cons_append] at hheader ⊢
  unfold statement?
  split
  · next heq => exact absurd (List.cons.inj (List.cons.inj heq).2).1 hbracket
  · next heq =>
    rw [← (List.cons.inj heq).2]
    simp only [hheader, Option.bind_eq_bind, Option.bind_some, Statement.step]
    cases openTable? [name] b.entries <;> rfl
  · next hnot => exact absurd rfl (hnot _)

theorem statement?_chars {s : Statement} (h : Bare s.key) {size : Nat}
    (hsize : s.chars.length ≤ size) (b : Building) (rest : List Char) :
    statement? size b (s.chars ++ rest) = (s.step b).map fun b => (b, rest) := by
  cases s with
  | pair key v =>
    refine statement?_pair h v ?_ b rest
    simp only [Statement.chars, List.length_append, List.length_cons] at hsize
    omega
  | header name => exact statement?_header h size b rest

theorem Statement.exists_chars_eq {s : Statement} (h : Bare s.key) (rest : List Char) :
    ∃ c tail, s.chars ++ rest = c :: tail ∧ Starts c ∧ c.toNat ≠ 0xFEFF := by
  cases s with
  | pair key v =>
    obtain ⟨c, cs, hkey, hc⟩ := exists_cons_of_bare h
    refine ⟨c, _, by rw [Statement.chars, show key.toList = c :: cs from hkey]; rfl,
      starts_of_isBareKeyChar hc, ?_⟩
    intro hmark
    refine ne_of_isBareKeyChar hc (d := Char.ofNat 0xFEFF) (by decide) ?_
    rw [← hmark, Char.ofNat_toNat]
  | header name => exact ⟨'[', _, List.cons_append, by decide, by decide⟩

/-- **A row of statements is read step by step.** -/
theorem statements?_flatMap {ss : List Statement} (hbare : ∀ s ∈ ss, Bare s.key) {fuel : Nat}
    (hfuel : (ss.flatMap Statement.chars).length < fuel) (b : Building) :
    statements? fuel b (ss.flatMap Statement.chars) =
      (ss.foldlM Statement.step b).map (·.entries) := by
  induction ss generalizing fuel b with
  | nil =>
    obtain ⟨fuel, rfl⟩ : ∃ n, fuel = n + 1 := Nat.exists_eq_add_one.mpr hfuel
    rfl
  | cons s ss ih =>
    obtain ⟨fuel, rfl⟩ : ∃ n, fuel = n + 1 := Nat.exists_eq_add_one.mpr (by omega)
    have hs := hbare s List.mem_cons_self
    rw [List.flatMap_cons, List.length_append] at hfuel
    obtain ⟨c, tail, htail, hc, -⟩ := s.exists_chars_eq hs (ss.flatMap Statement.chars)
    have hpos : 0 < s.chars.length := by
      cases s <;> simp [Statement.chars]
    have hstatement : statement? fuel b (s.chars ++ ss.flatMap Statement.chars) = _ :=
      statement?_chars hs (by omega) b _
    rw [htail] at hstatement
    rw [List.flatMap_cons, htail, statements?, skipTrivia_of_starts hc, List.foldlM_cons]
    simp only [hstatement]
    cases s.step b with
    | none => rfl
    | some b => exact ih (fun s hs => hbare s (List.mem_cons_of_mem _ hs)) (by omega) b

/-! ### Tables under construction -/

/-- Entries under other keys stay in front. -/
theorem update?_append {k : String} {entries : Entries} (h : k ∉ entries.map (·.1))
    (f : Option Node → Option Node) (more : Entries) :
    update? k f (entries ++ more) = (update? k f more).map (entries ++ ·) := by
  induction entries with
  | nil => simp
  | cons entry entries ih =>
    obtain ⟨key, node⟩ := entry
    obtain ⟨hkey, hrest⟩ : key ≠ k ∧ k ∉ entries.map (·.1) := by
      rw [List.map_cons, List.mem_cons, not_or] at h
      exact ⟨Ne.symm h.1, h.2⟩
    rw [List.cons_append, update?, if_neg hkey, ih hrest, Option.map_map]
    rfl

theorem update?_of_fresh {k : String} {entries : Entries} (h : k ∉ entries.map (·.1))
    (f : Option Node → Option Node) :
    update? k f entries = (f none).map fun node => entries ++ [(k, node)] := by
  have happend := update?_append h f []
  rw [List.append_nil, update?, Option.map_map] at happend
  exact happend

theorem update?_last {k : String} {entries : Entries} (h : k ∉ entries.map (·.1)) (node : Node)
    (f : Option Node → Option Node) :
    update? k f (entries ++ [(k, node)]) =
      (f (some node)).map fun node => entries ++ [(k, node)] := by
  rw [update?_append h, update?, if_pos rfl, Option.map_map]
  rfl

abbrev Pairs := List (String × PlainValue)

def Pairs.statements (ps : Pairs) : List Statement := ps.map fun p => .pair p.1 p.2

def Pairs.leaves (ps : Pairs) : Entries := ps.map fun p => (p.1, .leaf p.2.value)

def Pairs.members (ps : Pairs) : Members := ps.map fun p => (p.1, p.2.value)

@[simp] theorem Pairs.members_nil : Pairs.members [] = [] := rfl

@[simp] theorem Pairs.members_cons (p : String × PlainValue) (ps : Pairs) :
    Pairs.members (p :: ps) = (p.1, p.2.value) :: ps.members := rfl

@[simp] theorem Pairs.members_append (ps more : Pairs) :
    Pairs.members (ps ++ more) = ps.members ++ more.members := List.map_append

/-- Pairs with fresh keys are entered at the end of the table that the header leads to; `put` gives
    that table its place among the others. -/
theorem foldlM_step_pairs {header : List String} {put : Entries → Entries}
    (hput : ∀ f sub, enter? false header f (put sub) = (f sub).map put) (ps : Pairs) (sub : Entries)
    (hfresh : (sub.map (·.1) ++ ps.map (·.1)).Nodup) :
    ps.statements.foldlM Statement.step ⟨header, put sub⟩ =
      some ⟨header, put (sub ++ ps.leaves)⟩ := by
  induction ps generalizing sub with
  | nil => simp [Pairs.statements, Pairs.leaves]
  | cons p ps ih =>
    have hkey : p.1 ∉ sub.map (·.1) := by
      intro hmem
      exact (List.nodup_append'.mp hfresh).2.2 hmem (by simp)
    have hinsert : insert? [p.1] p.2.value sub = some (sub ++ [(p.1, .leaf p.2.value)]) :=
      update?_of_fresh hkey _
    have hstep : (Statement.pair p.1 p.2).step ⟨header, put sub⟩ =
        some ⟨header, put (sub ++ [(p.1, .leaf p.2.value)])⟩ := by
      simp only [Statement.step, hput, hinsert, Option.map_some]
    have hrest := ih (sub ++ [(p.1, .leaf p.2.value)]) (by simpa using hfresh)
    rw [Pairs.statements, List.map_cons, List.foldlM_cons, hstep]
    simpa [Pairs.statements, Pairs.leaves] using hrest

/-! ### Documents -/

/-- A plain document: pairs, and then tables with pairs of their own. -/
structure PlainDocument where
  pairs : Pairs
  tables : List (String × Pairs)

namespace PlainDocument

def statements (doc : PlainDocument) : List Statement :=
  doc.pairs.statements ++ doc.tables.flatMap fun table => .header table.1 :: table.2.statements

def text (doc : PlainDocument) : String := String.ofList (doc.statements.flatMap Statement.chars)

def members (doc : PlainDocument) : Members :=
  doc.pairs.members ++ doc.tables.map fun table => (table.1, .table table.2.members)

/-- Every key is bare and stands once in its table. -/
structure WellFormed (doc : PlainDocument) : Prop where
  bare : ∀ s ∈ doc.statements, Bare s.key
  nodup : (doc.pairs.map (·.1) ++ doc.tables.map (·.1)).Nodup
  nodup_table : ∀ table ∈ doc.tables, (table.2.map (·.1)).Nodup

end PlainDocument

theorem foldlM_step_table {name : String} {entries : Entries} (hname : name ∉ entries.map (·.1))
    {ps : Pairs} (hps : (ps.map (·.1)).Nodup) (header : List String) :
    (Statement.header name :: ps.statements).foldlM Statement.step ⟨header, entries⟩ =
      some ⟨[name], entries ++ [(name, .table .opened ps.leaves)]⟩ := by
  have hopen : (Statement.header name).step ⟨header, entries⟩ =
      some ⟨[name], entries ++ [(name, .table .opened [])]⟩ := by
    have hfresh : openTable? [name] entries = some (entries ++ [(name, .table .opened [])]) :=
      update?_of_fresh hname _
    simp only [Statement.step, hfresh, Option.map_some]
  have hput : ∀ f sub, enter? false [name] f (entries ++ [(name, .table .opened sub)]) =
      (f sub).map fun sub => entries ++ [(name, Node.table .opened sub)] := by
    intro f sub
    rw [enter?, update?_last hname]
    simp only [Form.admits, Bool.not_false, Bool.true_or, if_true, enter?, Option.map_map]
    rfl
  rw [List.foldlM_cons, hopen]
  exact foldlM_step_pairs hput ps [] (by simpa using hps)

theorem foldlM_step_tables {tables : List (String × Pairs)} {entries : Entries}
    (hfresh : (entries.map (·.1) ++ tables.map (·.1)).Nodup)
    (hnodup : ∀ table ∈ tables, (table.2.map (·.1)).Nodup) (header : List String) :
    ((tables.flatMap fun table => .header table.1 :: Pairs.statements table.2).foldlM Statement.step
        ⟨header, entries⟩).map (·.entries) =
      some (entries ++ tables.map fun table => (table.1, .table .opened (Pairs.leaves table.2))) := by
  induction tables generalizing entries header with
  | nil => simp
  | cons table tables ih =>
    have hname : table.1 ∉ entries.map (·.1) := by
      intro hmem
      exact (List.nodup_append'.mp hfresh).2.2 hmem (by simp)
    have hrest := @ih (entries ++ [(table.1, .table .opened (Pairs.leaves table.2))])
      (by simpa using hfresh) (fun t ht => hnodup t (by simp [ht])) [table.1]
    rw [List.flatMap_cons, List.foldlM_append,
      foldlM_step_table hname (hnodup table (by simp)) header]
    simpa using hrest

theorem closeEntries_append (entries more : Entries) :
    closeEntries (entries ++ more) = closeEntries entries ++ closeEntries more := by
  induction entries with
  | nil => simp [closeEntries]
  | cons entry entries ih => simp [closeEntries, ih]

theorem closeEntries_leaves (ps : Pairs) : closeEntries ps.leaves = ps.members := by
  induction ps with
  | nil => simp [Pairs.leaves, Pairs.members, closeEntries]
  | cons p ps ih =>
    simp only [Pairs.leaves, Pairs.members] at ih
    simp [Pairs.leaves, Pairs.members, closeEntries, Node.close, ih]

theorem closeEntries_tables (tables : List (String × Pairs)) :
    closeEntries (tables.map fun table => (table.1, .table .opened (Pairs.leaves table.2))) =
      tables.map fun table => (table.1, .table (Pairs.members table.2)) := by
  induction tables with
  | nil => simp [closeEntries]
  | cons table tables ih => simp [closeEntries, Node.close, closeEntries_leaves, ih]

/-- **A plain document is read as it was written**: its pairs and its tables, in their order. -/
theorem parse?_text {doc : PlainDocument} (h : doc.WellFormed) :
    parse? doc.text = some doc.members := by
  have hmark : withoutMark (doc.statements.flatMap Statement.chars) =
      doc.statements.flatMap Statement.chars := by
    cases hstatements : doc.statements with
    | nil => rfl
    | cons s ss =>
      have hs : Bare s.key := h.bare s (by rw [hstatements]; exact List.mem_cons_self)
      obtain ⟨c, tail, htail, -, hc⟩ := s.exists_chars_eq hs (ss.flatMap Statement.chars)
      rw [List.flatMap_cons, htail, withoutMark, if_neg hc]
  have htop : ∀ f sub, enter? false [] f (id sub) = (f sub).map id := by simp [enter?]
  have hpairs : doc.pairs.statements.foldlM Statement.step ⟨[], []⟩ = some ⟨[], doc.pairs.leaves⟩ :=
    foldlM_step_pairs htop doc.pairs [] (by simpa using h.nodup.of_append_left)
  have hkeys : doc.pairs.leaves.map (·.1) = doc.pairs.map (·.1) := by simp [Pairs.leaves]
  have htables := foldlM_step_tables (hkeys ▸ h.nodup) h.nodup_table []
  rw [parse?, PlainDocument.text, String.toList_ofList, hmark]
  simp only [statements?_flatMap h.bare (Nat.lt_succ_self _)]
  rw [PlainDocument.statements, List.foldlM_append, hpairs]
  simp only [Option.bind_eq_bind, Option.bind_some, htables, Option.map_some]
  rw [closeEntries_append, closeEntries_leaves, closeEntries_tables]
  rfl

end TlaDigest.Toml
