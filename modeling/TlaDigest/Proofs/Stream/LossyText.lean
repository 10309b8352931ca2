import TlaDigest.Proofs.Stream.Chunking
import TlaDigest.Proofs.Text.Trimming
import TlaDigest.Proofs.Text.Utf8

/-!
# Bytes and their text have the same lines

A stream is split into lines as bytes, and each line is decoded on its own; one may as well decode
all of it first and split the text (`charLines`). `lines_eq_charLines` says so for every byte
string, ill-formed ones included: a line feed is never swallowed by a sequence that was cut short
before it, and no line feed comes out of other bytes, so splitting commutes with decoding
(`splitOn_decode`), and so does dropping a carriage return (`dropFinal_decode`). For a text that is
at hand, this makes its lines a matter of its characters alone (`textLines_eq_charLines`). The main
statement is `stop_foldl_push_of_decoded`.
-/

namespace TlaDigest.Text

/-- Pieces without the separator are what splitting gives back. -/
theorem splitOn_joinWith {α : Type} [DecidableEq α] {sep : α} {pieces : List (List α)}
    (hne : pieces ≠ []) (h : ∀ piece ∈ pieces, sep ∉ piece) :
    splitOn sep (joinWith sep pieces) = pieces := by
  induction pieces with
  | nil => exact absurd rfl hne
  | cons piece pieces ih =>
    have hpiece : splitOn sep piece = [piece] := splitOn_of_notMem (h piece (by simp))
    by_cases hnil : pieces = []
    · subst hnil
      exact hpiece
    · rw [joinWith_cons sep piece hnil, splitOn_append_cons, hpiece,
        ih hnil fun p hp => h p (by simp [hp])]
      rfl

end TlaDigest.Text

namespace TlaDigest.Stream

open Text

variable {σ ω : Type}

/-! ### Decoding first -/

/-- The lines of a text: it is split at the line feeds, a last piece without characters is dropped,
    and every piece loses one carriage return at its end. -/
def charLines (cs : List Char) : List (List Char) :=
  let pieces := splitOn '\n' cs
  (if pieces.getLast? = some [] then pieces.dropLast else pieces).map (dropFinal '\r')

/-- Lines are decoded as they stand, and each line feed between them is one character. -/
theorem decode_joinWith {pieces : List (List UInt8)} :
    Utf8.decode (joinWith lineFeed pieces) = joinWith '\n' (pieces.map Utf8.decode) := by
  induction pieces with
  | nil => rfl
  | cons piece pieces ih =>
    by_cases hnil : pieces = []
    · subst hnil
      rfl
    · have hmap : pieces.map Utf8.decode ≠ [] := by simpa using hnil
      rw [joinWith_cons _ _ hnil, Utf8.decode_append_cons _ _ (by decide), ih, List.map_cons,
        joinWith_cons _ _ hmap]
      rfl

/-- No line feed is read from bytes that hold none. -/
theorem notMem_decode {piece : List UInt8} (h : lineFeed ∉ piece) : '\n' ∉ Utf8.decode piece := by
  intro hmem
  obtain ⟨b, hb, heq⟩ := Utf8.mem_of_mem_decode (by decide) hmem
  have hfeed : b = lineFeed := UInt8.toNat_inj.mp heq
  exact h (hfeed ▸ hb)

/-- **Splitting commutes with decoding.** -/
theorem splitOn_decode (bytes : List UInt8) :
    splitOn '\n' (Utf8.decode bytes) = (splitOn lineFeed bytes).map Utf8.decode := by
  have hne : (splitOn lineFeed bytes).map Utf8.decode ≠ [] := by
    simp
  have hclear : ∀ piece ∈ (splitOn lineFeed bytes).map Utf8.decode, '\n' ∉ piece := by
    intro piece hpiece
    obtain ⟨raw, hraw, rfl⟩ := List.mem_map.mp hpiece
    exact notMem_decode (notMem_of_mem_splitOn hraw)
  calc splitOn '\n' (Utf8.decode bytes)
      = splitOn '\n' (Utf8.decode (joinWith lineFeed (splitOn lineFeed bytes))) := by
        rw [joinWith_splitOn]
    _ = splitOn '\n' (joinWith '\n' ((splitOn lineFeed bytes).map Utf8.decode)) := by
        rw [decode_joinWith]
    _ = (splitOn lineFeed bytes).map Utf8.decode := splitOn_joinWith hne hclear

/-- Dropping a carriage return commutes with decoding. -/
theorem dropFinal_decode (raw : List UInt8) :
    dropFinal '\r' (Utf8.decode raw) = Utf8.decode (dropFinal carriageReturn raw) := by
  by_cases hreturn : raw.getLast? = some carriageReturn
  · obtain ⟨line, rfl⟩ := List.getLast?_eq_some_iff.mp hreturn
    have hdecode : Utf8.decode (line ++ [carriageReturn]) = Utf8.decode line ++ ['\r'] :=
      Utf8.decode_append_cons line [] (by decide)
    rw [hdecode, dropFinal, if_pos (by simp), dropFinal, if_pos hreturn]
    simp
  · have hkept : ¬ (Utf8.decode raw).getLast? = some '\r' := by
      intro hlast
      obtain ⟨b, hb, heq⟩ := Utf8.getLast?_of_getLast?_decode (by decide) hlast
      have hb' : b = carriageReturn := UInt8.toNat_inj.mp heq
      exact hreturn (hb' ▸ hb)
    rw [dropFinal, if_neg hkept, dropFinal, if_neg hreturn]

/-- **The lines of bytes are the lines of their text.** -/
theorem lines_eq_charLines (bytes : List UInt8) :
    lines bytes = (charLines (Utf8.decode bytes)).map String.ofList := by
  have hlast : ((splitOn lineFeed bytes).map Utf8.decode).getLast? = some [] ↔
      (splitOn lineFeed bytes).getLast? = some [] := by
    rw [List.getLast?_map, Option.map_eq_some_iff]
    simp
  have hpieces : (if ((splitOn lineFeed bytes).map Utf8.decode).getLast? = some []
      then ((splitOn lineFeed bytes).map Utf8.decode).dropLast
      else (splitOn lineFeed bytes).map Utf8.decode) = (rawLines bytes).map Utf8.decode := by
    unfold rawLines
    simp only [hlast]
    split
    · rw [List.map_dropLast]
    · rfl
  simp only [charLines, splitOn_decode, hpieces, lines, List.map_map]
  apply List.map_congr_left
  intro raw _
  simp only [Function.comp_apply, dropFinal_decode]
  rfl

/-! ### Texts -/

/-- The lines of a text are told by its characters. -/
theorem textLines_eq_charLines (text : String) :
    textLines text = (charLines text.toList).map String.ofList := by
  rw [textLines, lines_eq_charLines, Utf8.decode_encode]

/-- A text that is at hand as a whole is parsed by its lines. -/
theorem parseText_eq (p : LineParser σ ω) (text : String) :
    parseText p text = p.parse (textLines text) :=
  (Feed.push_follows (Feed.start_follows p) (Utf8.encode text.toList)).stop_eq

/-- **Reading bytes agrees with reading their text.** However the bytes of a stream are cut into
    chunks, the pass gives what it gives on the text that all bytes decode to, and the lines that
    are decoded one by one are the lines of that text. -/
theorem stop_foldl_push_of_decoded (p : LineParser σ ω) (chunks : List (List UInt8)) :
    (chunks.foldl (fun f chunk => f.push p chunk) (Feed.start p)).stop p =
        parseText p (String.ofList (Utf8.decode chunks.flatten)) ∧
      lines chunks.flatten =
        (charLines (Utf8.decode chunks.flatten)).map String.ofList := by
  have hlines := lines_eq_charLines chunks.flatten
  refine ⟨?_, hlines⟩
  rw [parseText_eq, textLines_eq_charLines, String.toList_ofList, ← hlines]
  exact (Feed.foldl_push_follows chunks (Feed.start_follows p)).stop_eq

end TlaDigest.Stream
