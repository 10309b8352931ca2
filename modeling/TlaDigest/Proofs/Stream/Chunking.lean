import TlaDigest.Stream.Feed

/-!
# Chunk boundaries do not matter

A pass over a stream is compared with the plain reading of all its bytes at once, which is `lines`:
the bytes are split at the line feeds, a last piece without bytes is dropped, and every piece loses
one carriage return and is decoded.

The comparison rests on one invariant, `Feed.Follows`. It says what a pass holds after some bytes in
terms of these bytes alone: the parser has taken the lines that a line feed ends (`closedLines`),
and the buffer holds what stands after the last of them (`openLine`). A chunk keeps it
(`push_follows`) because the two parts of a longer text come from the open line of the shorter one
(`closedLines_openLine_append`). The main statement is `stop_foldl_push`.
-/

namespace TlaDigest.Text

variable {α : Type} [DecidableEq α]

/-! ### Splitting at a separator -/

theorem splitOn_of_notMem {sep : α} {xs : List α} (h : sep ∉ xs) : splitOn sep xs = [xs] := by
  induction xs with
  | nil => rfl
  | cons x xs ih =>
    have hx : x ≠ sep := fun heq => h (by simp [heq])
    have hxs : sep ∉ xs := fun hmem => h (by simp [hmem])
    rw [splitOn, if_neg hx, ih hxs]

/-- A separator ends the piece before it, and splitting starts afresh behind it. -/
theorem splitOn_append_cons (sep : α) (xs ys : List α) :
    splitOn sep (xs ++ sep :: ys) = splitOn sep xs ++ splitOn sep ys := by
  induction xs with
  | nil => simp [splitOn]
  | cons x xs ih =>
    rw [List.cons_append, splitOn, splitOn, ih]
    split
    · rfl
    · cases h : splitOn sep xs with
      | nil => exact absurd h (splitOn_ne_nil sep xs)
      | cons piece pieces => rfl

/-- Pieces that are closed already stay as they are, whatever stands behind them. -/
theorem splitOn_flatMap_append {sep : α} {closed : List (List α)}
    (h : ∀ piece ∈ closed, sep ∉ piece) (rest : List α) :
    splitOn sep (closed.flatMap (· ++ [sep]) ++ rest) = closed ++ splitOn sep rest := by
  induction closed with
  | nil => rfl
  | cons piece closed ih =>
    have hpiece : sep ∉ piece := h piece (by simp)
    have hclosed : ∀ p ∈ closed, sep ∉ p := fun p hp => h p (by simp [hp])
    have hassoc : (piece :: closed).flatMap (· ++ [sep]) ++ rest =
        piece ++ sep :: (closed.flatMap (· ++ [sep]) ++ rest) := by simp
    rw [hassoc, splitOn_append_cons, splitOn_of_notMem hpiece, ih hclosed]
    rfl

/-- No piece holds a separator. -/
theorem notMem_of_mem_splitOn {sep : α} {xs piece : List α} (h : piece ∈ splitOn sep xs) :
    sep ∉ piece := by
  induction xs generalizing piece with
  | nil =>
    rw [splitOn, List.mem_singleton] at h
    simp [h]
  | cons x xs ih =>
    rw [splitOn] at h
    split at h
    · rcases List.mem_cons.mp h with rfl | hmem
      · exact List.not_mem_nil
      · exact ih hmem
    · next hx =>
      cases hsplit : splitOn sep xs with
      | nil => exact absurd hsplit (splitOn_ne_nil sep xs)
      | cons first others =>
        rw [hsplit] at h
        rcases List.mem_cons.mp h with rfl | hmem
        · have hfirst : sep ∉ first := ih (by simp [hsplit])
          intro hmem
          rcases List.mem_cons.mp hmem with heq | hin
          · exact hx heq.symm
          · exact hfirst hin
        · exact ih (by simp [hsplit, hmem])

end TlaDigest.Text

namespace TlaDigest.Stream

open Text

variable {σ ω : Type}

/-! ### Closed lines and the open line -/

/-- The lines of a byte string that a line feed ends, each without it. -/
def closedLines (bytes : List UInt8) : List (List UInt8) := (splitOn lineFeed bytes).dropLast

/-- The bytes after the last line feed, or all of them where there is none. -/
def openLine (bytes : List UInt8) : List UInt8 :=
  (splitOn lineFeed bytes).getLast (splitOn_ne_nil lineFeed bytes)

theorem closedLines_append_openLine (bytes : List UInt8) :
    closedLines bytes ++ [openLine bytes] = splitOn lineFeed bytes :=
  List.dropLast_concat_getLast _

theorem lineFeed_notMem_of_mem_closedLines {bytes line : List UInt8}
    (h : line ∈ closedLines bytes) : lineFeed ∉ line :=
  notMem_of_mem_splitOn (List.dropLast_subset _ h)

theorem lineFeed_notMem_openLine (bytes : List UInt8) : lineFeed ∉ openLine bytes :=
  notMem_of_mem_splitOn (List.getLast_mem _)

/-- The two parts are read off any way to write the pieces as lines and a last one. -/
theorem closedLines_openLine_of_splitOn {bytes : List UInt8} {closed : List (List UInt8)}
    {rest : List UInt8} (h : splitOn lineFeed bytes = closed ++ [rest]) :
    closedLines bytes = closed ∧ openLine bytes = rest := by
  have heq := (closedLines_append_openLine bytes).trans h
  obtain ⟨hclosed, hrest⟩ := List.append_inj' heq rfl
  exact ⟨hclosed, List.singleton_inj.mp hrest⟩

theorem closedLines_openLine_of_notMem {bytes : List UInt8} (h : lineFeed ∉ bytes) :
    closedLines bytes = [] ∧ openLine bytes = bytes :=
  closedLines_openLine_of_splitOn (splitOn_of_notMem h)

/-- A line feed closes the line before it and leaves the rest as it is. -/
theorem closedLines_openLine_cons {line : List UInt8} (h : lineFeed ∉ line) (rest : List UInt8) :
    closedLines (line ++ lineFeed :: rest) = line :: closedLines rest ∧
      openLine (line ++ lineFeed :: rest) = openLine rest := by
  apply closedLines_openLine_of_splitOn
  rw [splitOn_append_cons, splitOn_of_notMem h, ← closedLines_append_openLine rest]
  rfl

/-- Nothing is lost: each closed line with its line feed, and then the open line. -/
theorem flatMap_closedLines_append_openLine (bytes : List UInt8) :
    (closedLines bytes).flatMap (· ++ [lineFeed]) ++ openLine bytes = bytes := by
  have hjoin : ∀ (closed : List (List UInt8)) (rest : List UInt8),
      joinWith lineFeed (closed ++ [rest]) = closed.flatMap (· ++ [lineFeed]) ++ rest := by
    intro closed rest
    induction closed with
    | nil => rfl
    | cons line closed ih =>
      have hne : closed ++ [rest] ≠ [] := by simp
      rw [List.cons_append, joinWith, ih]
      · simp
      · exact hne
  rw [← hjoin, closedLines_append_openLine, joinWith_splitOn]

/-- **Only the open line matters for what follows.** A longer text has the closed lines of its first
    part, and then the lines of the open line with the rest behind it. -/
theorem closedLines_openLine_append (bytes more : List UInt8) :
    closedLines (bytes ++ more) = closedLines bytes ++ closedLines (openLine bytes ++ more) ∧
      openLine (bytes ++ more) = openLine (openLine bytes ++ more) := by
  apply closedLines_openLine_of_splitOn
  calc splitOn lineFeed (bytes ++ more)
      = splitOn lineFeed ((closedLines bytes).flatMap (· ++ [lineFeed]) ++
          (openLine bytes ++ more)) := by
        rw [← List.append_assoc, flatMap_closedLines_append_openLine]
    _ = closedLines bytes ++ splitOn lineFeed (openLine bytes ++ more) :=
        splitOn_flatMap_append (fun _ => lineFeed_notMem_of_mem_closedLines) _
    _ = closedLines bytes ++ closedLines (openLine bytes ++ more) ++
          [openLine (openLine bytes ++ more)] := by
        rw [List.append_assoc, closedLines_append_openLine]

/-- The raw lines are the closed ones, and the open one when it holds a byte. -/
theorem rawLines_eq (bytes : List UInt8) :
    rawLines bytes =
      closedLines bytes ++ if openLine bytes = [] then [] else [openLine bytes] := by
  have hlast : (splitOn lineFeed bytes).getLast? = some (openLine bytes) :=
    List.getLast?_eq_some_getLast _
  unfold rawLines
  simp only [hlast, Option.some.injEq]
  split
  · simp [closedLines]
  · exact (closedLines_append_openLine bytes).symm

/-! ### One search and one loop -/

/-- A search that finds nothing has seen no line feed. -/
theorem lineBreak?_eq_none {buffer : Array UInt8} {i : Nat} (h : lineBreak? buffer i = none) :
    lineFeed ∉ buffer.toList.drop i := by
  fun_induction lineBreak? buffer i with
  | case1 i hi hfeed => simp at h
  | case2 i hi hfeed ih =>
    have hdrop : buffer.toList.drop i = buffer[i] :: buffer.toList.drop (i + 1) := by
      rw [List.drop_eq_getElem_cons (by simpa using hi)]
      simp
    rw [hdrop]
    intro hmem
    rcases List.mem_cons.mp hmem with heq | hin
    · exact hfeed heq.symm
    · exact ih h hin
  | case3 i hi =>
    rw [List.drop_eq_nil_of_le (by simpa using hi)]
    exact List.not_mem_nil

/-- A search that finds a line feed has passed bytes without one. -/
theorem lineBreak?_eq_some {buffer : Array UInt8} {i j : Nat} (h : lineBreak? buffer i = some j) :
    ∃ passed : List UInt8, lineFeed ∉ passed ∧ i + passed.length = j ∧
      buffer.toList.drop i = passed ++ lineFeed :: buffer.toList.drop (j + 1) := by
  fun_induction lineBreak? buffer i with
  | case1 i hi hfeed =>
    simp only [Option.some.injEq] at h
    subst h
    refine ⟨[], List.not_mem_nil, rfl, ?_⟩
    rw [List.drop_eq_getElem_cons (by simpa using hi), ← hfeed]
    simp
  | case2 i hi hfeed ih =>
    obtain ⟨passed, hpassed, hlen, hdrop⟩ := ih h
    refine ⟨buffer[i] :: passed, ?_, ?_, ?_⟩
    · intro hmem
      rcases List.mem_cons.mp hmem with heq | hin
      · exact hfeed heq.symm
      · exact hpassed hin
    · rw [List.length_cons]
      omega
    · rw [List.drop_eq_getElem_cons (by simpa using hi), hdrop]
      simp
  | case3 i hi => simp at h

@[simp] theorem toList_extract_size (buffer : Array UInt8) (i : Nat) :
    (buffer.extract i buffer.size).toList = buffer.toList.drop i := by
  rw [Array.toList_extract, List.extract_eq_take_drop, List.take_of_length_le]
  simp

/-- The cursors of the loop: the current line starts at `start`, and the bytes from there up to
    `scanned` are inside the buffer and hold no line feed. -/
structure Cursors (buffer : Array UInt8) (start scanned : Nat) : Prop where
  start_le : start ≤ scanned
  scanned_le : scanned ≤ buffer.size
  clear : lineFeed ∉ (buffer.extract start scanned).toList

/-- The bytes from the start of the line on are the searched ones and those not searched. -/
theorem Cursors.drop_start {buffer : Array UInt8} {start scanned : Nat}
    (h : Cursors buffer start scanned) :
    buffer.toList.drop start =
      (buffer.extract start scanned).toList ++ buffer.toList.drop scanned := by
  have hdrop : (buffer.toList.drop start).drop (scanned - start) = buffer.toList.drop scanned := by
    rw [List.drop_drop, Nat.add_sub_cancel' h.start_le]
  rw [← hdrop, Array.toList_extract, List.extract_eq_take_drop, List.take_append_drop]

theorem size_append_chunk (buffer : Array UInt8) (chunk : List UInt8) :
    (buffer ++ chunk).size = buffer.size + chunk.length := by
  rw [← Array.length_toList, Array.toList_appendList, List.length_append, Array.length_toList]

/-- A buffer without line feed is not searched again when a chunk is put behind it. -/
theorem Cursors.of_append {buffer : Array UInt8} (h : lineFeed ∉ buffer.toList)
    (chunk : List UInt8) : Cursors (buffer ++ chunk) 0 buffer.size := by
  refine ⟨Nat.zero_le _, ?_, ?_⟩
  · rw [size_append_chunk]
    exact Nat.le_add_right _ _
  · have hextract : ((buffer ++ chunk).extract 0 buffer.size).toList = buffer.toList := by
      rw [Array.toList_extract, List.extract_eq_take_drop]
      simp
    rw [hextract]
    exact h

/-- Where the search finds a line feed, the line before it is the one from `start` on, and the loop
    goes on behind it with cursors that meet. -/
theorem Cursors.found {buffer : Array UInt8} {start scanned stop : Nat}
    (h : Cursors buffer start scanned) (hstop : lineBreak? buffer scanned = some stop) :
    lineFeed ∉ (buffer.extract start stop).toList ∧
      buffer.toList.drop start =
        (buffer.extract start stop).toList ++ lineFeed :: buffer.toList.drop (stop + 1) ∧
      Cursors buffer (stop + 1) (stop + 1) := by
  obtain ⟨passed, hpassed, hlen, hdrop⟩ := lineBreak?_eq_some hstop
  have hbound := (lineBreak?_bounds hstop).2
  have hstart := h.start_le
  have hscanned := h.scanned_le
  have hall : buffer.toList.drop start = ((buffer.extract start scanned).toList ++ passed) ++
      lineFeed :: buffer.toList.drop (stop + 1) := by
    rw [h.drop_start, hdrop, List.append_assoc]
  have hline : (buffer.extract start stop).toList =
      (buffer.extract start scanned).toList ++ passed := by
    have hsize : ((buffer.extract start scanned).toList ++ passed).length = stop - start := by
      rw [List.length_append, Array.length_toList, Array.size_extract]
      omega
    rw [Array.toList_extract, List.extract_eq_take_drop, hall, ← hsize, List.take_left]
  refine ⟨?_, ?_, ⟨Nat.le_refl _, hbound, ?_⟩⟩
  · rw [hline]
    intro hmem
    rcases List.mem_append.mp hmem with hin | hin
    · exact h.clear hin
    · exact hpassed hin
  · rw [hline, hall]
  · simp

/-- **What the loop does.** It gives the parser the closed lines of the bytes from `start` on,
    counts them, and stops where the open line begins. -/
theorem drain_spec (p : LineParser σ ω) {buffer : Array UInt8} {start scanned : Nat} (state : σ)
    (count : Nat) (h : Cursors buffer start scanned) :
    (drain p buffer start scanned state count).1 =
        ((closedLines (buffer.toList.drop start)).map lineText).foldl p.feed state ∧
      (drain p buffer start scanned state count).2.1 =
        count + (closedLines (buffer.toList.drop start)).length ∧
      buffer.toList.drop (drain p buffer start scanned state count).2.2 =
        openLine (buffer.toList.drop start) := by
  fun_induction drain p buffer start scanned state count with
  | case1 start scanned state count hnone =>
    have hclear : lineFeed ∉ buffer.toList.drop start := by
      rw [h.drop_start]
      intro hmem
      rcases List.mem_append.mp hmem with hin | hin
      · exact h.clear hin
      · exact lineBreak?_eq_none hnone hin
    obtain ⟨hclosed, hopen⟩ := closedLines_openLine_of_notMem hclear
    rw [hclosed, hopen]
    exact ⟨rfl, rfl, rfl⟩
  | case2 start scanned state count stop hsome line ih =>
    obtain ⟨hline, hdrop, hnext⟩ := h.found hsome
    obtain ⟨hstate, hcount, hrest⟩ := ih hnext
    obtain ⟨hclosed, hopen⟩ := closedLines_openLine_cons hline (buffer.toList.drop (stop + 1))
    rw [hdrop, hclosed, hopen]
    refine ⟨hstate, ?_, hrest⟩
    rw [hcount, List.length_cons]
    omega

/-! ### The invariant of a pass -/

namespace Feed

/-- What a pass holds after `bytes`: all of it is told by the bytes, not by how they were cut. -/
structure Follows (p : LineParser σ ω) (bytes : List UInt8) (f : Feed σ) : Prop where
  state_eq : f.state = ((closedLines bytes).map lineText).foldl p.feed p.start
  buffer_eq : f.buffer.toList = openLine bytes
  scanned_eq : f.scanned = f.buffer.size
  lines_eq : f.lines = (closedLines bytes).length

theorem start_follows (p : LineParser σ ω) : Follows p [] (start p) :=
  ⟨rfl, rfl, rfl, rfl⟩

/-- Before the loop, the part of the buffer that is not searched again is the old open line. -/
theorem Follows.cursors {p : LineParser σ ω} {bytes : List UInt8} {f : Feed σ}
    (h : Follows p bytes f) (chunk : List UInt8) : Cursors (f.buffer ++ chunk) 0 f.scanned := by
  rw [h.scanned_eq]
  apply Cursors.of_append
  rw [h.buffer_eq]
  exact lineFeed_notMem_openLine bytes

/-- **A chunk keeps the invariant.** -/
theorem push_follows {p : LineParser σ ω} {bytes : List UInt8} {f : Feed σ} (h : Follows p bytes f)
    (chunk : List UInt8) : Follows p (bytes ++ chunk) (f.push p chunk) := by
  obtain ⟨hstate, hcount, hrest⟩ := drain_spec p f.state f.lines (h.cursors chunk)
  obtain ⟨hclosed, hopen⟩ := closedLines_openLine_append bytes chunk
  have hbuffer : (f.buffer ++ chunk).toList.drop 0 = openLine bytes ++ chunk := by
    simp [h.buffer_eq]
  rw [hbuffer] at hstate hcount hrest
  refine ⟨?_, ?_, rfl, ?_⟩
  · rw [hclosed, List.map_append, List.foldl_append, ← h.state_eq]
    exact hstate
  · rw [hopen, ← hrest]
    exact toList_extract_size _ _
  · rw [hclosed, List.length_append, ← h.lines_eq]
    exact hcount

theorem foldl_push_follows {p : LineParser σ ω} (chunks : List (List UInt8)) {bytes : List UInt8}
    {f : Feed σ} (h : Follows p bytes f) :
    Follows p (bytes ++ chunks.flatten) (chunks.foldl (fun f chunk => f.push p chunk) f) := by
  induction chunks generalizing bytes f with
  | nil => simpa using h
  | cons chunk chunks ih =>
    have hnext := ih (push_follows h chunk)
    rwa [List.append_assoc] at hnext

/-- The end of a pass depends on the bytes alone. -/
theorem Follows.stop_eq {p : LineParser σ ω} {bytes : List UInt8} {f : Feed σ}
    (h : Follows p bytes f) : f.stop p = p.parse (Stream.lines bytes) := by
  unfold stop LineParser.parse LineParser.after Stream.lines
  rw [rawLines_eq]
  by_cases hempty : openLine bytes = []
  · have hbuffer : f.buffer.isEmpty = true := by
      rw [Array.isEmpty_iff, ← Array.toList_eq_nil_iff, h.buffer_eq, hempty]
    rw [if_pos hbuffer, if_pos hempty, List.append_nil, h.state_eq]
  · have hbuffer : ¬ f.buffer.isEmpty = true := by
      rw [Array.isEmpty_iff, ← Array.toList_eq_nil_iff, h.buffer_eq]
      exact hempty
    rw [if_neg hbuffer, if_neg hempty, List.map_append, List.foldl_append, h.state_eq, h.buffer_eq]
    rfl

end Feed

/-- **Chunk boundaries never matter.** However the bytes of a stream are cut into chunks, the pass
    gives what the parser makes of the lines of all bytes. -/
theorem stop_foldl_push (p : LineParser σ ω) (chunks : List (List UInt8)) :
    (chunks.foldl (fun f chunk => f.push p chunk) (Feed.start p)).stop p =
      p.parse (lines chunks.flatten) :=
  (Feed.foldl_push_follows chunks (Feed.start_follows p)).stop_eq

end TlaDigest.Stream
