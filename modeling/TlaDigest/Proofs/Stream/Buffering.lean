import Mathlib.Data.List.DropRight
import TlaDigest.Proofs.Stream.Chunking

/-!
# The buffer of a pass

What a pass keeps between two chunks, and what happens inside one. The loop over a buffer is taken
apart into single turns. A turn searches the bytes behind `scanned`, cuts out the line from `start`
to the line feed it finds and moves both cursors behind it; here every cut is checked, and one that
runs backwards or past the buffer is a fault (`Loop.turn`). The invariant `Cursors` rules faults out
(`turn_cases`) and is kept by every turn (`cuts_turn`), so a run of turns ends, at the latest when
all line feeds of the chunk are used up, and comes to what `drain` comes to (`Leads`). A loop that
carries the invariant can be stepped without looking out for faults (`Search.turn`).

A whole pass is a sequence of such loops (`Pass`), with the raw lines that all of them cut out. The
main statement is `buffer_after_chunks`.
-/

namespace TlaDigest.Stream

open Text

variable {σ ω : Type}

/-! ### Turns of the loop -/

/-- The bytes from `i` up to `j`, unless they run backwards or past the end. -/
def slice? (buffer : Array UInt8) (i j : Nat) : Option (List UInt8) :=
  if i ≤ j ∧ j ≤ buffer.size then some (buffer.extract i j).toList else none

structure Loop (σ : Type) where
  buffer : Array UInt8
  start : Nat
  scanned : Nat
  state : σ
  lines : Nat

inductive Turn (σ : Type) where
  /-- There is no line feed left. -/
  | finished
  /-- A cut was out of bounds. -/
  | fault
  /-- The parser has taken a raw line. -/
  | line (raw : List UInt8) (next : Loop σ)

namespace Loop

def enter (f : Feed σ) (chunk : List UInt8) : Loop σ :=
  ⟨f.buffer ++ chunk, 0, f.scanned, f.state, f.lines⟩

/-- One turn, with its cuts checked. -/
def turn (p : LineParser σ ω) (l : Loop σ) : Turn σ :=
  match slice? l.buffer l.scanned l.buffer.size with
  | none => .fault
  | some unsearched =>
    match unsearched.idxOf? lineFeed with
    | none => .finished
    | some offset =>
      let stop := l.scanned + offset
      match slice? l.buffer l.start stop with
      | none => .fault
      | some raw =>
        .line raw ⟨l.buffer, stop + 1, stop + 1, p.feed l.state (lineText raw), l.lines + 1⟩

def leave? (l : Loop σ) : Option (Feed σ) :=
  (slice? l.buffer l.start l.buffer.size).map fun rest =>
    ⟨l.state, rest.toArray, rest.length, l.lines⟩

def drained (p : LineParser σ ω) (l : Loop σ) : σ × Nat × Nat :=
  drain p l.buffer l.start l.scanned l.state l.lines

end Loop

/-- A run of turns that cut out the lines `raws`. -/
inductive Turns (p : LineParser σ ω) : Loop σ → List (List UInt8) → Loop σ → Prop where
  | refl (l : Loop σ) : Turns p l [] l
  | turn {l m n : Loop σ} {raw : List UInt8} {raws : List (List UInt8)} :
      l.turn p = .line raw m → Turns p m raws n → Turns p l (raw :: raws) n

/-- A pass over `chunks` in which the lines `raws` were cut out, all cuts being in bounds. -/
inductive Pass (p : LineParser σ ω) :
    List (List UInt8) → List (List UInt8) → Feed σ → Prop where
  | start : Pass p [] [] (Feed.start p)
  | push {chunks raws more : List (List UInt8)} {chunk : List UInt8} {f f' : Feed σ} {m : Loop σ} :
      Pass p chunks raws f → Turns p (.enter f chunk) more m → m.turn p = .finished →
      m.leave? = some f' → Pass p (chunks ++ [chunk]) (raws ++ more) f'

section Turns

variable {p : LineParser σ ω} {l m : Loop σ} {raw : List UInt8} {raws : List (List UInt8)}

theorem slice?_of_le {buffer : Array UInt8} {i j : Nat} (hi : i ≤ j) (hj : j ≤ buffer.size) :
    slice? buffer i j = some (buffer.extract i j).toList := if_pos ⟨hi, hj⟩

theorem lineBreak?_eq (buffer : Array UInt8) (i : Nat) :
    lineBreak? buffer i = ((buffer.toList.drop i).idxOf? lineFeed).map (i + ·) := by
  fun_induction lineBreak? buffer i with
  | case1 i hi hfeed =>
    rw [List.drop_eq_getElem_cons (by simpa using hi), List.idxOf?_cons]
    simp [hfeed]
  | case2 i hi hfeed ih =>
    have hlt : i < buffer.toList.length := by simpa using hi
    rw [ih, List.drop_eq_getElem_cons hlt, List.idxOf?_cons, if_neg (by simpa using hfeed),
      Option.map_map]
    congr 1
    funext offset
    exact Nat.add_right_comm i 1 offset
  | case3 i hi =>
    rw [List.drop_eq_nil_of_le (by simpa using hi)]
    rfl

/-- **The two ways a turn can go.** With the cursors in order none of its cuts is out of bounds. -/
theorem turn_cases (p : LineParser σ ω) (h : Cursors l.buffer l.start l.scanned) :
    (l.turn p = .finished ∧ lineBreak? l.buffer l.scanned = none) ∨
      ∃ stop raw, lineBreak? l.buffer l.scanned = some stop ∧
        raw = (l.buffer.extract l.start stop).toList ∧
        l.turn p =
          .line raw ⟨l.buffer, stop + 1, stop + 1, p.feed l.state (lineText raw), l.lines + 1⟩ := by
  have hstart := h.start_le
  have hsearch := slice?_of_le h.scanned_le (Nat.le_refl _)
  rw [toList_extract_size] at hsearch
  have hbreak := lineBreak?_eq l.buffer l.scanned
  cases hoffset : (l.buffer.toList.drop l.scanned).idxOf? lineFeed with
  | none =>
    rw [hoffset] at hbreak
    refine .inl ⟨?_, hbreak⟩
    simp only [Loop.turn, hsearch, hoffset]
  | some offset =>
    rw [hoffset] at hbreak
    have hstop := (lineBreak?_bounds hbreak).2
    have hcut : slice? l.buffer l.start (l.scanned + offset) = _ :=
      slice?_of_le (by omega) (Nat.le_of_lt hstop)
    refine .inr ⟨l.scanned + offset, _, hbreak, rfl, ?_⟩
    simp only [Loop.turn, hsearch, hoffset, hcut]

theorem lineBreak?_of_finished (h : Cursors l.buffer l.start l.scanned)
    (hend : l.turn p = .finished) : lineBreak? l.buffer l.scanned = none := by
  rcases turn_cases p h with ⟨-, hnone⟩ | ⟨stop, raw, -, -, hline⟩
  · exact hnone
  · rw [hline] at hend
    cases hend

/-- What a turn did that cut out `raw`. -/
structure Cuts (p : LineParser σ ω) (l : Loop σ) (raw : List UInt8) (m : Loop σ) : Prop where
  clear : lineFeed ∉ raw
  whole : l.buffer.toList.drop l.start = raw ++ lineFeed :: m.buffer.toList.drop m.start
  buffer_eq : m.buffer = l.buffer
  state_eq : m.state = p.feed l.state (lineText raw)
  scanned_lt : l.scanned < m.scanned
  cursors : Cursors m.buffer m.start m.scanned
  drained_eq : l.drained p = m.drained p

theorem cuts_turn (h : Cursors l.buffer l.start l.scanned) (hturn : l.turn p = .line raw m) :
    Cuts p l raw m := by
  rcases turn_cases p h with ⟨hfinished, -⟩ | ⟨stop, cut, hbreak, rfl, hline⟩
  · rw [hfinished] at hturn
    cases hturn
  · rw [hline] at hturn
    cases hturn
    obtain ⟨hclear, hdrop, hnext⟩ := h.found hbreak
    refine ⟨hclear, hdrop, rfl, rfl, ?_, hnext, ?_⟩
    · exact Nat.lt_succ_of_le (lineBreak?_bounds hbreak).1
    · rw [Loop.drained, drain]
      split
      · next hnone =>
        rw [hbreak] at hnone
        cases hnone
      · next hsome =>
        rw [hbreak] at hsome
        cases hsome
        rfl

theorem turn_ne_fault (p : LineParser σ ω) (h : Cursors l.buffer l.start l.scanned) :
    l.turn p ≠ .fault := by
  rcases turn_cases p h with ⟨hfinished, -⟩ | ⟨stop, raw, -, -, hline⟩
  · simp [hfinished]
  · simp [hline]

/-- Where the loop ends, all of the line that is not complete is searched. -/
theorem lineFeed_notMem_of_finished (h : Cursors l.buffer l.start l.scanned)
    (hend : l.turn p = .finished) : lineFeed ∉ l.buffer.toList.drop l.start := by
  rw [h.drop_start, List.mem_append, not_or]
  exact ⟨h.clear, lineBreak?_eq_none (lineBreak?_of_finished h hend)⟩

theorem leave?_eq (h : Cursors l.buffer l.start l.scanned) :
    l.leave? =
      let rest := l.buffer.extract l.start l.buffer.size
      some ⟨l.state, rest, rest.size, l.lines⟩ := by
  have hstart : l.start ≤ l.buffer.size := h.start_le.trans h.scanned_le
  rw [Loop.leave?, slice?_of_le hstart (Nat.le_refl _), Option.map_some, Array.toArray_toList,
    Array.length_toList]

/-! ### Runs of turns -/

/-- What holds when the loop has gone from `l` to `m` and cut out `raws`. -/
structure Leads (p : LineParser σ ω) (l : Loop σ) (raws : List (List UInt8)) (m : Loop σ) :
    Prop where
  cursors : Cursors m.buffer m.start m.scanned
  buffer_eq : m.buffer = l.buffer
  clear : ∀ raw ∈ raws, lineFeed ∉ raw
  whole : l.buffer.toList.drop l.start =
    raws.flatMap (· ++ [lineFeed]) ++ m.buffer.toList.drop m.start
  drained_eq : l.drained p = m.drained p

theorem leads_turns (h : Cursors l.buffer l.start l.scanned) (hturns : Turns p l raws m) :
    Leads p l raws m := by
  induction hturns with
  | refl l => exact ⟨h, rfl, by simp, by simp, rfl⟩
  | turn hturn _ ih =>
    have hfirst := cuts_turn h hturn
    have hrest := ih hfirst.cursors
    refine ⟨hrest.cursors, hrest.buffer_eq.trans hfirst.buffer_eq, ?_, ?_,
      hfirst.drained_eq.trans hrest.drained_eq⟩
    · intro raw hraw
      rcases List.mem_cons.mp hraw with rfl | hraw
      · exact hfirst.clear
      · exact hrest.clear raw hraw
    · rw [hfirst.whole, hrest.whole]
      simp

/-- The loop comes to an end: each turn moves `scanned` on, and it stays inside the buffer. -/
theorem exists_turns (p : LineParser σ ω) (h : Cursors l.buffer l.start l.scanned) :
    ∃ raws m, Turns p l raws m ∧ m.turn p = .finished := by
  induction hn : l.buffer.size - l.scanned using Nat.strongRecOn generalizing l with
  | ind n ih =>
    rcases turn_cases p h with ⟨hfinished, -⟩ | ⟨stop, raw, hbreak, -, hline⟩
    · exact ⟨[], l, .refl l, hfinished⟩
    · have hbounds := lineBreak?_bounds hbreak
      obtain ⟨raws, m, hturns, hend⟩ := ih (l.buffer.size - (stop + 1)) (by omega)
        (cuts_turn h hline).cursors rfl
      exact ⟨raw :: raws, m, .turn hline hturns, hend⟩

theorem count_flatMap_lineFeed (h : ∀ raw ∈ raws, lineFeed ∉ raw) :
    (raws.flatMap (· ++ [lineFeed])).count lineFeed = raws.length := by
  induction raws with
  | nil => rfl
  | cons raw raws ih =>
    have hraw : raw.count lineFeed = 0 := List.count_eq_zero.mpr (h raw (by simp))
    have hraws := ih fun r hr => h r (by simp [hr])
    rw [List.flatMap_cons, List.count_append, List.count_append, hraw, hraws,
      List.count_singleton_self, List.length_cons]
    omega

theorem Leads.length_le (h : Leads p l raws m) :
    raws.length ≤ (l.buffer.toList.drop l.start).count lineFeed := by
  rw [h.whole, List.count_append, count_flatMap_lineFeed h.clear]
  exact Nat.le_add_right _ _

/-- Where the loop ends, it has cut out the closed lines. -/
theorem Leads.closedLines_eq (h : Leads p l raws m) (hend : m.turn p = .finished) :
    closedLines (l.buffer.toList.drop l.start) = raws := by
  have hclear := lineFeed_notMem_of_finished h.cursors hend
  have hpieces : splitOn lineFeed (l.buffer.toList.drop l.start) =
      raws ++ [m.buffer.toList.drop m.start] := by
    rw [h.whole, splitOn_flatMap_append h.clear, splitOn_of_notMem hclear]
  exact (closedLines_openLine_of_splitOn hpieces).1

theorem Loop.drained_of_finished (h : Cursors l.buffer l.start l.scanned)
    (hend : l.turn p = .finished) : l.drained p = (l.state, l.lines, l.start) := by
  rw [Loop.drained, drain]
  split
  · rfl
  · next hsome =>
    rw [lineBreak?_of_finished h hend] at hsome
    cases hsome

/-- **The checked loop and the plain one agree**: what is left is in bounds and is what a push
    leaves. -/
theorem leave?_eq_push {f : Feed σ} {chunk : List UInt8} (h : Leads p (.enter f chunk) raws m)
    (hend : m.turn p = .finished) : m.leave? = some (f.push p chunk) := by
  have hdrain : drain p (f.buffer ++ chunk) 0 f.scanned f.state f.lines =
      (m.state, m.lines, m.start) :=
    h.drained_eq.trans (Loop.drained_of_finished h.cursors hend)
  have hbuffer : m.buffer = f.buffer ++ chunk := h.buffer_eq
  rw [leave?_eq h.cursors, Feed.push, hdrain, hbuffer]

end Turns

/-! ### Loops that carry their invariant -/

structure Resting (σ : Type) where
  feed : Feed σ
  scanned_eq : feed.scanned = feed.buffer.size
  clear : lineFeed ∉ feed.buffer.toList

structure Search (σ : Type) where
  loop : Loop σ
  cursors : Cursors loop.buffer loop.start loop.scanned

def Resting.start (p : LineParser σ ω) : Resting σ := ⟨.start p, rfl, List.not_mem_nil⟩

def Resting.enter (f : Resting σ) (chunk : List UInt8) : Search σ where
  loop := .enter f.feed chunk
  cursors := by
    have hcursors := Cursors.of_append f.clear chunk
    rwa [← f.scanned_eq] at hcursors

namespace Search

def leave {p : LineParser σ ω} (s : Search σ) (hend : s.loop.turn p = .finished) : Resting σ where
  feed :=
    let rest := s.loop.buffer.extract s.loop.start s.loop.buffer.size
    ⟨s.loop.state, rest, rest.size, s.loop.lines⟩
  scanned_eq := rfl
  clear := by
    rw [toList_extract_size]
    exact lineFeed_notMem_of_finished s.cursors hend

/-- One turn: the pass comes to rest, or a raw line is cut out and the search goes on. -/
def turn (p : LineParser σ ω) (s : Search σ) : Resting σ ⊕ List UInt8 × Search σ :=
  match h : s.loop.turn p with
  | .finished => .inl (s.leave h)
  | .line raw next => .inr (raw, ⟨next, (cuts_turn s.cursors h).cursors⟩)
  | .fault => absurd h (turn_ne_fault p s.cursors)

theorem leave?_of_turn {p : LineParser σ ω} {s : Search σ} {f : Resting σ}
    (h : s.turn p = .inl f) : s.loop.leave? = some f.feed := by
  unfold turn at h
  split at h
  · cases h
    exact leave?_eq s.cursors
  · cases h
  · next hfault => exact absurd hfault (turn_ne_fault p s.cursors)

theorem cuts_of_turn {p : LineParser σ ω} {s next : Search σ} {raw : List UInt8}
    (h : s.turn p = .inr (raw, next)) : Cuts p s.loop raw next.loop := by
  unfold turn at h
  split at h
  · cases h
  · next hline =>
    cases h
    exact cuts_turn s.cursors hline
  · next hfault => exact absurd hfault (turn_ne_fault p s.cursors)

end Search

/-! ### Passes -/

theorem Pass.follows {p : LineParser σ ω} {chunks raws : List (List UInt8)} {f : Feed σ}
    (h : Pass p chunks raws f) :
    f = chunks.foldl (fun f chunk => f.push p chunk) (Feed.start p) ∧
      Feed.Follows p chunks.flatten f ∧ raws = closedLines chunks.flatten := by
  induction h with
  | start => exact ⟨rfl, Feed.start_follows p, rfl⟩
  | @push chunks raws more chunk f f' m _ hturns hend hleave ih =>
    obtain ⟨hfold, hfollows, hraws⟩ := ih
    have hleads := leads_turns (hfollows.cursors chunk) hturns
    have hpush : f.push p chunk = f' := by
      rw [leave?_eq_push hleads hend] at hleave
      exact Option.some.inj hleave
    -- the loop runs over the open line of what came before, with the chunk behind it
    have hbuffer : (f.buffer ++ chunk).toList.drop 0 = openLine chunks.flatten ++ chunk := by
      simp [hfollows.buffer_eq]
    obtain ⟨hclosed, -⟩ := closedLines_openLine_append chunks.flatten chunk
    have hmore : closedLines ((f.buffer ++ chunk).toList.drop 0) = more :=
      hleads.closedLines_eq hend
    refine ⟨?_, ?_, ?_⟩
    · rw [List.foldl_append, ← hfold]
      exact hpush.symm
    · rw [← hpush, List.flatten_append]
      simpa using Feed.push_follows hfollows chunk
    · rw [List.flatten_append, List.flatten_singleton, hclosed, ← hbuffer, hmore, hraws]

theorem exists_pass (p : LineParser σ ω) (chunks : List (List UInt8)) :
    ∃ raws f, Pass p chunks raws f := by
  induction chunks using List.reverseRecOn with
  | nil => exact ⟨[], Feed.start p, .start⟩
  | append_singleton chunks chunk ih =>
    obtain ⟨raws, f, hpass⟩ := ih
    obtain ⟨-, hfollows, -⟩ := hpass.follows
    obtain ⟨more, m, hturns, hend⟩ := exists_turns p (l := .enter f chunk) (hfollows.cursors chunk)
    have hleads := leads_turns (hfollows.cursors chunk) hturns
    exact ⟨raws ++ more, f.push p chunk, .push hpass hturns hend (leave?_eq_push hleads hend)⟩

theorem length_closedLines (bytes : List UInt8) :
    (closedLines bytes).length = bytes.count lineFeed := by
  have hopen : (openLine bytes).count lineFeed = 0 :=
    List.count_eq_zero.mpr (lineFeed_notMem_openLine bytes)
  rw [← count_flatMap_lineFeed (fun _ => lineFeed_notMem_of_mem_closedLines)]
  conv_rhs => rw [← flatMap_closedLines_append_openLine bytes, List.count_append, hopen]
  rfl

/-- The open line is what stands behind the last line feed. -/
theorem openLine_eq_rtakeWhile (bytes : List UInt8) :
    openLine bytes = bytes.rtakeWhile (· ≠ lineFeed) := by
  induction bytes using List.reverseRecOn with
  | nil => rfl
  | append_singleton bytes b ih =>
    have hopen := lineFeed_notMem_openLine bytes
    rw [(closedLines_openLine_append bytes [b]).2, List.rtakeWhile_concat, ← ih]
    by_cases hb : b = lineFeed
    · rw [hb, (closedLines_openLine_cons hopen []).2, if_neg (by simp)]
      rfl
    · have hclear : lineFeed ∉ openLine bytes ++ [b] := by
        simp [hopen, Ne.symm hb]
      rw [(closedLines_openLine_of_notMem hclear).2, if_pos (by simpa using hb)]

/-- **What a pass holds after some chunks, and inside the next one.** There is a pass in which all
    cuts are in bounds, and it is the one that `push` makes. The buffer holds the bytes behind the
    last line feed, all of it is searched, the line feeds are counted, and the parser has taken the
    lines that were cut out: these are the closed lines of the input, and with their line feeds and
    the buffer behind them they are the input. Whatever chunk comes next, its loop keeps the
    cursors in order, meets no fault, leaves what `push` leaves, and makes at most as many turns as
    the chunk has line feeds. -/
theorem buffer_after_chunks (p : LineParser σ ω) (chunks : List (List UInt8)) :
    (∃ raws f, Pass p chunks raws f) ∧
    ∀ raws f, Pass p chunks raws f →
      f = chunks.foldl (fun f chunk => f.push p chunk) (Feed.start p) ∧
      f.buffer.toList = chunks.flatten.rtakeWhile (· ≠ lineFeed) ∧
      f.scanned = f.buffer.size ∧
      f.lines = chunks.flatten.count lineFeed ∧
      raws = closedLines chunks.flatten ∧
      f.state = p.after (raws.map lineText) ∧
      raws.flatMap (· ++ [lineFeed]) ++ f.buffer.toList = chunks.flatten ∧
      ∀ chunk more m, Turns p (.enter f chunk) more m →
        m.start ≤ m.scanned ∧ m.scanned ≤ m.buffer.size ∧ m.turn p ≠ .fault ∧
          (m.turn p = .finished → m.leave? = some (f.push p chunk)) ∧
          more.length ≤ chunk.count lineFeed := by
  refine ⟨exists_pass p chunks, ?_⟩
  intro raws f hpass
  obtain ⟨hfold, hfollows, rfl⟩ := hpass.follows
  refine ⟨hfold, ?_, hfollows.scanned_eq, ?_, rfl, hfollows.state_eq, ?_, ?_⟩
  · rw [hfollows.buffer_eq, openLine_eq_rtakeWhile]
  · rw [hfollows.lines_eq, length_closedLines]
  · rw [hfollows.buffer_eq, flatMap_closedLines_append_openLine]
  · intro chunk more m hturns
    have hleads := leads_turns (hfollows.cursors chunk) hturns
    refine ⟨hleads.cursors.start_le, hleads.cursors.scanned_le, turn_ne_fault p hleads.cursors,
      leave?_eq_push hleads, ?_⟩
    · have hold : f.buffer.toList.count lineFeed = 0 := by
        rw [hfollows.buffer_eq]
        exact List.count_eq_zero.mpr (lineFeed_notMem_openLine _)
      have hbuffer : (f.buffer ++ chunk).toList.drop 0 = f.buffer.toList ++ chunk := by simp
      have hlength : more.length ≤ ((f.buffer ++ chunk).toList.drop 0).count lineFeed :=
        hleads.length_le
      rwa [hbuffer, List.count_append, hold, Nat.zero_add] at hlength

/-- A line break that is cut in two, and the first turn of a chunk with two more. -/
theorem buffer_after_cut_break :
    ∃ raws f, Pass (LineParser.collect "lines") [[97, 13], [10, 98]] raws f ∧ raws = [[97, 13]] ∧
      f.buffer = #[98] ∧ f.scanned = 1 ∧ f.lines = 1 ∧ f.state = #["a"] ∧
      ∃ m, Turns (LineParser.collect "lines") (.enter f [99, 10, 10]) [[98, 99]] m ∧
        m.start ≤ m.scanned ∧ m.scanned ≤ m.buffer.size := by
  obtain ⟨⟨raws, f, hpass⟩, hall⟩ :=
    buffer_after_chunks (LineParser.collect "lines") [[97, 13], [10, 98]]
  obtain ⟨-, hbuffer, hscanned, hlines, rfl, hstate, -, hloop⟩ := hall raws f hpass
  replace hbuffer : f.buffer = #[98] := by
    rw [← Array.toList_inj, hbuffer]
    decide
  replace hscanned : f.scanned = 1 := by
    rw [hscanned, hbuffer]
    rfl
  replace hlines : f.lines = 1 := hlines.trans (by decide)
  replace hstate : f.state = #["a"] := hstate.trans (by decide)
  have hturn : Turns (LineParser.collect "lines") (.enter f [99, 10, 10]) [[98, 99]]
      ⟨#[98, 99, 10, 10], 3, 3, #["a", "bc"], 2⟩ := by
    refine .turn ?_ (.refl _)
    rw [Loop.enter, hbuffer, hscanned, hlines, hstate]
    rfl
  obtain ⟨hstart, hscan, -, -, -⟩ := hloop _ _ _ hturn
  exact ⟨_, f, hpass, by decide, hbuffer, hscanned, hlines, hstate, _, hturn, hstart, hscan⟩

end TlaDigest.Stream
