import TlaDigest.Proofs.Stream.Buffering
import TlaDigest.Proofs.Stream.Drivers
import TlaDigest.Run

/-!
# The tasks that read a process

Two tasks read a process while it runs. One parses the output and writes every line down
before the parser takes it (`Parsing`); the other forwards the lines of the error output as far as
they are text (`Forwarding`). They share the transcript, so each is given as a machine whose steps
do at most one thing that the other task can see: a read, a search for the next line break or the
end of the stream is one step, and every line that is written down is a step of its own. The search
through the buffer is that of `Proofs/Stream/Buffering`, turn by turn.

A machine that is let run alone does what the loops of the drivers do, and this is told without
running it. The fate of a task is all that it will still do, and a step takes its action off the
fate and leaves the rest (`fate_step`, `rest_step`). Every step also takes off some of the work that
is left (`work_step`), so a task that is polled often enough is over.
-/

namespace TlaDigest.Run

open TlaDigest.Stream

variable {σ ω : Type}

/-- What a task does in a step that can be seen from outside. -/
inductive Action where
  /-- It writes a line down. -/
  | print (text : String)
  /-- It gives notice that the output failed, so that the process can be ended. -/
  | abort
deriving DecidableEq, Repr

/-! ### Parsing the output -/

/-- Where the task that parses the output stands. -/
inductive Parsing (σ ω : Type) where
  /-- It waits for a read. -/
  | waiting (f : Resting σ) (reads : List Read)
  /-- It looks for lines in the buffer, with the reads that are still to come. -/
  | draining (search : Search σ) (reads : List Read)
  | finished (result : Except StreamError ω)

namespace Parsing

/-- The end of the output. A line without line feed is taken when it holds a byte. -/
def atEnd (p : LineParser σ ω) (f : Feed σ) : Parsing σ ω × Option Action :=
  if f.buffer.isEmpty then (.finished (.ok (p.finish f.state)), none)
  else
    let line := lineText f.buffer.toList
    (.finished (.ok (p.finish (p.feed f.state line))), some (.print line))

def step (p : LineParser σ ω) : Parsing σ ω → Parsing σ ω × Option Action
  | .waiting f [] => atEnd p f.feed
  | .waiting f (.block [] :: _) => atEnd p f.feed
  | .waiting f (.block bytes :: reads) => (.draining (f.enter bytes) reads, none)
  | .waiting f (.fault cause :: reads) =>
    match cause.kind with
    | .interrupted => (.waiting f reads, none)
    | .other => (.finished (.error (.fault p.tool cause)), some .abort)
  | .draining search reads =>
    match search.turn p with
    | .inl f => (.waiting f reads, none)
    | .inr (raw, next) => (.draining next reads, some (.print (lineText raw)))
  | .finished result => (.finished result, none)

end Parsing

/-! ### The fate of the parsing task -/

/-- All that a task will still do: the lines it will write down, how often it will give notice of a
    failure, and what it will return. -/
structure Fate (ω : Type) where
  lines : List String
  aborts : Nat
  result : Except StreamError ω

def Fate.cons (fate : Fate ω) : Option Action → Fate ω
  | none => fate
  | some (.print text) => { fate with lines := text :: fate.lines }
  | some .abort => { fate with aborts := fate.aborts + 1 }

/-- The lines that are taken from some bytes: all of them when the stream ends cleanly, and those
    that a line feed ends when it fails. -/
def takenLines (fault : Option Fault) (bytes : List UInt8) : List String :=
  match fault with
  | none => lines bytes
  | some _ => (closedLines bytes).map lineText

def dispatched (reads : List Read) : List String := takenLines (fault? reads) (received reads)

/-- The fate of a pass in a state, with bytes that wait for the end of their line. -/
def fateOf (p : LineParser σ ω) (state : σ) (bytes : List UInt8) (reads : List Read) : Fate ω :=
  let lines := takenLines (fault? reads) (bytes ++ received reads)
  match fault? reads with
  | none => ⟨lines, 0, .ok (p.finish (lines.foldl p.feed state))⟩
  | some cause => ⟨lines, 1, .error (.fault p.tool cause)⟩

def Parsing.fate (p : LineParser σ ω) : Parsing σ ω → Fate ω
  | .waiting f reads => fateOf p f.feed.state f.feed.buffer.toList reads
  | .draining search reads =>
    fateOf p search.loop.state (search.loop.buffer.toList.drop search.loop.start) reads
  | .finished result => ⟨[], 0, result⟩

theorem takenLines_cons (fault : Option Fault) {line : List UInt8} (h : lineFeed ∉ line)
    (rest : List UInt8) :
    takenLines fault (line ++ lineFeed :: rest) = lineText line :: takenLines fault rest := by
  obtain ⟨hclosed, hopen⟩ := closedLines_openLine_cons h rest
  cases fault with
  | none => simp only [takenLines, lines, rawLines_eq, hclosed, hopen, List.cons_append, List.map]
  | some cause => simp only [takenLines, hclosed, List.map_cons]

theorem lines_of_notMem {bytes : List UInt8} (h : lineFeed ∉ bytes) :
    lines bytes = if bytes = [] then [] else [lineText bytes] := by
  obtain ⟨hclosed, hopen⟩ := closedLines_openLine_of_notMem h
  rw [lines, rawLines_eq, hclosed, hopen]
  split <;> rfl

theorem fateOf_cons (p : LineParser σ ω) (state : σ) {line : List UInt8} (h : lineFeed ∉ line)
    (rest : List UInt8) (reads : List Read) :
    fateOf p state (line ++ lineFeed :: rest) reads =
      (fateOf p (p.feed state (lineText line)) rest reads).cons
        (some (.print (lineText line))) := by
  have hlines : takenLines (fault? reads) (line ++ lineFeed :: rest ++ received reads) =
      lineText line :: takenLines (fault? reads) (rest ++ received reads) := by
    rw [List.append_assoc, List.cons_append, takenLines_cons _ h]
  unfold fateOf
  rw [hlines]
  cases fault? reads with
  | none => rfl
  | some cause => rfl

/-- Outcomes that reading goes on after move their bytes into the buffer. -/
theorem fateOf_goesOn (p : LineParser σ ω) (state : σ) (bytes : List UInt8) {read : Read}
    (h : read.goesOn = true) (reads : List Read) :
    fateOf p state bytes (read :: reads) = fateOf p state (bytes ++ read.bytes) reads := by
  unfold fateOf
  rw [received_cons_of_goesOn h, fault?_cons_of_goesOn h, List.append_assoc]

@[simp] theorem fateOf_atEnd (p : LineParser σ ω) {f : Feed σ} (h : lineFeed ∉ f.buffer.toList)
    {reads : List Read} (hfault : fault? reads = none) (hreceived : received reads = []) :
    fateOf p f.state f.buffer.toList reads =
      ((Parsing.atEnd p f).1.fate p).cons (Parsing.atEnd p f).2 := by
  have hlines := lines_of_notMem h
  simp only [fateOf, hfault, hreceived, takenLines, List.append_nil, hlines, Parsing.atEnd]
  by_cases hempty : f.buffer.toList = []
  · have hbuffer : f.buffer.isEmpty = true := by
      rw [Array.isEmpty_iff, ← Array.toList_eq_nil_iff, hempty]
    rw [if_pos hempty, if_pos hbuffer]
    rfl
  · have hbuffer : ¬ f.buffer.isEmpty = true := by
      rw [Array.isEmpty_iff, ← Array.toList_eq_nil_iff]
      exact hempty
    rw [if_neg hempty, if_neg hbuffer]
    rfl

namespace Parsing

/-- **A step takes its action off the fate**, and leaves the rest of it as it was. -/
theorem fate_step (p : LineParser σ ω) (t : Parsing σ ω) :
    t.fate p = ((t.step p).1.fate p).cons (t.step p).2 := by
  fun_cases step p t with
  | case1 f =>
    have hreceived : received [] = [] := rfl
    exact fateOf_atEnd p f.clear rfl hreceived
  | case2 f reads =>
    have hend : (Read.block []).goesOn = false := rfl
    exact fateOf_atEnd p f.clear rfl (received_cons_of_ends hend reads)
  | case3 f bytes reads hne =>
    have hgo : (Read.block bytes).goesOn = true := by simpa [Read.goesOn] using hne
    have hbuffer : (f.feed.buffer ++ bytes).toList.drop 0 = f.feed.buffer.toList ++ bytes := by
      simp
    rw [fate, fateOf_goesOn p _ _ hgo]
    simp only [fate, Resting.enter, Loop.enter, hbuffer, Fate.cons]
    rfl
  | case4 f cause reads hkind =>
    have hgo : (Read.fault cause).goesOn = true := by simp [Read.goesOn, hkind]
    rw [fate, fateOf_goesOn p _ _ hgo]
    simp only [fate, Read.bytes, List.append_nil, Fate.cons]
  | case5 f cause reads hkind =>
    -- the line that is not complete is given up with the stream
    have hend : (Read.fault cause).goesOn = false := by simp [Read.goesOn, hkind]
    have hfault : fault? (.fault cause :: reads) = some cause := by
      simp [fault?, lastRead?, hend]
    have hclosed := (closedLines_openLine_of_notMem f.clear).1
    simp only [fate, fateOf, hfault, received_cons_of_ends hend, takenLines, List.append_nil,
      hclosed, List.map_nil, Fate.cons]
  | case6 search reads f hturn =>
    have hleave := Search.leave?_of_turn hturn
    rw [leave?_eq search.cursors, Option.some.injEq] at hleave
    simp only [fate, Fate.cons, ← hleave, toList_extract_size]
  | case7 search reads raw next hturn =>
    have hcuts := Search.cuts_of_turn hturn
    rw [fate, hcuts.whole, fateOf_cons p _ hcuts.clear, ← hcuts.state_eq]
    rfl
  | case8 result => rfl

def workOf : List Read → Nat
  | [] => 0
  | read :: reads => read.bytes.length + 2 + workOf reads

/-- A bound for the number of steps that are left. -/
def work : Parsing σ ω → Nat
  | .waiting _ reads => workOf reads + 1
  | .draining search reads => search.loop.buffer.size - search.loop.scanned + 2 + workOf reads
  | .finished _ => 0

@[simp] theorem work_atEnd (p : LineParser σ ω) (f : Feed σ) : (atEnd p f).1.work = 0 := by
  unfold atEnd
  split <;> rfl

theorem work_step (p : LineParser σ ω) (t : Parsing σ ω) : (t.step p).1.work ≤ t.work - 1 := by
  fun_cases step p t with
  | case1 f => exact (work_atEnd p f.feed).le.trans (Nat.zero_le _)
  | case2 f reads => exact (work_atEnd p f.feed).le.trans (Nat.zero_le _)
  | case3 f bytes reads hne =>
    simp only [work, workOf, Read.bytes, Resting.enter, Loop.enter, size_append_chunk,
      f.scanned_eq]
    omega
  | case4 f cause reads hkind =>
    simp only [work, workOf]
    omega
  | case5 f cause reads hkind => exact Nat.zero_le _
  | case6 search reads f hturn =>
    simp only [work]
    omega
  | case7 search reads raw next hturn =>
    have hcuts := Search.cuts_of_turn hturn
    have hscanned := hcuts.scanned_lt
    have hbound := next.cursors.scanned_le
    simp only [work, hcuts.buffer_eq] at hbound ⊢
    omega
  | case8 result => exact Nat.zero_le _

theorem eq_finished_of_work (p : LineParser σ ω) {t : Parsing σ ω} (h : t.work = 0) :
    t = .finished (t.fate p).result := by
  cases t with
  | waiting f reads => simp [work] at h
  | draining search reads => simp [work] at h
  | finished result => rfl

end Parsing

/-! ### Forwarding the error output -/

/-- Where the task that forwards the error output stands. -/
inductive Forwarding where
  | reading (bytes : List UInt8)
  | finished

namespace Forwarding

/-- The bytes of the next line without its line break, and the bytes behind it. A carriage return
    belongs to the line break only where a line feed follows it. -/
def nextLine (bytes : List UInt8) : List UInt8 × List UInt8 :=
  match bytes.dropWhile (· ≠ lineFeed) with
  | [] => (bytes, [])
  | _ :: rest => (Text.dropFinal carriageReturn (bytes.takeWhile (· ≠ lineFeed)), rest)

/-- One step, with the line that is written down in it. A line that is no text ends the task, and so
    does the end of the error output. -/
def step : Forwarding → Forwarding × Option String
  | .reading [] => (.finished, none)
  | .reading bytes =>
    match Text.Utf8.decode? (nextLine bytes).1 with
    | some text => (.reading (nextLine bytes).2, some (String.ofList text))
    | none => (.finished, none)
  | .finished => (.finished, none)

def rest : Forwarding → List String
  | .reading bytes => strictLines bytes
  | .finished => []

def work : Forwarding → Nat
  | .reading bytes => bytes.length + 1
  | .finished => 0

theorem nextLine_cases (bytes : List UInt8) :
    (lineFeed ∉ bytes ∧ nextLine bytes = (bytes, [])) ∨
      ∃ raw rest, lineFeed ∉ raw ∧ bytes = raw ++ lineFeed :: rest ∧
        nextLine bytes = (Text.dropFinal carriageReturn raw, rest) := by
  have hraw : lineFeed ∉ bytes.takeWhile (· ≠ lineFeed) := by
    intro hmem
    simpa using List.mem_takeWhile_imp hmem
  have hsplit : bytes.takeWhile (· ≠ lineFeed) ++ bytes.dropWhile (· ≠ lineFeed) = bytes :=
    List.takeWhile_append_dropWhile
  cases hdrop : bytes.dropWhile (· ≠ lineFeed) with
  | nil =>
    rw [hdrop, List.append_nil] at hsplit
    refine .inl ⟨hsplit ▸ hraw, ?_⟩
    simp only [nextLine, hdrop]
  | cons b rest =>
    have hb : b = lineFeed := by
      have hhead := List.head?_dropWhile_not (· ≠ lineFeed) bytes
      rw [hdrop] at hhead
      simpa using hhead
    subst hb
    rw [hdrop] at hsplit
    refine .inr ⟨_, rest, hraw, hsplit.symm, ?_⟩
    simp only [nextLine, hdrop]

@[simp] theorem strictLines_nil : strictLines [] = [] := rfl

/-- **The strict lines of some bytes** are the next line, if it is text, and the strict lines behind
    it. -/
theorem strictLines_eq {bytes : List UInt8} (h : bytes ≠ []) :
    strictLines bytes =
      match Text.Utf8.decode? (nextLine bytes).1 with
      | some text => String.ofList text :: strictLines (nextLine bytes).2
      | none => [] := by
  rcases nextLine_cases bytes with ⟨hclear, hnext⟩ | ⟨raw, rest, hclear, rfl, hnext⟩
  · simp only [hnext, strictLines_nil]
    unfold strictLines
    rw [Text.splitOn_of_notMem hclear]
    cases hdecode : Text.Utf8.decode? bytes with
    | none => simp [h, hdecode]
    | some text => simp [h, hdecode]
  · rw [hnext]
    have hlines : Text.splitOn lineFeed (raw ++ lineFeed :: rest) =
        raw :: Text.splitOn lineFeed rest := by
      rw [Text.splitOn_append_cons, Text.splitOn_of_notMem hclear]
      rfl
    unfold strictLines
    simp only [hlines]
    rw [List.dropLast_cons_of_ne_nil (Text.splitOn_ne_nil lineFeed rest),
      List.getLast?_cons_of_ne_nil (Text.splitOn_ne_nil lineFeed rest)]
    cases hdecode : Text.Utf8.decode? (Text.dropFinal carriageReturn raw) with
    | none => simp [hdecode]
    | some text => simp [hdecode]

/-- **A step takes its line off what is left to forward.** -/
theorem rest_step (t : Forwarding) : t.rest = t.step.2.toList ++ t.step.1.rest := by
  fun_cases step t with
  | case1 => rfl
  | case2 bytes hne text hdecode =>
    rw [rest, strictLines_eq hne, hdecode]
    rfl
  | case3 bytes hne hdecode =>
    rw [rest, strictLines_eq hne, hdecode]
    rfl
  | case4 => rfl

theorem length_nextLine {bytes : List UInt8} (h : bytes ≠ []) :
    (nextLine bytes).2.length < bytes.length := by
  rcases nextLine_cases bytes with ⟨-, hnext⟩ | ⟨raw, rest, -, rfl, hnext⟩
  · rw [hnext]
    exact List.length_pos_iff.mpr h
  · simp only [hnext, List.length_append, List.length_cons]
    omega

theorem work_step (t : Forwarding) : t.step.1.work ≤ t.work - 1 := by
  fun_cases step t with
  | case1 => exact Nat.zero_le _
  | case2 bytes hne text hdecode =>
    have hlength := length_nextLine hne
    simp only [work]
    omega
  | case3 bytes hne hdecode => exact Nat.zero_le _
  | case4 => exact Nat.zero_le _

theorem eq_finished_of_work {t : Forwarding} (h : t.work = 0) : t = .finished := by
  cases t with
  | reading bytes => simp [work] at h
  | finished => rfl

end Forwarding

end TlaDigest.Run
