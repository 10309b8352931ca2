import TlaDigest.Proofs.Stream.LossyText
import TlaDigest.Stream.Source

/-!
# The drivers of a pass, and how they end

A source is read until an outcome after which reading does not go on (`lastRead?`), and a host is
listened to until an event that is not a chunk (`lastEvent?`). What was parsed is told by the bytes
that came before (`received`, `pushed`), and whether it is returned at all by that last outcome or
event.

Both loops keep the invariant `Feed.Follows` of a pass, so nothing has to be said here about lines
or chunks: `readFrom_follows` and `eventsFrom_eq` follow the two loops step by step. The drivers
differ where they should. A block without bytes is an end and a chunk without bytes is not; an
interruption is passed over by one and reported by the other; a source that is used up has ended,
and a host that falls silent has gone away. `drivers_agree` puts this together.
-/

namespace TlaDigest.Stream

open Text

variable {σ ω : Type}

/-! ### How reading ends -/

/-- Reading goes on after a block with bytes and after an interruption. -/
def Read.goesOn : Read → Bool
  | .block bytes => !bytes.isEmpty
  | .fault cause => cause.kind = .interrupted

def Read.bytes : Read → List UInt8
  | .block bytes => bytes
  | .fault _ => []

/-- The bytes that came before reading ended. -/
def received (reads : List Read) : List UInt8 :=
  (reads.takeWhile Read.goesOn).flatMap Read.bytes

/-- The outcome that ended the reading; none where the source was used up. -/
def lastRead? (reads : List Read) : Option Read := reads.find? fun read => !read.goesOn

def fault? (reads : List Read) : Option Fault :=
  match lastRead? reads with
  | some (.fault cause) => some cause
  | _ => none

section Received

variable {read : Read}

@[simp] theorem received_cons_of_goesOn (h : read.goesOn = true) (reads : List Read) :
    received (read :: reads) = read.bytes ++ received reads := by
  simp [received, h]

@[simp] theorem received_cons_of_ends (h : read.goesOn = false) (reads : List Read) :
    received (read :: reads) = [] := by
  simp [received, h]

@[simp] theorem fault?_cons_of_goesOn (h : read.goesOn = true) (reads : List Read) :
    fault? (read :: reads) = fault? reads := by
  simp [fault?, lastRead?, h]

/-- Outcomes that reading goes on after only add their bytes. -/
theorem received_fault?_append {front : List Read} (h : ∀ read ∈ front, read.goesOn = true)
    (reads : List Read) :
    received (front ++ reads) = front.flatMap Read.bytes ++ received reads ∧
      fault? (front ++ reads) = fault? reads := by
  induction front with
  | nil => exact ⟨rfl, rfl⟩
  | cons first front ih =>
    have hfirst : first.goesOn = true := h first (by simp)
    obtain ⟨hreceived, hfault⟩ := ih fun read hread => h read (by simp [hread])
    simp [hfirst, hreceived, hfault]

/-- What stands behind the outcome that ends the reading is never asked for. -/
theorem received_fault?_of_ends (h : read.goesOn = false) (reads rest : List Read) :
    received (reads ++ read :: rest) = received (reads ++ [read]) ∧
      fault? (reads ++ read :: rest) = fault? (reads ++ [read]) := by
  induction reads with
  | nil =>
    simp [h, fault?, lastRead?]
  | cons first reads ih =>
    obtain ⟨hreceived, hfault⟩ := ih
    cases hfirst : first.goesOn with
    | true => simp [hfirst, hreceived, hfault]
    | false => simp [hfirst, fault?, lastRead?]

end Received

/-! ### Reading -/

/-- **The loop of reads** follows the bytes that it received, and stops at the fault if there is
    one. -/
theorem readFrom_follows {p : LineParser σ ω} (reads : List Read) {bytes : List UInt8} {f : Feed σ}
    (h : f.Follows p bytes) :
    (readFrom p f reads).1.Follows p (bytes ++ received reads) ∧
      (readFrom p f reads).2 = fault? reads := by
  fun_induction readFrom p f reads generalizing bytes with
  | case1 f => exact ⟨by simpa [received] using h, rfl⟩
  | case2 f reads =>
    rw [received_cons_of_ends rfl, List.append_nil]
    exact ⟨h, rfl⟩
  | case3 f block reads hne ih =>
    have hgo : (Read.block block).goesOn = true := by
      simpa [Read.goesOn] using hne
    obtain ⟨hnext, hfault⟩ := ih (Feed.push_follows h block)
    rw [received_cons_of_goesOn hgo, fault?_cons_of_goesOn hgo, ← List.append_assoc]
    exact ⟨hnext, hfault⟩
  | case4 f cause reads hkind ih =>
    -- an interruption brings no bytes and leaves the pass where it was
    have hgo : (Read.fault cause).goesOn = true := by simp [Read.goesOn, hkind]
    obtain ⟨hnext, hfault⟩ := ih h
    rw [received_cons_of_goesOn hgo, fault?_cons_of_goesOn hgo]
    exact ⟨hnext, hfault⟩
  | case5 f cause reads hkind =>
    have hend : (Read.fault cause).goesOn = false := by simp [Read.goesOn, hkind]
    rw [received_cons_of_ends hend, List.append_nil]
    exact ⟨h, by simp [fault?, lastRead?, hend]⟩

theorem readToEnd_eq (p : LineParser σ ω) (reads : List Read) :
    readToEnd p reads =
      match fault? reads with
      | some cause =>
        .failed (.fault p.tool cause) (p.after ((closedLines (received reads)).map lineText))
      | none => .ended (p.parse (lines (received reads))) := by
  obtain ⟨hfollows, hfault⟩ := readFrom_follows reads (Feed.start_follows p)
  unfold readToEnd
  rcases hread : readFrom p (.start p) reads with ⟨f, fault⟩
  rw [hread] at hfollows hfault
  subst hfault
  cases fault? reads with
  | some cause => exact congrArg _ hfollows.state_eq
  | none => exact congrArg Outcome.ended hfollows.stop_eq

theorem readAll_eq (p : LineParser σ ω) (reads : List Read) :
    readAll p reads =
      match fault? reads with
      | some cause => .error (.fault p.tool cause)
      | none => .ok (p.parse (lines (received reads))) := by
  rw [readAll, readToEnd_eq]
  cases fault? reads with
  | some cause => rfl
  | none => rfl

/-- Two sources that bring the same bytes and end with the same fault, if any, read alike. -/
theorem readAll_congr (p : LineParser σ ω) {reads others : List Read}
    (hreceived : received reads = received others) (hfault : fault? reads = fault? others) :
    readAll p reads = readAll p others := by
  rw [readAll_eq, readAll_eq, hreceived, hfault]

/-! ### Blocks that are too long for one read -/

theorem length_le_of_mem_cutBlock {bytes : List UInt8} {read : Read} (h : read ∈ cutBlock bytes) :
    read.bytes.length ≤ blockSize := by
  fun_induction cutBlock bytes with
  | case1 bytes hsize =>
    rw [List.mem_singleton.mp h]
    exact hsize
  | case2 bytes hsize ih =>
    rcases List.mem_cons.mp h with rfl | hrest
    · exact List.length_take_le _ _
    · exact ih hrest

/-- A block with bytes is cut into blocks with bytes, which bring the same. -/
theorem goesOn_cutBlock {bytes : List UInt8} (h : bytes ≠ []) :
    (∀ read ∈ cutBlock bytes, read.goesOn = true) ∧
      (cutBlock bytes).flatMap Read.bytes = bytes := by
  fun_induction cutBlock bytes with
  | case1 bytes hsize =>
    refine ⟨?_, ?_⟩
    · intro read hread
      rw [List.mem_singleton.mp hread]
      simpa [Read.goesOn] using h
    · rw [List.flatMap_singleton]
      rfl
  | case2 bytes hsize ih =>
    have hpos : 0 < blockSize := by decide
    have hrest : bytes.drop blockSize ≠ [] := by
      rw [ne_eq, List.drop_eq_nil_iff]
      exact hsize
    obtain ⟨hgo, hbytes⟩ := ih hrest
    refine ⟨?_, ?_⟩
    · intro read hread
      rcases List.mem_cons.mp hread with rfl | hread
      · have hfirst : bytes.take blockSize ≠ [] := by
          intro hnil
          rcases List.take_eq_nil_iff.mp hnil with hzero | hbytes
          · exact absurd hzero (Nat.ne_of_gt hpos)
          · exact h hbytes
        simpa [Read.goesOn] using hfirst
      · exact hgo read hread
    · rw [List.flatMap_cons, hbytes]
      exact List.take_append_drop _ _

/-- Cutting the blocks of a source changes neither its bytes nor its end. -/
theorem received_fault?_cutReads (reads : List Read) :
    received (cutReads reads) = received reads ∧ fault? (cutReads reads) = fault? reads := by
  induction reads with
  | nil => exact ⟨rfl, rfl⟩
  | cons read reads ih =>
    obtain ⟨hreceived, hfault⟩ := ih
    cases read with
    | block bytes =>
      have hcut : cutReads (.block bytes :: reads) = cutBlock bytes ++ cutReads reads := rfl
      rw [hcut]
      by_cases hempty : bytes = []
      · -- the end of the stream is not cut
        have hend : cutBlock bytes = [.block []] := by
          rw [hempty, cutBlock]
          rfl
        rw [hend, hempty, List.singleton_append, received_cons_of_ends rfl,
          received_cons_of_ends rfl]
        exact ⟨rfl, rfl⟩
      · obtain ⟨hgo, hbytes⟩ := goesOn_cutBlock hempty
        have hblock : (Read.block bytes).goesOn = true := by simpa [Read.goesOn] using hempty
        obtain ⟨hreceived', hfault'⟩ := received_fault?_append hgo (cutReads reads)
        simp [hreceived', hfault', hbytes, hreceived, hfault, hblock, Read.bytes]
    | fault cause =>
      have hcut : cutReads (.fault cause :: reads) = .fault cause :: cutReads reads := rfl
      rw [hcut]
      cases hgo : (Read.fault cause).goesOn with
      | true => simp [hgo, hreceived, hfault]
      | false => simp [hgo, fault?, lastRead?]

theorem length_le_of_mem_cutReads {reads : List Read} {read : Read} (h : read ∈ cutReads reads) :
    read.bytes.length ≤ blockSize := by
  obtain ⟨whole, -, hread⟩ := List.mem_flatMap.mp h
  cases whole with
  | block bytes => exact length_le_of_mem_cutBlock hread
  | fault cause =>
    rw [List.mem_singleton.mp hread]
    exact Nat.zero_le _

/-! ### Listening -/

def Event.isChunk : Event → Bool
  | .chunk _ => true
  | _ => false

def Event.bytes : Event → List UInt8
  | .chunk bytes => bytes
  | _ => []

def pushed (events : List Event) : List UInt8 :=
  (events.takeWhile Event.isChunk).flatMap Event.bytes

/-- The event that told that the stream is over; none where the host went away before it. -/
def lastEvent? (events : List Event) : Option Event := events.find? fun event => !event.isChunk

/-- **The loop of events** gives what the last event says, with the bytes that came before it. -/
theorem eventsFrom_eq {p : LineParser σ ω} (events : List Event) {bytes : List UInt8} {f : Feed σ}
    (h : f.Follows p bytes) :
    eventsFrom p f events =
      let closed := (closedLines (bytes ++ pushed events)).map lineText
      match lastEvent? events with
      | some .done => .ended (p.parse (lines (bytes ++ pushed events)))
      | some (.failed cause) => .failed (.fault p.tool cause) (p.after closed)
      | _ => .failed (.disconnected p.tool) (p.after closed) := by
  induction events generalizing bytes f with
  | nil =>
    have hpushed : pushed [] = [] := rfl
    rw [hpushed, List.append_nil]
    exact congrArg _ h.state_eq
  | cons event events ih =>
    cases event with
    | chunk chunk =>
      have hlast : lastEvent? (.chunk chunk :: events) = lastEvent? events := rfl
      have hpushed : pushed (.chunk chunk :: events) = chunk ++ pushed events := rfl
      rw [eventsFrom, hlast, hpushed, ← List.append_assoc]
      exact ih (Feed.push_follows h chunk)
    | done =>
      have hpushed : pushed (.done :: events) = [] := rfl
      rw [hpushed, List.append_nil]
      exact congrArg Outcome.ended h.stop_eq
    | failed cause =>
      have hpushed : pushed (.failed cause :: events) = [] := rfl
      rw [hpushed, List.append_nil]
      exact congrArg _ h.state_eq

theorem readEvents_eq (p : LineParser σ ω) (events : List Event) :
    readEvents p events =
      match lastEvent? events with
      | some .done => .ok (p.parse (lines (pushed events)))
      | some (.failed cause) => .error (.fault p.tool cause)
      | _ => .error (.disconnected p.tool) := by
  rw [readEvents, listen, eventsFrom_eq events (Feed.start_follows p)]
  rcases lastEvent? events with _ | (_ | _ | _) <;> rfl

/-- Events behind the one that told the end are not looked at. -/
theorem eventsFrom_append_cons {event : Event} (h : event.isChunk = false) (p : LineParser σ ω)
    (f : Feed σ) (events rest : List Event) :
    eventsFrom p f (events ++ event :: rest) = eventsFrom p f (events ++ [event]) := by
  induction events generalizing f with
  | nil =>
    cases event with
    | chunk bytes => cases h
    | done => rfl
    | failed cause => rfl
  | cons first events ih =>
    cases first with
    | chunk bytes => exact ih (f.push p bytes)
    | done => rfl
    | failed cause => rfl

/-! ### The drivers together -/

/-- The parse of some bytes is that of the text they decode to. -/
theorem parse_lines_eq_parseText (p : LineParser σ ω) {bytes : List UInt8} {text : String}
    (h : Utf8.decode bytes = text.toList) : p.parse (lines bytes) = parseText p text := by
  rw [parseText_eq, textLines_eq_charLines, lines_eq_charLines, h]

/-- **The drivers agree, and fail exactly when the stream does.** Reading gives the parse of the
    bytes before the first outcome that is neither a block with bytes nor an interruption, or the
    fault where that outcome is one; how long the blocks of the source are and what stands behind
    that outcome does not matter. Listening gives the parse of the chunks before the first other
    event when that tells a clean end, its fault when it tells one, and otherwise reports that the
    host went away. A stream that ends cleanly gives the same to both and to whoever has its text at
    hand. -/
theorem drivers_agree (p : LineParser σ ω) :
    (∀ reads, readAll p reads =
        match fault? reads with
        | some cause => .error (.fault p.tool cause)
        | none => .ok (p.parse (lines (received reads)))) ∧
      (∀ reads, (∀ read ∈ cutReads reads, read.bytes.length ≤ blockSize) ∧
        readAll p (cutReads reads) = readAll p reads) ∧
      (∀ reads read rest, read.goesOn = false →
        readAll p (reads ++ read :: rest) = readAll p (reads ++ [read])) ∧
      (∀ events, readEvents p events =
        match lastEvent? events with
        | some .done => .ok (p.parse (lines (pushed events)))
        | some (.failed cause) => .error (.fault p.tool cause)
        | _ => .error (.disconnected p.tool)) ∧
      (∀ events event rest, event.isChunk = false →
        readEvents p (events ++ event :: rest) = readEvents p (events ++ [event])) ∧
      ∀ reads events text, fault? reads = none → lastEvent? events = some .done →
        received reads = pushed events → Utf8.decode (received reads) = text.toList →
        readAll p reads = .ok (parseText p text) ∧ readEvents p events = .ok (parseText p text) := by
  refine ⟨readAll_eq p, ?_, ?_, readEvents_eq p, ?_, ?_⟩
  · intro reads
    obtain ⟨hreceived, hfault⟩ := received_fault?_cutReads reads
    exact ⟨fun read => length_le_of_mem_cutReads, readAll_congr p hreceived hfault⟩
  · intro reads read rest hend
    obtain ⟨hreceived, hfault⟩ := received_fault?_of_ends hend reads rest
    exact readAll_congr p hreceived hfault
  · intro events event rest hend
    exact congrArg Outcome.result (eventsFrom_append_cons hend p (.start p) events rest)
  · intro reads events text hclean hdone hbytes htext
    have hparse := parse_lines_eq_parseText p htext
    rw [readAll_eq, hclean, readEvents_eq, hdone, ← hbytes, hparse]
    exact ⟨rfl, rfl⟩

/-- A break that is cut in two, an interruption and a chunk without bytes. -/
theorem drivers_agree_on_cut_break :
    readAll (.collect "lines")
        [.block [0x61, 0x0D], .fault ⟨.interrupted, "again"⟩, .block [0x0A, 0x62], .block [],
          .fault ⟨.other, "broken"⟩] =
        .ok (parseText (.collect "lines") "a\r\nb") ∧
      readEvents (.collect "lines")
        [.chunk [0x61], .chunk [], .chunk [0x0D, 0x0A, 0x62], .done, .failed ⟨.other, "late"⟩] =
        .ok (parseText (.collect "lines") "a\r\nb") :=
  (drivers_agree (.collect "lines")).2.2.2.2.2 _ _ "a\r\nb" (by decide) (by decide) (by decide)
    (by decide)

end TlaDigest.Stream
