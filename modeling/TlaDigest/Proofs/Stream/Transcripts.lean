import Mathlib.Data.List.Induction
import TlaDigest.Proofs.Stream.Drivers
import TlaDigest.Transcript

/-!
# Listening with a transcript

A parser that keeps a transcript (`LineParser.tee`) is driven event by event beside the bare parser.

Where a pass stands after some events is told by the events alone (`Progress.After`), and an event
keeps this (`after_next`). A pass with a transcript stands where the bare one does once the
transcript is left out (`After.bare`), and no two passes stand apart after the same events
(`After.eq`). The transcript itself holds the lines that the events gave to the parser (`taken`),
also when the stream failed (`After.transcript_eq`), and a failure gives the parser none
(`taken_concat_failed`). The main statement is `tee_transparent`.
-/

namespace TlaDigest.Stream

variable {σ ω : Type}

/-! ### One event after the other -/

def Progress.next (p : LineParser σ ω) : Progress σ ω → Event → Progress σ ω
  | .more f, event => f.take p event
  | .over outcome, _ => .over outcome

def drive (p : LineParser σ ω) (events : List Event) : Progress σ ω :=
  events.foldl (Progress.next p) (.more (.start p))

/-- How a pass ends if the host says no more. -/
def Progress.outcome (p : LineParser σ ω) : Progress σ ω → Outcome σ ω
  | .more f => .failed (.disconnected p.tool) f.state
  | .over outcome => outcome

theorem foldl_next_over (p : LineParser σ ω) (outcome : Outcome σ ω) (events : List Event) :
    events.foldl (Progress.next p) (.over outcome) = .over outcome := by
  induction events with
  | nil => rfl
  | cons event events ih => exact ih

theorem eventsFrom_eq_outcome (p : LineParser σ ω) (f : Feed σ) (events : List Event) :
    eventsFrom p f events = (events.foldl (Progress.next p) (.more f)).outcome p := by
  induction events generalizing f with
  | nil => rfl
  | cons event events ih =>
    rw [List.foldl_cons, eventsFrom, Progress.next]
    rcases f.take p event with f | outcome
    · exact ih f
    · rw [foldl_next_over]
      rfl

theorem listen_eq_outcome (p : LineParser σ ω) (events : List Event) :
    listen p events = (drive p events).outcome p :=
  eventsFrom_eq_outcome p (.start p) events

/-! ### Where a pass stands -/

section Concat

variable {events : List Event}

theorem lastEvent?_concat_of_none (h : lastEvent? events = none) (event : Event) :
    lastEvent? (events ++ [event]) = lastEvent? [event] ∧
      pushed (events ++ [event]) = pushed events ++ event.bytes := by
  have hchunks : ∀ e ∈ events, e.isChunk = true := by
    simpa [lastEvent?] using h
  constructor
  · rw [lastEvent?, List.find?_append, ← lastEvent?, h]
    rfl
  · have hall : events.takeWhile Event.isChunk = events := List.takeWhile_eq_self_iff.mpr hchunks
    unfold pushed
    rw [List.takeWhile_append_of_pos hchunks, List.flatMap_append, hall]
    congr 1
    cases event with
    | chunk bytes => exact List.append_nil bytes
    | done => rfl
    | failed cause => rfl

/-- Behind the event that told the end, nothing counts. -/
theorem lastEvent?_concat_of_some {last : Event} (h : lastEvent? events = some last)
    (event : Event) :
    lastEvent? (events ++ [event]) = some last ∧ pushed (events ++ [event]) = pushed events := by
  obtain ⟨hlast, chunks, rest, rfl, hchunks⟩ := List.find?_eq_some_iff_append.mp h
  have hfront : ∀ e ∈ chunks, e.isChunk = true := by simpa using hchunks
  have hstop : ¬ last.isChunk = true := by simpa using hlast
  constructor
  · rw [lastEvent?, List.find?_append, ← lastEvent?, h]
    rfl
  · unfold pushed
    rw [List.append_assoc, List.cons_append, List.takeWhile_append_of_pos hfront,
      List.takeWhile_append_of_pos hfront, List.takeWhile_cons_of_neg hstop,
      List.takeWhile_cons_of_neg hstop]

end Concat

namespace Progress

/-- Where a pass stands after some events. Until the stream is over it follows the bytes that came;
    then the event that told the end settles what it returned and in which state it was left. -/
inductive After (p : LineParser σ ω) (events : List Event) : Progress σ ω → Prop where
  | waiting {f : Feed σ} : lastEvent? events = none → f.Follows p (pushed events) →
      After p events (.more f)
  | done : lastEvent? events = some .done →
      After p events (.over (.ended (p.parse (lines (pushed events)))))
  | failed {cause : Fault} : lastEvent? events = some (.failed cause) →
      After p events (.over (.failed (.fault p.tool cause)
        (p.after ((closedLines (pushed events)).map lineText))))

/-- **An event keeps a pass where the events tell.** -/
theorem after_next {p : LineParser σ ω} {events : List Event} {progress : Progress σ ω}
    (h : After p events progress) (event : Event) :
    After p (events ++ [event]) (progress.next p event) := by
  cases h with
  | waiting hlast hfollows =>
    obtain ⟨hnext, hpushed⟩ := lastEvent?_concat_of_none hlast event
    cases event with
    | chunk bytes =>
      refine .waiting hnext ?_
      rw [hpushed]
      exact Feed.push_follows hfollows bytes
    | done =>
      have hbytes : pushed (events ++ [.done]) = pushed events :=
        hpushed.trans (List.append_nil _)
      have hdone := After.done (p := p) hnext
      rwa [hbytes, ← hfollows.stop_eq] at hdone
    | failed cause =>
      have hbytes : pushed (events ++ [.failed cause]) = pushed events :=
        hpushed.trans (List.append_nil _)
      have hfailed := After.failed (p := p) hnext
      rwa [hbytes, LineParser.after, ← hfollows.state_eq] at hfailed
  | done hlast =>
    obtain ⟨hnext, hpushed⟩ := lastEvent?_concat_of_some hlast event
    have hdone := After.done (p := p) hnext
    rwa [hpushed] at hdone
  | failed hlast =>
    obtain ⟨hnext, hpushed⟩ := lastEvent?_concat_of_some hlast event
    have hfailed := After.failed (p := p) hnext
    rwa [hpushed] at hfailed

theorem after_start (p : LineParser σ ω) : After p [] (.more (.start p)) :=
  .waiting rfl (Feed.start_follows p)

end Progress

theorem after_drive (p : LineParser σ ω) (events : List Event) :
    (drive p events).After p events := by
  induction events using List.reverseRecOn with
  | nil => exact Progress.after_start p
  | append_singleton events event ih =>
    rw [drive, List.foldl_append, ← drive]
    exact Progress.after_next ih event

theorem Feed.Follows.eq {p : LineParser σ ω} {bytes : List UInt8} {f g : Feed σ}
    (hf : f.Follows p bytes) (hg : g.Follows p bytes) : f = g := by
  obtain ⟨state, buffer, scanned, count⟩ := f
  obtain ⟨state', buffer', scanned', count'⟩ := g
  obtain ⟨hstate, hbuffer, hscanned, hcount⟩ := hf
  obtain ⟨hstate', hbuffer', hscanned', hcount'⟩ := hg
  simp only at *
  have hsame : buffer = buffer' := by
    rw [← Array.toList_inj, hbuffer, hbuffer']
  rw [hstate, hstate', hscanned, hscanned', hcount, hcount', hsame]

/-- The events leave no choice where a pass stands. -/
theorem Progress.After.eq {p : LineParser σ ω} {events : List Event} {a b : Progress σ ω}
    (ha : a.After p events) (hb : b.After p events) : a = b := by
  cases ha with
  | waiting hlast hfollows =>
    cases hb with
    | waiting hlast' hfollows' => rw [hfollows.eq hfollows']
    | done hlast' => simp [hlast] at hlast'
    | failed hlast' => simp [hlast] at hlast'
  | done hlast =>
    cases hb with
    | waiting hlast' hfollows' => simp [hlast] at hlast'
    | done hlast' => rfl
    | failed hlast' => simp [hlast] at hlast'
  | failed hlast =>
    cases hb with
    | waiting hlast' hfollows' => simp [hlast] at hlast'
    | done hlast' => simp [hlast] at hlast'
    | failed hlast' =>
      rw [hlast] at hlast'
      cases hlast'
      rfl

/-! ### Leaving the transcript out -/

theorem foldl_tee (p : LineParser σ ω) (before : Transcript) (lines : List String) (state : σ)
    (t : Transcript) :
    lines.foldl (p.tee before).feed (state, t) =
      (lines.foldl p.feed state, t.addLines p.tool lines) := by
  induction lines generalizing state t with
  | nil => rfl
  | cons line lines ih => exact ih (p.feed state line) (t.line p.tool line)

@[simp] theorem parse_tee (p : LineParser σ ω) (before : Transcript) (lines : List String) :
    (p.tee before).parse lines = (p.parse lines, before.addLines p.tool lines) :=
  congrArg (p.tee before).finish (foldl_tee p before lines p.start before)

@[simp] theorem toList_addLines (t : Transcript) (tool : String) (lines : List String) :
    (t.addLines tool lines).toList = t.toList ++ lines.map (TranscriptLine.mk tool) := by
  induction lines generalizing t with
  | nil => exact (List.append_nil _).symm
  | cons line lines ih =>
    have hrest := ih (t.line tool line)
    rw [Transcript.line, Array.toList_push, List.append_assoc] at hrest
    exact hrest

def Feed.bare (f : Feed (σ × Transcript)) : Feed σ :=
  ⟨f.state.1, f.buffer, f.scanned, f.lines⟩

def Outcome.bare : Outcome (σ × Transcript) (ω × Transcript) → Outcome σ ω
  | .ended output => .ended output.1
  | .failed cause state => .failed cause state.1

def Progress.bare : Progress (σ × Transcript) (ω × Transcript) → Progress σ ω
  | .more f => .more f.bare
  | .over outcome => .over outcome.bare

theorem Outcome.result_bare (outcome : Outcome (σ × Transcript) (ω × Transcript)) :
    outcome.bare.result = outcome.result.map Prod.fst := by
  cases outcome with
  | ended output => rfl
  | failed cause state => rfl

section Tee

variable {p : LineParser σ ω} {before : Transcript}

@[simp] theorem after_tee (p : LineParser σ ω) (before : Transcript) (lines : List String) :
    (p.tee before).after lines = (p.after lines, before.addLines p.tool lines) :=
  foldl_tee p before lines p.start before

/-- A pass that follows some bytes has written down the lines that they close. -/
theorem Feed.Follows.state_tee {bytes : List UInt8} {f : Feed (σ × Transcript)}
    (h : f.Follows (p.tee before) bytes) :
    f.state = (p.after ((closedLines bytes).map lineText),
      before.addLines p.tool ((closedLines bytes).map lineText)) :=
  h.state_eq.trans (after_tee p before _)

theorem Feed.Follows.bare {bytes : List UInt8} {f : Feed (σ × Transcript)}
    (h : f.Follows (p.tee before) bytes) : f.bare.Follows p bytes :=
  ⟨congrArg Prod.fst h.state_tee, h.buffer_eq, h.scanned_eq, h.lines_eq⟩

theorem Progress.After.bare {events : List Event}
    {progress : Progress (σ × Transcript) (ω × Transcript)}
    (h : progress.After (p.tee before) events) : progress.bare.After p events := by
  cases h with
  | waiting hlast hfollows => exact .waiting hlast hfollows.bare
  | done hlast =>
    rw [parse_tee]
    exact .done hlast
  | failed hlast =>
    rw [after_tee]
    exact .failed hlast

theorem Progress.outcome_bare (p : LineParser σ ω) (before : Transcript)
    (progress : Progress (σ × Transcript) (ω × Transcript)) :
    (progress.outcome (p.tee before)).bare = progress.bare.outcome p := by
  rcases progress with f | outcome
  · rfl
  · rfl

end Tee

/-! ### What is written down -/

/-- The lines that some events give to the parser: a clean end gives it the open line too. -/
def taken (events : List Event) : List String :=
  match lastEvent? events with
  | some .done => lines (pushed events)
  | _ => (closedLines (pushed events)).map lineText

theorem taken_concat_of_some {events : List Event} {last : Event}
    (h : lastEvent? events = some last) (event : Event) :
    taken (events ++ [event]) = taken events := by
  obtain ⟨hnext, hpushed⟩ := lastEvent?_concat_of_some h event
  simp only [taken, hnext, h, hpushed]

/-- A failure gives the parser nothing, not even the open line. -/
theorem taken_concat_failed (events : List Event) (cause : Fault) :
    taken (events ++ [.failed cause]) = taken events := by
  cases hlast : lastEvent? events with
  | none =>
    obtain ⟨hnext, hpushed⟩ := lastEvent?_concat_of_none hlast (.failed cause)
    have hfailed : lastEvent? (events ++ [.failed cause]) = some (.failed cause) := hnext
    simp only [taken, hfailed, hlast, hpushed, Event.bytes, List.append_nil]
  | some last => exact taken_concat_of_some hlast _

def Progress.HasTaken (p : LineParser σ ω) (texts : List String) : Progress σ ω → Prop
  | .more f => f.state = p.after texts ∧ f.lines = texts.length
  | .over (.ended output) => output = p.parse texts
  | .over (.failed _ state) => state = p.after texts

theorem Progress.After.hasTaken {p : LineParser σ ω} {events : List Event}
    {progress : Progress σ ω} (h : progress.After p events) :
    progress.HasTaken p (taken events) := by
  cases h with
  | waiting hlast hfollows =>
    simp only [taken, hlast]
    refine ⟨hfollows.state_eq, ?_⟩
    rw [hfollows.lines_eq, List.length_map]
  | done hlast =>
    simp only [taken, hlast]
    rfl
  | failed hlast =>
    simp only [taken, hlast]
    rfl

/-- **What is written down are the lines that the parser was given**, whatever became of the
    stream. -/
theorem Progress.After.transcript_eq {p : LineParser σ ω} {before : Transcript}
    {events : List Event} {progress : Progress (σ × Transcript) (ω × Transcript)}
    (h : progress.After (p.tee before) events) :
    progress.transcript = before.addLines p.tool (taken events) := by
  cases h with
  | waiting hlast hfollows => simp only [Progress.transcript, taken, hlast, hfollows.state_tee]
  | done hlast => simp only [Progress.transcript, Outcome.transcript, taken, hlast, parse_tee]
  | failed hlast => simp only [Progress.transcript, Outcome.transcript, taken, hlast, after_tee]

/-- Falling silent leaves the transcript as it is. -/
theorem Progress.transcript_outcome (p : LineParser (σ × Transcript) (ω × Transcript))
    (progress : Progress (σ × Transcript) (ω × Transcript)) :
    (progress.outcome p).transcript = progress.transcript := by
  rcases progress with f | outcome
  · rfl
  · rfl

/-- **A transcript changes nothing and misses nothing.** After any events, a pass of the parser that
    keeps a transcript is the pass of the bare parser once the transcript is left out: it has counted
    as many lines, and it returned the same if the stream is over. So listening returns the same
    too. The transcript holds what it held before, and then, under the name of the tool, the lines
    that the bare parser has taken and no others: all lines of the bytes that came if the stream
    ended cleanly, and otherwise those that a line feed ends. A failure leaves it as it is, and so
    does a host that falls silent. -/
theorem tee_transparent (p : LineParser σ ω) (before : Transcript) (events : List Event) :
    (drive (p.tee before) events).bare = drive p events ∧
      (readEvents (p.tee before) events).map Prod.fst = readEvents p events ∧
      (drive (p.tee before) events).transcript.toList =
        before.toList ++ (taken events).map (TranscriptLine.mk p.tool) ∧
      (drive p events).HasTaken p (taken events) ∧
      (∀ cause, (drive (p.tee before) (events ++ [.failed cause])).transcript =
        (drive (p.tee before) events).transcript) ∧
      (listen (p.tee before) events).transcript = (drive (p.tee before) events).transcript := by
  have hafter := after_drive p events
  have hteed := after_drive (p.tee before) events
  have hbare : (drive (p.tee before) events).bare = drive p events := hteed.bare.eq hafter
  refine ⟨hbare, ?_, ?_, hafter.hasTaken, ?_, ?_⟩
  · rw [readEvents, readEvents, ← Outcome.result_bare, listen_eq_outcome, listen_eq_outcome,
      Progress.outcome_bare, hbare]
  · rw [hteed.transcript_eq, toList_addLines]
  · intro cause
    rw [hteed.transcript_eq, (after_drive (p.tee before) _).transcript_eq, taken_concat_failed]
  · rw [listen_eq_outcome, Progress.transcript_outcome]

/-- The stream fails inside its second line, which is neither taken nor written down. -/
example :
    (drive (LineParser.tee (.collect "t") #[⟨"s", "x"⟩])
      [.chunk [0x61, 0x0D], .chunk [0x0A, 0x62], .failed ⟨.other, "gone"⟩, .done]).transcript =
      #[⟨"s", "x"⟩, ⟨"t", "a"⟩] := by
  decide +kernel

end TlaDigest.Stream
