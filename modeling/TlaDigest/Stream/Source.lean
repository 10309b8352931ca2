import TlaDigest.Stream.Feed
import TlaDigest.Transcript

/-!
# Sources of a stream

A pass is driven either by reading until the end (`readAll`) or by events that a host pushes
(`readEvents`). When the stream fails, what was parsed before is discarded, but the state in which
the failure found the parser is kept (`Outcome`), and with it the transcript, if there is one.
-/

namespace TlaDigest.Stream

variable {σ ω : Type}

/-- Why a read did not succeed. Only an interrupted read is tried again. -/
inductive FaultKind where
  | interrupted
  | other
deriving DecidableEq, Repr

structure Fault where
  kind : FaultKind
  message : String
deriving DecidableEq, Repr

inductive StreamError where
  | fault (tool : String) (cause : Fault)
  /-- The host went away before the stream ended. -/
  | disconnected (tool : String)
deriving DecidableEq, Repr

namespace StreamError

def message : StreamError → String
  | .fault tool cause => s!"failed to read {tool} output: " ++ cause.message
  | .disconnected tool => s!"{tool} output channel closed before the end of the stream"

end StreamError

/-- How a pass over a stream ended. -/
inductive Outcome (σ ω : Type) where
  | ended (output : ω)
  /-- The stream failed and left the parser in a state. -/
  | failed (cause : StreamError) (state : σ)

namespace Outcome

/-- What a pass returns: nothing of what was parsed before a failure. -/
def result : Outcome σ ω → Except StreamError ω
  | .ended output => .ok output
  | .failed cause _ => .error cause

/-- What was written down, also when the stream failed. -/
def transcript : Outcome (σ × Transcript) (ω × Transcript) → Transcript
  | .ended output => output.2
  | .failed _ state => state.2

end Outcome

/-! ### Reading to the end -/

/-- The outcome of one read. A block without bytes is the end of the stream. -/
inductive Read where
  | block (bytes : List UInt8)
  | fault (cause : Fault)
deriving DecidableEq, Repr

def blockSize : Nat := 8 * 1024

/-- A block as the reads that return it: no read returns more than `blockSize` bytes. -/
def cutBlock (bytes : List UInt8) : List Read :=
  if bytes.length ≤ blockSize then [.block bytes]
  else .block (bytes.take blockSize) :: cutBlock (bytes.drop blockSize)
termination_by bytes.length
decreasing_by
  simp only [List.length_drop, blockSize] at *
  omega

/-- The reads for what a source holds. -/
def cutReads (reads : List Read) : List Read :=
  reads.flatMap fun
    | .block bytes => cutBlock bytes
    | .fault cause => [.fault cause]

/-- Reads on until the end of the stream, which the end of the list stands for too, or until a read
    does not succeed. -/
def readFrom (p : LineParser σ ω) (f : Feed σ) : List Read → Feed σ × Option Fault
  | [] => (f, none)
  | .block [] :: _ => (f, none)
  | .block bytes :: reads => readFrom p (f.push p bytes) reads
  | .fault cause :: reads =>
    match cause.kind with
    | .interrupted => readFrom p f reads
    | .other => (f, some cause)

def readToEnd (p : LineParser σ ω) (reads : List Read) : Outcome σ ω :=
  match readFrom p (.start p) reads with
  | (f, none) => .ended (f.stop p)
  | (f, some cause) => .failed (.fault p.tool cause) f.state

def readAll (p : LineParser σ ω) (reads : List Read) : Except StreamError ω :=
  (readToEnd p reads).result

/-! ### Events -/

/-- What a host tells about the stream. -/
inductive Event where
  | chunk (bytes : List UInt8)
  | done
  | failed (cause : Fault)
deriving DecidableEq, Repr

/-- A pass after an event: it goes on, or it is over. -/
inductive Progress (σ ω : Type) where
  | more (f : Feed σ)
  | over (outcome : Outcome σ ω)

def Progress.transcript : Progress (σ × Transcript) (ω × Transcript) → Transcript
  | .more f => f.state.2
  | .over outcome => outcome.transcript

def Feed.take (p : LineParser σ ω) (f : Feed σ) : Event → Progress σ ω
  | .chunk bytes => .more (f.push p bytes)
  | .done => .over (.ended (f.stop p))
  | .failed cause => .over (.failed (.fault p.tool cause) f.state)

def eventsFrom (p : LineParser σ ω) (f : Feed σ) : List Event → Outcome σ ω
  | [] => .failed (.disconnected p.tool) f.state
  | e :: events =>
    match f.take p e with
    | .more f => eventsFrom p f events
    | .over outcome => outcome

def listen (p : LineParser σ ω) (events : List Event) : Outcome σ ω :=
  eventsFrom p (.start p) events

def readEvents (p : LineParser σ ω) (events : List Event) : Except StreamError ω :=
  (listen p events).result

end TlaDigest.Stream
