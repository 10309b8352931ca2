import TlaDigest.FileTree
import TlaDigest.Script.Octets

/-!
# What processes share

Files, the streams that they write to, and the texts that they read. Processes that run at the same
time write in the order of their clocks. A stream may have a reader that takes it line by line and
goes away after the first line that is not text; whoever then writes more than fits is ended by the
signal for a broken pipe.
-/

namespace TlaDigest.Script

open Text

/-! ### Streams -/

inductive Watch where
  | always
  /-- Lines are taken; the one that has begun is kept. -/
  | lines (begun : Octets)
  /-- The reader is gone, and so much was written since. -/
  | gone (unread : Nat)
deriving Repr

namespace Watch

def isText (line : Octets) : Bool := (Utf8.decode? (toBytes line)).isSome

/-- The reader after lines, of which the last is not ended yet. -/
def after : List Octets → Watch
  | [] => .lines []
  | [begun] => .lines begun
  | line :: rest => if isText line then after rest else .gone (joinWith '\n' rest).length

def next (w : Watch) (text : Octets) : Watch :=
  match w with
  | .always => .always
  | .lines begun => after (splitOn '\n' (begun ++ text))
  | .gone unread => .gone (unread + text.length)

end Watch

/-- Who writes, and when: the processes in the background that a writer belongs to, and its clock, in
    millionths of a second. -/
structure Stamp where
  time : Nat
  owners : List Nat
deriving Repr

structure Stream where
  chunks : List (Stamp × Octets)
  watch : Watch
deriving Repr

namespace Stream

def capacity : Nat := 65536

def kept : Stream := ⟨[], .always⟩

def watched : Stream := ⟨[], .lines []⟩

def text (s : Stream) : Octets :=
  (s.chunks.reverse.mergeSort fun a b => a.1.time ≤ b.1.time).flatMap (·.2)

def isBroken (s : Stream) : Bool :=
  match s.watch with
  | .gone unread => capacity < unread
  | _ => false

def write (s : Stream) (stamp : Stamp) (text : Octets) : Stream :=
  ⟨(stamp, text) :: s.chunks, s.watch.next text⟩

/-- A reader that is gone has closed its end after a while, so that nothing fits any more. -/
def settle (s : Stream) : Stream :=
  match s.watch with
  | .gone _ => { s with watch := .gone capacity }
  | _ => s

def discard (s : Stream) (owner time : Nat) : Stream :=
  { s with chunks := s.chunks.filter fun c => !(c.1.owners.contains owner && time < c.1.time) }

end Stream

/-! ### The world -/

inductive Channel where
  | output (index : Nat)
  | input (index : Nat)
  | file (index : Nat)
  /-- What is written is lost, and there is nothing to read. -/
  | nothing
  | full
deriving DecidableEq, Repr

structure OpenFile where
  place : Place
  offset : Nat
  appends : Bool
deriving Repr

structure Input where
  text : Octets
  ready : Nat
deriving Repr

/-- A signal on its way to a process, and when it gets there. -/
structure Alarm where
  time : Nat
  process : Nat
  signal : Nat
deriving DecidableEq, Repr

structure World where
  tree : FileTree
  streams : Array Stream
  inputs : Array Input
  files : Array OpenFile
  alarms : List Alarm
  nextProcess : Nat

inductive Receipt where
  | taken
  | broken
  | refused (cause : FileError)
deriving DecidableEq, Repr

namespace World

def overwritten (before : List UInt8) (offset : Nat) (more : List UInt8) : List UInt8 :=
  before.take offset ++ List.replicate (offset - before.length) 0 ++ more ++
    before.drop (offset + more.length)

/-- Writes to a file that is open. A file that is no longer there takes everything. -/
def writeFile (w : World) (i : Nat) (f : OpenFile) (text : Octets) : World :=
  match w.tree.entry? f.place with
  | some (.file before program) =>
    let offset := if f.appends then before.length else f.offset
    { w with
      tree := w.tree.put f.place (.file (overwritten before offset (toBytes text)) program)
      files := w.files.setIfInBounds i { f with offset := offset + text.length } }
  | _ => w

def write (w : World) (channel : Option Channel) (stamp : Stamp) (text : Octets) : World × Receipt :=
  if text.isEmpty then (w, .taken)
  else
    match channel with
    | some (.output i) =>
      let w := { w with streams := w.streams.modify i fun s => s.write stamp text }
      (w, if (w.streams[i]?.map Stream.isBroken).getD false then .broken else .taken)
    | some (.file i) =>
      match w.files[i]? with
      | some f => (w.writeFile i f text, .taken)
      | none => (w, .refused .badDescriptor)
    | some .nothing => (w, .taken)
    | some .full => (w, .refused .noSpace)
    | some (.input _) => (w, .refused .badDescriptor)
    | none => (w, .refused .badDescriptor)

/-- What is left to read from a channel, and when it is there. -/
def unread (w : World) (channel : Option Channel) : Except FileError Input :=
  match channel with
  | some (.input i) => .ok ((w.inputs[i]?).getD ⟨[], 0⟩)
  | some (.file i) =>
    match w.files[i]? with
    | some f =>
      if w.tree.isDirectory f.place then .error .isDirectory
      else .ok ⟨ofBytes (((w.tree.file? f.place).getD []).drop f.offset), 0⟩
    | none => .error .badDescriptor
  | some .nothing => .ok ⟨[], 0⟩
  | some .full => .ok ⟨[], 0⟩
  | some (.output _) => .error .badDescriptor
  | none => .error .badDescriptor

def leave (w : World) (channel : Option Channel) (rest : Octets) : World :=
  match channel with
  | some (.input i) => { w with inputs := w.inputs.modify i fun input => { input with text := rest } }
  | some (.file i) =>
    match w.files[i]? with
    | some f =>
      let size := ((w.tree.file? f.place).getD []).length
      { w with files := w.files.setIfInBounds i { f with offset := size - rest.length } }
    | none => w
  | _ => w

def addStream (w : World) : World × Channel :=
  ({ w with streams := w.streams.push .kept }, .output w.streams.size)

def addInput (w : World) (input : Input) : World × Channel :=
  ({ w with inputs := w.inputs.push input }, .input w.inputs.size)

def addFile (w : World) (place : Place) (appends : Bool) : World × Channel :=
  ({ w with files := w.files.push ⟨place, 0, appends⟩ }, .file w.files.size)

def written (w : World) (channel : Channel) : Octets :=
  match channel with
  | .output i => (w.streams[i]?.map Stream.text).getD []
  | _ => []

def settle (w : World) : World := { w with streams := w.streams.map Stream.settle }

def discard (w : World) (owner time : Nat) : World :=
  { w with streams := w.streams.map fun s => s.discard owner time }

end World

end TlaDigest.Script
