/-!
# Tallies

How many obligations of a proof step ended in each of six ways. The counters are words of 32 bits
and stop at the greatest one.
-/

namespace TlaDigest

def maxCount : UInt32 := 0xFFFFFFFF

/-- The sum of two counters, or the greatest counter where the sum is out of range. -/
def saturatingAdd (a b : UInt32) : UInt32 :=
  if a.toNat + b.toNat < UInt32.size then a + b else maxCount

structure Tally where
  proved : UInt32
  failed : UInt32
  omitted : UInt32
  missing : UInt32
  pending : UInt32
  progress : UInt32
deriving DecidableEq, Repr

namespace Tally

def zero : Tally := ⟨0, 0, 0, 0, 0, 0⟩

/-- The counters in the order in which they are written. -/
def counters (t : Tally) : List UInt32 :=
  [t.proved, t.failed, t.omitted, t.missing, t.pending, t.progress]

def add (s t : Tally) : Tally where
  proved := saturatingAdd s.proved t.proved
  failed := saturatingAdd s.failed t.failed
  omitted := saturatingAdd s.omitted t.omitted
  missing := saturatingAdd s.missing t.missing
  pending := saturatingAdd s.pending t.pending
  progress := saturatingAdd s.progress t.progress

def total (t : Tally) : UInt32 := t.counters.foldl saturatingAdd 0

end Tally

end TlaDigest
