/-!
# Positions and ranges

Positions in a document and ranges between them. Lines and columns count from zero and are words of
32 bits. A range is half-open: it covers its start and not its end.
-/

namespace TlaDigest

/-- A place between two characters of a document. -/
structure Position where
  line : UInt32
  column : UInt32
deriving DecidableEq, Repr, Inhabited

namespace Position

/-- Document order: by line, then by column. -/
def order (p q : Position) : Ordering :=
  (compare p.line q.line).then (compare p.column q.column)

instance : LT Position := ⟨fun p q => p.line < q.line ∨ (p.line = q.line ∧ p.column < q.column)⟩

instance : LE Position := ⟨fun p q => p.line < q.line ∨ (p.line = q.line ∧ p.column ≤ q.column)⟩

instance (p q : Position) : Decidable (p < q) :=
  inferInstanceAs (Decidable (p.line < q.line ∨ (p.line = q.line ∧ p.column < q.column)))

instance (p q : Position) : Decidable (p ≤ q) :=
  inferInstanceAs (Decidable (p.line < q.line ∨ (p.line = q.line ∧ p.column ≤ q.column)))

instance : Max Position := ⟨fun p q => if p ≤ q then q else p⟩

instance : Min Position := ⟨fun p q => if p ≤ q then p else q⟩

end Position

/-- The characters from `start` up to, not including, `stop`. -/
structure Range where
  start : Position
  stop : Position
deriving DecidableEq, Repr, Inhabited

namespace Range

/-- The range between two positions. An end that precedes the start falls onto it. -/
def between (start stop : Position) : Range := ⟨start, max stop start⟩

def point (p : Position) : Range := ⟨p, p⟩

/-- The range at the very start of a document. -/
def origin : Range := point ⟨0, 0⟩

def isEmpty (r : Range) : Bool := r.start == r.stop

def contains (r : Range) (p : Position) : Bool := decide (r.start ≤ p) && decide (p < r.stop)

/-- The least range that holds both, when both are well formed. -/
def hull (r s : Range) : Range := between (min r.start s.start) (max r.stop s.stop)

end Range

end TlaDigest
