import TlaDigest.Position

/-!
# Outlines

The outline of a module: the symbols it defines and the extent of its PlusCal algorithm, if it has
one. Kinds of symbols have the numbers that editors exchange.
-/

namespace TlaDigest

/-- The kind of a symbol. Theorems are of kind `boolean`. -/
inductive SymbolKind where
  | module
  | nameSpace
  | method
  | field
  | function
  | variable
  | constant
  | boolean
  /-- Any other kind, by its number. -/
  | other (number : Int)
deriving DecidableEq, Repr

namespace SymbolKind

def ofNumber : Int → SymbolKind
  | 2 => .module
  | 3 => .nameSpace
  | 6 => .method
  | 8 => .field
  | 12 => .function
  | 13 => .variable
  | 14 => .constant
  | 17 => .boolean
  | n => .other n

end SymbolKind

structure Symbol where
  name : String
  kind : SymbolKind
  range : Range
deriving DecidableEq, Repr

/-- What is known about a module. -/
structure Outline where
  symbols : List Symbol
  algorithm : Option Range
deriving DecidableEq, Repr

namespace Outline

/-- The position is in the PlusCal algorithm; both ends belong to it. -/
def inAlgorithm (o : Outline) (p : Position) : Bool :=
  match o.algorithm with
  | some r => decide (r.start ≤ p) && decide (p ≤ r.stop)
  | none => false

end Outline

end TlaDigest
