import TlaDigest.Outline

/-!
# Landmarks

Navigation: the theorems and functions of a module as landmarks to jump to.
-/

namespace TlaDigest

structure Landmark where
  label : String
  description : String
  range : Range
deriving DecidableEq, Repr

namespace Outline

/-- What a landmark is called by the kind of its symbol; only theorems and functions are landmarks. -/
def landmarkWord? : SymbolKind → Option String
  | .boolean => some "(Theorem)"
  | .function => some "(Function)"
  | _ => none

def landmarks (o : Outline) : List Landmark :=
  o.symbols.filterMap fun s => (landmarkWord? s.kind).map fun word => ⟨s.name, word, s.range⟩

end Outline

/-- Where the cursor goes: the start of the definition. -/
def Landmark.selection (p : Landmark) : Range := .point p.range.start

end TlaDigest
