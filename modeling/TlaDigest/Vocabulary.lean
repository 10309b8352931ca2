/-!
# The vocabulary of TLA+

The vocabulary of TLA+: its operators, keywords and standard modules, in the order in which they are
offered.
-/

namespace TlaDigest.Vocabulary

/-- Operators that are written as a backslash and a name. -/
def operators : List String := [
  "E", "A", "X", "lnot", "land", "lor", "cdot", "equiv", "subseteq", "in", "notin", "intersect",
  "union", "leq", "geq", "cup", "cap"]

/-- Keywords that start a unit of a module. -/
def unitKeywords : List String := [
  "EXTENDS", "VARIABLE", "VARIABLES", "CONSTANT", "CONSTANTS", "ASSUME", "ASSUMPTION", "AXIOM",
  "THEOREM", "PROOF", "LEMMA", "PROPOSITION", "COROLLARY", "RECURSIVE"]

/-- Keywords that start a step of a proof. -/
def proofKeywords : List String := [
  "DEFINE", "QED", "HIDE", "SUFFICES", "PICK", "HAVE", "TAKE", "WITNESS"]

/-- Keywords that can stand inside an expression. -/
def innerKeywords : List String := [
  "LET", "IN", "EXCEPT", "ENABLED", "UNCHANGED", "LAMBDA", "DOMAIN", "CHOOSE", "LOCAL", "INSTANCE",
  "WITH", "SUBSET", "UNION", "SF_", "WF_", "USE", "BY", "DEF", "DEFS", "PROVE", "OBVIOUS", "NEW",
  "ACTION", "OMITTED", "ONLY", "STATE", "TEMPORAL", "IF", "THEN", "ELSE", "CASE", "OTHER",
  "BOOLEAN"]

def constants : List String := ["TRUE", "FALSE"]

def standardModules : List String := [
  "Bags", "FiniteSets", "Integers", "Naturals", "Randomization", "Reals", "RealTime", "Sequences",
  "TLC"]

end TlaDigest.Vocabulary
