import TlaDigest.Script.CharSet

/-!
# Regular expressions

An expression maps states to states: a state is a place in the text, with the groups that were
matched on the way there. States are kept in the order in which they are preferred, which is the
longest part first for whatever comes first in an expression; of a match as a whole the longest is
taken.
-/

namespace TlaDigest.Script

inductive Anchor where
  | lineStart
  | lineEnd
  | textStart
  | textEnd
  | wordStart
  | wordEnd
  | wordEdge
  | notWordEdge
deriving DecidableEq, Repr

inductive Regex where
  | empty
  | one (set : CharSet)
  | anchor (a : Anchor)
  | sequence (first second : Regex)
  | either (first second : Regex)
  | star (body : Regex)
  | group (index : Nat) (body : Regex)
  | back (index : Nat)
deriving Repr

namespace Regex

def isWordChar (c : Char) : Bool := isNameChar c

def refersBack : Regex → Bool
  | .sequence a b => a.refersBack || b.refersBack
  | .either a b => a.refersBack || b.refersBack
  | .star body => body.refersBack
  | .group _ body => body.refersBack
  | .back _ => true
  | _ => false

def times (body : Regex) : Nat → Regex
  | 0 => .empty
  | 1 => body
  | n + 1 => .sequence body (times body n)

def upTo (body : Regex) : Nat → Regex
  | 0 => .empty
  | n + 1 => .either (.sequence body (upTo body n)) .empty

def repeated (body : Regex) (least : Nat) (most : Option Nat) : Regex :=
  match most with
  | none => if least == 0 then .star body else .sequence (times body least) (.star body)
  | some most =>
    if most == 0 then .empty
    else if least == most then times body least
    else if least == 0 then upTo body most
    else .sequence (times body least) (upTo body (most - least))

/-! ### Matching -/

/-- The groups that were matched, the latest first, by where they start and end. -/
abbrev Groups := List (Nat × Nat × Nat)

/-- A place in a text, and the groups that were matched on the way. -/
structure State where
  position : Nat
  groups : Groups
deriving DecidableEq, Repr

structure Subject where
  text : Array Char
  lines : Bool
  exact : Bool

namespace Subject

def wordAt (s : Subject) (i : Nat) : Bool := ((s.text[i]?).map isWordChar).getD false

def wordBefore (s : Subject) : Nat → Bool
  | 0 => false
  | i + 1 => s.wordAt i

def startsLine (s : Subject) : Nat → Bool
  | 0 => true
  | i + 1 => s.lines && s.text[i]? == some '\n'

def meets (s : Subject) (a : Anchor) (i : Nat) : Bool :=
  match a with
  | .lineStart => s.startsLine i
  | .lineEnd => i == s.text.size || (s.lines && s.text[i]? == some '\n')
  | .textStart => i == 0
  | .textEnd => i == s.text.size
  | .wordStart => s.wordAt i && !s.wordBefore i
  | .wordEnd => !s.wordAt i && s.wordBefore i
  | .wordEdge => s.wordAt i != s.wordBefore i
  | .notWordEdge => s.wordAt i == s.wordBefore i

end Subject

structure Visited where
  exact : Bool
  marks : Array (List Groups)

namespace Visited

def none (s : Subject) : Visited := ⟨s.exact, Array.replicate (s.text.size + 1) []⟩

def add? (v : Visited) (s : State) : Option Visited :=
  let key := if v.exact then s.groups else []
  let known := (v.marks[s.position]?).getD []
  if known.contains key then Option.none
  else some { v with marks := v.marks.setIfInBounds s.position (key :: known) }

def fresh (v : Visited) (states : List State) : Visited × List State :=
  let (v, found) := states.foldl (fun (acc : Visited × List State) s =>
    match acc.1.add? s with
    | some v => (v, s :: acc.2)
    | Option.none => acc) (v, [])
  (v, found.reverse)

end Visited

def distinct (s : Subject) (states : List State) : List State :=
  match states with
  | [] => []
  | [a] => [a]
  | states => ((Visited.none s).fresh states).2

def farthestFirst (states : List State) : List State :=
  states.mergeSort fun a b => b.position ≤ a.position

/-- All states that a step leads to, again and again. Every state that waits was not met before, so the
    number of states bounds the recursion. -/
def closure (step : State → List State) : Nat → Visited → List State → List State → Visited × List State
  | 0, v, _, found => (v, found)
  | _ + 1, v, [], found => (v, found)
  | fuel + 1, v, state :: rest, found =>
    let (v, more) := v.fresh (step state)
    closure step fuel v (more ++ rest) (state :: found)

def starFrom (s : Subject) (step : State → List State) (states : List State) : List State :=
  let bound := (s.text.size + 2) * (if s.exact then s.text.size + 2 else 1)
  (states.foldl (fun (acc : Visited × List State) state =>
    match acc.1.add? state with
    | some v =>
      let (v, found) := closure step bound v [state] []
      (v, acc.2 ++ farthestFirst found.reverse)
    | Option.none => acc) (Visited.none s, [])).2

/-- The text of a group, if it stands at a place as well. -/
def backAt (s : Subject) (index : Nat) (state : State) : Option State := do
  let (start, stop) ← state.groups.lookup index
  let size := stop - start
  if (s.text.extract start stop).toList == (s.text.extract state.position (state.position + size)).toList
  then some { state with position := state.position + size } else none

def states (s : Subject) : Regex → List State → List State
  | .empty, from₀ => from₀
  | .one set, from₀ => from₀.filterMap fun state =>
    match s.text[state.position]? with
    | some c => if set.has c then some { state with position := state.position + 1 } else none
    | none => none
  | .anchor a, from₀ => from₀.filter fun state => s.meets a state.position
  | .sequence a b, from₀ => states s b (distinct s (states s a from₀))
  | .either a b, from₀ =>
    distinct s (from₀.flatMap fun state => farthestFirst (states s a [state] ++ states s b [state]))
  | .star body, from₀ => starFrom s (fun state => states s body [state]) from₀
  | .group index body, from₀ =>
    distinct s (from₀.flatMap fun state =>
      (farthestFirst (states s body [state])).map fun after =>
        { after with groups := (index, state.position, after.position) ::
            after.groups.filter fun g => g.1 != index })
  | .back index, from₀ => from₀.filterMap (backAt s index)

def matchAt? (r : Regex) (s : Subject) (start : Nat) : Option State :=
  (farthestFirst (r.states s [⟨start, []⟩])).head?

/-- The first match from a place on: where it starts, and its state. The places up to the end bound the
    search. -/
def searchFrom? (r : Regex) (s : Subject) (start : Nat) : Option (Nat × State) :=
  (List.range (s.text.size + 1 - start)).findSome? fun i =>
    (r.matchAt? s (start + i)).map fun state => (start + i, state)

def subject (r : Regex) (lines : Bool) (text : Octets) : Subject := ⟨text.toArray, lines, r.refersBack⟩

def Subject.part (s : Subject) (start stop : Nat) : Octets := (s.text.extract start stop).toList

/-- The text of a group, empty where it was not matched. -/
def State.groupText (state : State) (s : Subject) (index : Nat) : Octets :=
  ((state.groups.lookup index).map fun (start, stop) => s.part start stop).getD []

end Regex

end TlaDigest.Script
