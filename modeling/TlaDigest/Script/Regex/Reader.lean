import TlaDigest.Script.Regex

/-!
# How regular expressions are written

In the basic form groups, alternatives and bounds are marked by a backslash; in the extended form
the bare characters mark them.
-/

namespace TlaDigest.Script

open Text

inductive RegexError where
  | unclosedGroup
  | strayClose
  | unclosedBracket
  /-- There is nothing after the bracket that opens a set. -/
  | emptyBracket
  | unclosedBound
  | badBound
  | tooBig
  | badRange
  | badClass
  | badCollation
  | badReference
  | trailingBackslash
  | nothingToRepeat
  /-- The name of a set stands in one pair of brackets instead of two. -/
  | bareClass
deriving DecidableEq, Repr

def RegexError.message : RegexError → String
  | .unclosedGroup => "Unmatched ( or \\("
  | .strayClose => "Unmatched ) or \\)"
  | .unclosedBracket => "Unmatched [, [^, [:, [., or [="
  | .emptyBracket => "Invalid regular expression"
  | .unclosedBound => "Unmatched \\\x7b"
  | .badBound => "Invalid content of \\\x7b\\\x7d"
  | .tooBig => "Regular expression too big"
  | .badRange => "Invalid range end"
  | .badClass => "Invalid character class name"
  | .badCollation => "Invalid collation character"
  | .badReference => "Invalid back reference"
  | .trailingBackslash => "Trailing backslash"
  | .nothingToRepeat => "Invalid preceding regular expression"
  | .bareClass => "character class syntax is [[:space:]], not [:space:]"

structure RegexForm where
  extended : Bool
  foldsCase : Bool
  /-- What has nothing to repeat, and a bracket that closes nothing, is a fault. -/
  strict : Bool
deriving DecidableEq, Repr

namespace RegexReader

inductive Token where
  | char (c : Char)
  | set (s : CharSet)
  | anchor (a : Anchor)
  | bracket
  | start
  | stop
  | star
  | plus
  | maybe
  | openBound
  | openGroup
  | closeGroup
  | bar
  | back (index : Nat)
deriving DecidableEq, Repr

def wordSet : CharSet := ⟨false, [('0', '9'), ('A', 'Z'), ('_', '_'), ('a', 'z')]⟩

def spaceSet : CharSet := ⟨false, [('\t', '\r'), (' ', ' ')]⟩

def escapeToken (form : RegexForm) (c : Char) : Token :=
  let marked (token : Token) : Token := if form.extended then .char c else token
  match c with
  | '(' => marked .openGroup
  | ')' => marked .closeGroup
  | '\x7b' => marked .openBound
  | '|' => marked .bar
  | '+' => marked .plus
  | '?' => marked .maybe
  | 'w' => .set wordSet
  | 'W' => .set { wordSet with negated := true }
  | 's' => .set spaceSet
  | 'S' => .set { spaceSet with negated := true }
  | 'b' => .anchor .wordEdge
  | 'B' => .anchor .notWordEdge
  | '<' => .anchor .wordStart
  | '>' => .anchor .wordEnd
  | c =>
    if c == Char.ofNat 96 then .anchor .textStart
    else if c == apostrophe then .anchor .textEnd
    else if '1' ≤ c && c ≤ '9' then .back (c.toNat - '0'.toNat)
    else .char c

def plainToken (form : RegexForm) (c : Char) : Token :=
  let bare (token : Token) : Token := if form.extended then token else .char c
  match c with
  | '(' => bare .openGroup
  | ')' => bare .closeGroup
  | '\x7b' => bare .openBound
  | '|' => bare .bar
  | '+' => bare .plus
  | '?' => bare .maybe
  | '*' => .star
  | '.' => .set .all
  | '[' => .bracket
  | '^' => .start
  | '$' => .stop
  | c => .char c

def token? (form : RegexForm) : Octets → Except RegexError (Option (Token × Octets))
  | [] => .ok none
  | ['\\'] => .error .trailingBackslash
  | '\\' :: c :: cs => .ok (some (escapeToken form c, cs))
  | c :: cs => .ok (some (plainToken form c, cs))

/-! ### Brackets -/

inductive Member where
  | char (c : Char)
  | ranges (list : List (Char × Char))

/-- The text up to a mark and a bracket, and what follows. -/
def upTo? (mark : Char) : Octets → Option (Octets × Octets)
  | [] => none
  | [_] => none
  | c :: d :: cs =>
    if c == mark && d == ']' then some ([], cs)
    else (upTo? mark (d :: cs)).map fun (text, rest) => (c :: text, rest)

def member : Octets → Except RegexError (Member × Octets)
  | '[' :: ':' :: rest =>
    match upTo? ':' rest with
    | none => .error .unclosedBracket
    | some (name, rest) =>
      match CharSet.named? name with
      | some ranges => .ok (.ranges ranges, rest)
      | none => .error .badClass
  | '[' :: '=' :: rest =>
    match upTo? '=' rest with
    | none => .error .unclosedBracket
    | some ([c], rest) => .ok (.ranges [(c, c)], rest)
    | some _ => .error .badCollation
  | '[' :: '.' :: rest =>
    match upTo? '.' rest with
    | none => .error .unclosedBracket
    | some ([c], rest) => .ok (.char c, rest)
    | some _ => .error .badCollation
  | c :: rest => .ok (.char c, rest)
  | [] => .error .unclosedBracket

/-- The members up to the bracket that closes, and what follows. Each step takes a character, so their
    number is fuel enough. -/
def members : Nat → Bool → Octets → Except RegexError (List (Char × Char) × Octets)
  | 0, _, _ => .error .unclosedBracket
  | fuel + 1, first, text =>
    match text, first with
    | ']' :: rest, false => .ok ([], rest)
    | text, _ => do
      let (item, rest) ← member text
      let (here, rest) ← match item, rest with
        | .char low, '-' :: ']' :: rest => pure ([(low, low)], '-' :: ']' :: rest)
        | .char low, '-' :: rest => do
          match ← member rest with
          | (.char high, rest) =>
            if high < low then .error .badRange else pure ([(low, high)], rest)
          | _ => .error .badRange
        | .char c, rest => pure ([(c, c)], rest)
        | .ranges list, rest => pure (list, rest)
      let (more, rest) ← members fuel false rest
      return (here ++ more, rest)

def isBareClass (text : Octets) : Bool :=
  match text with
  | ':' :: rest =>
    let name := rest.takeWhile (· != ']')
    rest.length != name.length && 1 < name.length && name.getLast? == some ':'
  | _ => false

/-- The set in brackets, and what follows. The text starts after the opening bracket. -/
def bracket (text : Octets) : Except RegexError (CharSet × Octets) := do
  if isBareClass text then .error .bareClass
  let (negated, text) := match text with
    | '^' :: rest => (true, rest)
    | rest => (false, rest)
  if text.isEmpty then .error .emptyBracket
  let (ranges, rest) ← members (text.length + 1) true text
  return (⟨negated, ranges⟩, rest)

/-! ### Bounds -/

def maxBound : Nat := 32767

/-- The text between the marks of a bound, and what follows. -/
def boundText? (form : RegexForm) : Octets → Option (Octets × Octets)
  | [] => none
  | c :: cs =>
    match form.extended, c, cs with
    | true, '\x7d', cs => some ([], cs)
    | false, '\\', '\x7d' :: cs => some ([], cs)
    | _, c, cs => (boundText? form cs).map fun (text, rest) => (c :: text, rest)

def bounds? (text : Octets) : Option (Nat × Option Nat) :=
  let number? (text : Octets) : Option Nat := if text.all isDecimalDigit then nat? text else none
  match cutAt (· == ',') text with
  | (least, []) => (number? least).map fun n => (n, some n)
  | ([], _ :: []) => some (0, none)
  | (least, _ :: []) => (number? least).map fun n => (n, none)
  | ([], _ :: most) => (number? most).map fun n => (0, some n)
  | (least, _ :: most) => do
    let m ← number? least
    let n ← number? most
    return (m, some n)

/-- Reads a bound. The text starts after its opening mark. There is none where the mark stands for
    itself. -/
def bound? (form : RegexForm) (text : Octets) :
    Except RegexError (Option ((Nat × Option Nat) × Octets)) :=
  let lenient := form.extended && !form.strict
  match boundText? form text with
  | none => if lenient then .ok none else .error .unclosedBound
  | some (inside, rest) =>
    match bounds? inside with
    | none => if lenient then .ok none else .error .badBound
    | some (least, most) =>
      if (most.map (decide <| · < least)).getD false then .error .badBound
      else if maxBound < max least (most.getD 0) then .error .tooBig
      else .ok (some ((least, most), rest))

/-! ### Expressions -/

structure Progress where
  rest : Octets
  opened : Nat
  closed : List Nat
  /-- What was repeated without being there. -/
  warnings : List Octets

abbrev ReaderM := StateT Progress (Except RegexError)

def peek (form : RegexForm) : ReaderM (Option (Token × Octets)) := do
  match token? form (← get).rest with
  | .ok t => return t
  | .error e => throw e

def goTo (rest : Octets) : ReaderM Unit := modify fun p => { p with rest := rest }

def setOf (form : RegexForm) (s : CharSet) : Regex := .one (if form.foldsCase then s.folded else s)

def endsBranch : Option (Token × Octets) → Bool
  | none => true
  | some (.bar, _) => true
  | some (.closeGroup, _) => true
  | _ => false

/-- The repetition at the front, if there is one: its bounds, its spelling in messages, and what follows. -/
def repetition? (form : RegexForm) :
    ReaderM (Option ((Nat × Option Nat) × Octets × Octets)) := do
  match ← peek form with
  | some (.star, rest) => return some ((0, none), ['*'], rest)
  | some (.plus, rest) => return some ((1, none), ['+'], rest)
  | some (.maybe, rest) => return some ((0, some 1), ['?'], rest)
  | some (.openBound, rest) =>
    match bound? form rest with
    | .ok (some (bounds, rest)) => return some (bounds, "\x7b...\x7d".toList, rest)
    | .ok none => return none
    | .error e => throw e
  | _ => return none

/-- An expression with the repetitions after it. Each takes a character, so the text bounds them. -/
def repeating (form : RegexForm) : Nat → Bool → Regex → ReaderM Regex
  | 0, _, r => return r
  | fuel + 1, again, r => do
    match ← repetition? form with
    | none => return r
    | some ((least, most), _, rest) =>
      if again && form.strict && !form.extended then throw .nothingToRepeat
      goTo rest
      repeating form fuel true (r.repeated least most)

/-- One part of a branch, without repetitions. The answer tells also whether it can be repeated. -/
def part (form : RegexForm) (inner : Nat → ReaderM Regex) (depth : Nat) (first : Bool)
    (token : Token) (rest : Octets) : ReaderM (Regex × Bool) := do
  goTo rest
  match token with
  | .char c => return (setOf form (.only c), true)
  | .set s => return (setOf form s, true)
  | .anchor a => return (.anchor a, true)
  | .bracket =>
    match bracket rest with
    | .ok (s, rest) =>
      goTo rest
      return (setOf form s, true)
    | .error e => throw e
  | .start =>
    if form.extended || first then return (.anchor .lineStart, form.extended && !form.strict)
    else return (setOf form (.only '^'), true)
  | .stop =>
    if form.extended || endsBranch (← peek form) then return (.anchor .lineEnd, true)
    else return (setOf form (.only '$'), true)
  | .openGroup =>
    let index := (← get).opened + 1
    modify fun p => { p with opened := index }
    let body ← inner (depth + 1)
    match ← peek form with
    | some (.closeGroup, rest) =>
      modify fun p => { p with rest := rest, closed := index :: p.closed }
      return (.group index body, true)
    | _ => throw .unclosedGroup
  | .closeGroup => return (setOf form (.only ')'), true)
  | .back n =>
    if (← get).closed.contains n then return (.back n, true) else throw .badReference
  | .star => return (setOf form (.only '*'), true)
  | .plus => return (setOf form (.only '+'), true)
  | .maybe => return (setOf form (.only '?'), true)
  | .openBound => return (setOf form (.only '\x7b'), true)
  | .bar => return (.empty, true)

/-- A repetition at the start of a branch, where there is nothing to repeat. It is passed over in the
    extended form, or a fault, and else its mark stands for itself. The answer is what follows one that is
    passed over. -/
def strayRepetition (form : RegexForm) (first : Bool) (token : Token) : ReaderM (Option Octets) := do
  match ← if first then repetition? form else pure none with
  | none => return none
  | some (_, shown, after) =>
    if form.strict && (form.extended || token == .openBound) then throw .nothingToRepeat
    else if form.extended then
      modify fun p => { p with warnings := p.warnings ++ [shown ++ " at start of expression".toList] }
      return some after
    else return none

def branch (form : RegexForm) (inner : Nat → ReaderM Regex) (depth : Nat) : Nat → Bool → ReaderM Regex
  | 0, _ => return .empty
  | fuel + 1, first => do
    match ← peek form with
    | none => return .empty
    | some (token, rest) =>
      if token == .bar then return .empty
      else if token == .closeGroup && (0 < depth || form.strict || !form.extended) then
        if depth == 0 then throw .strayClose
        return .empty
      else
        match ← strayRepetition form first token with
        | some after =>
          goTo after
          branch form inner depth fuel true
        | none =>
          let (r, repeatable) ← part form inner depth first token rest
          if repeatable then
            let r ← repeating form fuel false r
            return .sequence r (← branch form inner depth fuel false)
          else return .sequence r (← branch form inner depth fuel true)

def branches (form : RegexForm) (inner : Nat → ReaderM Regex) (depth : Nat) : Nat → ReaderM Regex
  | 0 => return .empty
  | fuel + 1 => do
    let first ← branch form inner depth (fuel + 1) true
    match ← peek form with
    | some (.bar, rest) =>
      goTo rest
      return .either first (← branches form inner depth fuel)
    | _ => return first

def expression (form : RegexForm) : Nat → Nat → ReaderM Regex
  | 0, _ => throw .unclosedGroup
  | fuel + 1, depth => do
    branches form (expression form fuel) depth ((← get).rest.length + 1)

end RegexReader

structure ReadRegex where
  regex : Regex
  groups : Nat
  warnings : List Octets

open RegexReader in
def Regex.ofText (form : RegexForm) (text : Octets) : Except RegexError ReadRegex :=
  match (expression form (text.length + 1) 0).run ⟨text, 0, [], []⟩ with
  | .ok (r, p) => .ok ⟨r, p.opened, p.warnings⟩
  | .error e => .error e

end TlaDigest.Script
