import TlaDigest.Script.Octets

/-!
# Arithmetic in scripts

Whole numbers of sixty-four bits, variables, the operators of C without steps, and assignments.
Comparisons give one or zero.
-/

namespace TlaDigest.Script

open Text

inductive Operation where
  | add | sub | mul | div | rem
  | shiftLeft | shiftRight
  | less | lessEq | greater | greaterEq | equal | unequal
  | bitAnd | bitXor | bitOr
deriving DecidableEq, Repr

inductive Arithmetic where
  | number (n : Int)
  | binding (name : Octets)
  | negative (e : Arithmetic)
  | complement (e : Arithmetic)
  | negation (e : Arithmetic)
  | binary (op : Operation) (a b : Arithmetic)
  /-- The second counts when the first is not zero. -/
  | both (a b : Arithmetic)
  /-- The second counts when the first is zero. -/
  | either (a b : Arithmetic)
  | choice (condition yes no : Arithmetic)
  /-- Gives a variable the value of an expression, or that of an operation on what it had. -/
  | assign (name : Octets) (op : Option Operation) (e : Arithmetic)
deriving DecidableEq, Repr

inductive ArithmeticFault where
  | divisionByZero
  | expected (what : String)
  /-- The value of a variable is no number. -/
  | illegalNumber (text : Octets)
deriving DecidableEq, Repr

def ArithmeticFault.message (expression : Octets) : ArithmeticFault → Octets
  | .divisionByZero => "arithmetic expression: division by zero: \"".toList ++ expression ++ ['"']
  | .expected what =>
    ("arithmetic expression: expecting " ++ what ++ ": \"").toList ++ expression ++ ['"']
  | .illegalNumber text => "Illegal number: ".toList ++ text

def truth (p : Bool) : Int := if p then 1 else 0

/-- The value of an operation. Quotients are cut off toward zero, and there is none by zero. -/
def Operation.apply (op : Operation) (a b : Int) : Except ArithmeticFault Int :=
  match op with
  | .add => .ok (wrapped (a + b))
  | .sub => .ok (wrapped (a - b))
  | .mul => .ok (wrapped (a * b))
  | .div => if b = 0 then .error .divisionByZero else .ok (wrapped (a.tdiv b))
  | .rem => if b = 0 then .error .divisionByZero else .ok (a.tmod b)
  | .shiftLeft => .ok (wrapped (a * Nat.pow 2 (bits b % 64)))
  | .shiftRight => .ok (a.fdiv (Nat.pow 2 (bits b % 64)))
  | .less => .ok (truth (a < b))
  | .lessEq => .ok (truth (a ≤ b))
  | .greater => .ok (truth (b < a))
  | .greaterEq => .ok (truth (b ≤ a))
  | .equal => .ok (truth (a == b))
  | .unequal => .ok (truth (a != b))
  | .bitAnd => .ok (wrapped (bits a &&& bits b))
  | .bitXor => .ok (wrapped (bits a ^^^ bits b))
  | .bitOr => .ok (wrapped (bits a ||| bits b))

namespace Arithmetic

/-! ### Evaluation -/

abbrev Assigned := List (Octets × Int)

/-- A number from the value of a variable; no value counts as zero. -/
def valueNumber (text : Octets) : Except ArithmeticFault Int :=
  match text with
  | [] => .ok 0
  | text =>
    match signedAt? text with
    | some (n, rest) => if rest.all isSpace then .ok (wrapped n) else .error (.illegalNumber text)
    | none => .error (.illegalNumber text)

/-- The value of an expression and the assignments that it made, where `look` gives the variables
    theirs. -/
def eval (look : Octets → Octets) : Arithmetic → Assigned → Except ArithmeticFault (Int × Assigned)
  | .number n, s => .ok (n, s)
  | .binding name, s =>
    match s.lookup name with
    | some n => .ok (n, s)
    | none => (valueNumber (look name)).map fun n => (n, s)
  | .negative e, s => (e.eval look s).map fun (n, s) => (wrapped (-n), s)
  | .complement e, s => (e.eval look s).map fun (n, s) => (-n - 1, s)
  | .negation e, s => (e.eval look s).map fun (n, s) => (truth (n == 0), s)
  | .binary op a b, s => do
    let (m, s) ← a.eval look s
    let (n, s) ← b.eval look s
    let r ← op.apply m n
    pure (r, s)
  | .both a b, s => do
    let (m, s) ← a.eval look s
    if m == 0 then pure (0, s)
    else
      let (n, s) ← b.eval look s
      pure (truth (n != 0), s)
  | .either a b, s => do
    let (m, s) ← a.eval look s
    if m != 0 then pure (1, s)
    else
      let (n, s) ← b.eval look s
      pure (truth (n != 0), s)
  | .choice condition yes no, s => do
    let (m, s) ← condition.eval look s
    if m != 0 then yes.eval look s else no.eval look s
  | .assign name op e, s => do
    let (n, s) ← e.eval look s
    let r ← match op with
      | none => pure n
      | some op =>
        let m ← match s.lookup name with
          | some m => pure m
          | none => valueNumber (look name)
        op.apply m n
    pure (r, (name, r) :: s)

/-! ### Reading -/

inductive Token where
  | number (n : Int)
  | name (text : Octets)
  | mark (text : Octets)
deriving DecidableEq, Repr

/-- The marks; a longer one comes before what it starts with. -/
def marks : List String :=
  ["<<=", ">>=", "&&", "||", "==", "!=", "<=", ">=", "<<", ">>", "+=", "-=", "*=", "/=", "%=", "&=", "^=",
    "|=", "+", "-", "*", "/", "%", "<", ">", "!", "~", "&", "^", "|", "?", ":", "(", ")", "="]

def mark? (cs : Octets) : Option (Octets × Octets) :=
  marks.findSome? fun m => (after? m.toList cs).map fun rest => (m.toList, rest)

/-- The tokens of an expression. A character that belongs to none is a mark of its own, which nothing
    expects. -/
def tokens : Nat → Octets → List Token
  | 0, _ => []
  | fuel + 1, cs =>
    match cs.dropWhile isSpace with
    | [] => []
    | c :: cs =>
      let cs := c :: cs
      if isNameStart c then .name (cs.takeWhile isNameChar) :: tokens fuel (cs.dropWhile isNameChar)
      else
        match unsignedAt? cs with
        | some (n, rest) =>
          .number (within63 n) :: tokens fuel rest
        | none =>
          match mark? cs with
          | some (m, rest) => .mark m :: tokens fuel rest
          | none => [.mark [c]]
where
  /-- A numeral that is too large stands for the greatest number. -/
  within63 (n : Nat) : Int := if signedBounds.2 < n then signedBounds.2 else n

def levels : List (List (String × Operation)) := [
  [("|", .bitOr)], [("^", .bitXor)], [("&", .bitAnd)],
  [("==", .equal), ("!=", .unequal)],
  [("<=", .lessEq), (">=", .greaterEq), ("<", .less), (">", .greater)],
  [("<<", .shiftLeft), (">>", .shiftRight)],
  [("+", .add), ("-", .sub)],
  [("*", .mul), ("/", .div), ("%", .rem)]]

def assignments : List (String × Option Operation) := [
  ("=", none), ("+=", some .add), ("-=", some .sub), ("*=", some .mul), ("/=", some .div),
  ("%=", some .rem), ("<<=", some .shiftLeft), (">>=", some .shiftRight), ("&=", some .bitAnd),
  ("^=", some .bitXor), ("|=", some .bitOr)]

def meaning? {α : Type} (table : List (String × α)) : Token → Option α
  | .mark text => (table.find? fun e => e.1.toList == text).map (·.2)
  | _ => none

abbrev Parse := List Token → Except ArithmeticFault (Arithmetic × List Token)

/-- Expressions of one level, joined from left to right by its operators. -/
def chain (ops : List (String × Operation)) (tighter : Parse) : Nat → Arithmetic → Parse
  | 0, first, ts => .ok (first, ts)
  | fuel + 1, first, ts =>
    match ts with
    | t :: rest =>
      match meaning? ops t with
      | some op => do
        let (second, rest) ← tighter rest
        chain ops tighter fuel (.binary op first second) rest
      | none => .ok (first, t :: rest)
    | [] => .ok (first, [])

/-- Expressions whose operators belong to `levels`, over those of `primary`. -/
def level (primary : Parse) : List (List (String × Operation)) → Parse
  | [] => primary
  | ops :: tighter => fun ts => do
    let (first, rest) ← level primary tighter ts
    chain ops (level primary tighter) rest.length first rest

/-- Expressions over `primary`, joined from the right by `mark`. -/
def joined (mark : String) (join : Arithmetic → Arithmetic → Arithmetic) (inner : Parse) : Nat → Parse
  | 0 => inner
  | fuel + 1 => fun ts => do
    let (first, rest) ← inner ts
    match rest with
    | .mark text :: rest =>
      if text == mark.toList then
        let (second, rest) ← joined mark join inner fuel rest
        pure (join first second, rest)
      else pure (first, .mark text :: rest)
    | rest => pure (first, rest)

/-- A number, a variable, a sign, or an expression in parentheses. -/
def primary (whole self : Parse) : Parse
  | .number n :: rest => .ok (.number n, rest)
  | .name text :: rest => .ok (.binding text, rest)
  | .mark ['('] :: rest => do
    let (e, rest) ← whole rest
    match rest with
    | .mark [')'] :: rest => pure (e, rest)
    | _ => .error (.expected "')'")
  | .mark ['-'] :: rest => (self rest).map fun (e, rest) => (.negative e, rest)
  | .mark ['+'] :: rest => self rest
  | .mark ['!'] :: rest => (self rest).map fun (e, rest) => (.negation e, rest)
  | .mark ['~'] :: rest => (self rest).map fun (e, rest) => (.complement e, rest)
  | _ => .error (.expected "primary")

/-- A condition with its two outcomes, or an expression without. -/
def conditional (whole self primary : Parse) : Parse := fun ts => do
  let conjunction := joined "&&" .both (level primary levels) ts.length
  let (condition, rest) ← joined "||" .either conjunction ts.length ts
  match rest with
  | .mark ['?'] :: rest =>
    let (yes, rest) ← whole rest
    match rest with
    | .mark [':'] :: rest =>
      let (no, rest) ← self rest
      pure (.choice condition yes no, rest)
    | _ => .error (.expected "':'")
  | rest => pure (condition, rest)

/-- The readers of one depth of parentheses, signs and choices. -/
structure Readers where
  whole : Parse
  conditional : Parse
  primary : Parse

def assignment (whole conditional : Parse) : Parse
  | .name text :: t :: rest =>
    match meaning? assignments t with
    | some op => (whole rest).map fun (e, rest) => (.assign text op e, rest)
    | none => conditional (.name text :: t :: rest)
  | ts => conditional ts

def readers : Nat → Readers
  | 0 =>
    let fail : Parse := fun _ => .error (.expected "primary")
    ⟨fail, fail, fail⟩
  | depth + 1 =>
    let inner := readers depth
    let primary := primary inner.whole inner.primary
    let conditional := conditional inner.whole inner.conditional primary
    ⟨assignment inner.whole conditional, conditional, primary⟩

def parse (cs : Octets) : Except ArithmeticFault Arithmetic := do
  let ts := tokens (cs.length + 1) cs
  let (e, rest) ← (readers (ts.length + 1)).whole ts
  if rest.isEmpty then pure e else .error (.expected "EOF")

/-- The value of a text and the assignments that it makes, in their order. -/
def value (look : Octets → Octets) (text : Octets) : Except ArithmeticFault (Int × List (Octets × Int)) :=
  do
  let (n, assigned) ← (← parse text).eval look []
  pure (n, assigned.reverse)

end Arithmetic

end TlaDigest.Script
