import TlaDigest.Script.Printf
import TlaDigest.Script.Regex

/-!
# Programs for records

Programs that look at records of text: rules with a pattern and an action, and functions. A value is
text, a number, or text that was read and looks like a number, which counts as either.
-/

namespace TlaDigest.Script.Awk

open Text

/-! ### Programs -/

inductive Operation where
  | add
  | subtract
  | multiply
  | divide
  | remainder
  | power
deriving DecidableEq, Repr

inductive Comparison where
  | less
  | lessOrEqual
  | equal
  | different
  | greater
  | greaterOrEqual
deriving DecidableEq, Repr

inductive Expr where
  | number (x : Float)
  | text (s : Octets)
  | pattern (r : Regex)
  | name (n : Octets)
  | element (array : Octets) (key : List Expr)
  | field (index : Expr)
  | tuple (items : List Expr)
  | assigned (operation : Option Operation) (target value : Expr)
  | chosen (condition yes no : Expr)
  | both (a b : Expr)
  | either (a b : Expr)
  | negated (a : Expr)
  /-- A number with its sign, perhaps changed. -/
  | signed (changes : Bool) (a : Expr)
  | calculated (operation : Operation) (a b : Expr)
  | joined (a b : Expr)
  | compared (comparison : Comparison) (a b : Expr)
  | fits (wanted : Bool) (subject pattern : Expr)
  | member (key : List Expr) (array : Octets)
  /-- One more or one less; the value is the one before it or the one after it. -/
  | stepped (before up : Bool) (target : Expr)
  | called (function : Octets) (args : List Expr)
  | computed (function : String) (args : List Expr)
  /-- The next record, of the input or of a file. -/
  | read (target : Option Expr) (file : Option Expr)
  /-- The next record that a command prints. -/
  | readFrom (target : Option Expr) (command : Expr)

inductive Sink where
  | file (appends : Bool)
  | command
deriving DecidableEq, Repr

inductive Action where
  | block (list : List Action)
  | value (e : Expr)
  | print (formatted : Bool) (args : List Expr) (sink : Option (Sink × Expr))
  | branch (condition : Expr) (yes : Action) (no : Option Action)
  /-- A loop whose condition is looked at before or after each round, with a step after each round. -/
  | loop (condition : Option Expr) (checksFirst : Bool) (body : Action) (step : Option Action)
  | each (name array : Octets) (body : Action)
  | delete (array : Octets) (key : Option (List Expr))
  | leave
  | skip
  | next
  | nextFile
  | exit (status : Option Expr)
  | back (value : Option Expr)

inductive Selector where
  | first
  | last
  | always
  | each (condition : Expr)
  | range (start stop : Expr)

structure Rule where
  selector : Selector
  action : Option Action

structure Function where
  name : Octets
  parameters : List Octets
  body : Action

structure Program where
  rules : List Rule
  functions : List Function

/-! ### Numbers -/

def numericOf (x : Float) : Numeric :=
  let n := x.toBits.toNat
  let negative := 0 < n / Nat.pow 2 63
  let exponent := n / Nat.pow 2 52 % 2048
  let digits := n % Nat.pow 2 52
  if exponent = 2047 then if digits = 0 then .infinite negative else .undefined negative
  else if exponent = 0 then .finite negative digits (Nat.pow 2 1074)
  else
    let digits := digits + Nat.pow 2 52
    if 1075 ≤ exponent then .finite negative (digits * Nat.pow 2 (exponent - 1075)) 1
    else .finite negative digits (Nat.pow 2 (1075 - exponent))

def floatOf (x : Numeric) : Float :=
  let signed (negative : Bool) (y : Float) : Float := if negative then -y else y
  match x.rounded binary64 with
  | .finite negative num den => signed negative ((Float.ofNat num).scaleB (-(Nat.log2 den : Nat)))
  | .infinite negative => signed negative (1.0 / 0.0)
  | .undefined negative => signed negative (0.0 / 0.0)

def truncated (x : Float) : Int :=
  match numericOf x with
  | .finite negative num den => if negative then -((num / den : Nat) : Int) else ((num / den : Nat) : Int)
  | .infinite negative => if negative then signedBounds.1 else signedBounds.2
  | .undefined _ => signedBounds.1

def isWhole (x : Float) : Bool :=
  match numericOf x with
  | .finite _ num den => num % den == 0
  | _ => false

def remainderOf (x y : Float) : Float :=
  match numericOf x, numericOf y with
  | .finite negative a b, .finite _ c d =>
    if c = 0 then 0.0 / 0.0 else floatOf (.finite negative ((a * d) % (c * b)) (b * d))
  | .finite .., .infinite _ => x
  | _, _ => 0.0 / 0.0

def Operation.value (o : Operation) (x y : Float) : Float :=
  match o with
  | .add => x + y
  | .subtract => x - y
  | .multiply => x * y
  | .divide => x / y
  | .remainder => remainderOf x y
  | .power => x.pow y

/-! ### Values -/

inductive Cell where
  | unset
  | number (x : Float)
  | text (s : Octets)
  | numeral (s : Octets) (x : Float)

namespace Cell

def ofBool (b : Bool) : Cell := .number (if b then 1 else 0)

def ofNat (n : Nat) : Cell := .number (Float.ofNat n)

def ofInput (s : Octets) : Cell :=
  match numericAt? s with
  | some (x, rest) => if rest.all isSpace then .numeral s (floatOf x) else .text s
  | none => .text s

/-- The value as a number: that of the number at the front of a text. -/
def toFloat : Cell → Float
  | .unset => 0
  | .number x => x
  | .numeral _ x => x
  | .text s => ((numericAt? s).map fun (x, _) => floatOf x).getD 0

def isNumber : Cell → Bool
  | .text _ => false
  | _ => true

end Cell

def numberText (format : Octets → Float → Octets) (directive : Octets) (x : Float) : Octets :=
  let n := truncated x
  if isWhole x && signedBounds.1 ≤ n && n < wordSize then Script.numeral n else format directive x

end TlaDigest.Script.Awk
