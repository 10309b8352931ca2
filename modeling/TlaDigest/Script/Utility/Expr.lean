import TlaDigest.Script.Regex.Reader
import TlaDigest.Script.Utility.Ordering

/-!
# Expressions as arguments

Expressions whose operators and operands are arguments. Numbers have any size. The operators from
`|` down to `:` bind tighter step by step; an operand whose value does not matter is read, but not
computed.
-/

namespace TlaDigest.Script.Utility

open Text JobM

inductive ExprValue where
  | number (n : Int)
  | text (t : Octets)
deriving DecidableEq, Repr

namespace ExprValue

def shown : ExprValue → Octets
  | .number n => numeral n
  | .text t => t

/-- The number that a value is, if its text is a numeral. -/
def number? : ExprValue → Option Int
  | .number n => some n
  | .text ('-' :: cs) =>
    if !cs.isEmpty && cs.all isDecimalDigit then (nat? cs).map fun n => -(n : Int) else none
  | .text cs => if !cs.isEmpty && cs.all isDecimalDigit then (nat? cs).map fun n => (n : Int) else none

def isNull (v : ExprValue) : Bool := v == .text [] || v.number? == some 0

def ofBool (p : Bool) : ExprValue := .number (if p then 1 else 0)

/-- Values compared: as numbers if both are, and else as texts. -/
def order (a b : ExprValue) : Ordering :=
  match a.number?, b.number? with
  | some m, some n => compare m n
  | _, _ => byteOrder a.shown b.shown

end ExprValue

/-- The arguments that are left, and the one before them. -/
structure ExprArgs where
  before : Option Octets
  rest : List Octets

abbrev ExprM := StateT ExprArgs JobM

namespace Expr

def wrong {α : Type} (text : Octets) : ExprM α := die ("syntax error: ".toList ++ text) 2

def take : ExprM Octets := do
  match ← get with
  | ⟨_, arg :: rest⟩ =>
    set (ExprArgs.mk (some arg) rest)
    return arg
  | ⟨before, []⟩ => wrong ("missing argument after ".toList ++ quotedName (before.getD []))

def takeOne (args : List String) : ExprM (Option String) := do
  match (← get).rest with
  | arg :: _ =>
    match args.find? fun a => a.toList == arg with
    | some a =>
      let _ ← take
      return some a
    | none => return none
  | [] => return none

def numberOf (v : ExprValue) : ExprM Int := do
  match v.number? with
  | some n => return n
  | none => die "non-integer argument".toList 2

/-- Matches a text from its start on: the first group, or else the length of the match. -/
def matched (text pattern : ExprValue) : ExprM ExprValue := do
  match Regex.ofText ⟨false, false, false⟩ pattern.shown with
  | .error fault => die fault.message.toList 2
  | .ok read =>
    let s := read.regex.subject false text.shown
    match read.regex.matchAt? s 0 with
    | none => return if read.groups == 0 then .number 0 else .text []
    | some state =>
      return if read.groups == 0 then .number state.position else .text (state.groupText s 1)

def portion (text : Octets) (start size : ExprValue) : ExprValue :=
  match start.number?, size.number? with
  | some i, some n => if i ≤ 0 || n ≤ 0 then .text [] else .text ((text.drop (i.toNat - 1)).take n.toNat)
  | _, _ => .text []

/-- The place of the first character of a text that is among some. -/
def placeAmong (text among : Octets) : ExprValue :=
  .number (((text.findIdx? among.contains).map fun (i : Nat) => (i : Int) + 1).getD 0)

/-- An operand: an argument, or an expression in parentheses. -/
def operand (inner : ExprM ExprValue) : ExprM ExprValue := do
  let arg ← take
  if arg == ['('] then
    let v ← inner
    match (← get).rest with
    | [')'] :: _ =>
      let _ ← take
      return v
    | [] =>
      wrong ("expecting ')' after ".toList ++ quotedName ((← get).before.getD []))
    | other :: _ => wrong ("expecting ')' instead of ".toList ++ quotedName other)
  else if arg == [')'] then wrong "unexpected ')'".toList
  else return .text arg

/-- An operand, or a word for something that is done with operands. Each word takes an argument, so their
    number bounds the words. -/
def worded (inner : ExprM ExprValue) (evaluates : Bool) : Nat → ExprM ExprValue
  | 0 => operand inner
  | fuel + 1 => do
    match ← takeOne ["+", "length", "match", "index", "substr"] with
    | some "+" => return .text (← take)
    | some "length" => return .number ((← worded inner evaluates fuel).shown.length : Nat)
    | some "match" =>
      let text ← worded inner evaluates fuel
      let pattern ← worded inner evaluates fuel
      if evaluates then matched text pattern else return text
    | some "index" =>
      let text ← worded inner evaluates fuel
      let among ← worded inner evaluates fuel
      return placeAmong text.shown among.shown
    | some _ =>
      let text ← worded inner evaluates fuel
      let start ← worded inner evaluates fuel
      let size ← worded inner evaluates fuel
      return portion text.shown start size
    | none => operand inner

/-- Operands with operators between them, from left to right. -/
def chain (ops : List String) (next : ExprM ExprValue) (apply : String → ExprValue → ExprValue → ExprM ExprValue) :
    Nat → ExprValue → ExprM ExprValue
  | 0, v => return v
  | fuel + 1, v => do
    match ← takeOne ops with
    | none => return v
    | some op => chain ops next apply fuel (← apply op v (← next))

def arithmetic (evaluates : Bool) (op : String) (a b : ExprValue) : ExprM ExprValue := do
  if !evaluates then return a
  let m ← numberOf a
  let n ← numberOf b
  match op with
  | "+" => return .number (m + n)
  | "-" => return .number (m - n)
  | "*" => return .number (m * n)
  | op =>
    if n == 0 then die "division by zero".toList 2
    return .number (if op == "/" then m.tdiv n else m.tmod n)

def comparison (op : String) (a b : ExprValue) : ExprM ExprValue :=
  let o := a.order b
  return .ofBool (match op with
    | "<" => o == .lt
    | "<=" => o != .gt
    | "=" => o == .eq
    | "==" => o == .eq
    | "!=" => o != .eq
    | ">=" => o != .lt
    | _ => o == .gt)

def compared (inner : ExprM ExprValue) (evaluates : Bool) (fuel : Nat) : ExprM ExprValue := do
  let matching : ExprM ExprValue := do
    chain [":"] (worded inner evaluates fuel)
      (fun _ a b => if evaluates then matched a b else return a) fuel (← worded inner evaluates fuel)
  let product : ExprM ExprValue := do
    chain ["*", "/", "%"] matching (arithmetic evaluates) fuel (← matching)
  let sum : ExprM ExprValue := do
    chain ["+", "-"] product (arithmetic evaluates) fuel (← product)
  chain ["<", "<=", "=", "==", "!=", ">=", ">"] sum comparison fuel (← sum)

def conjunction (inner : Bool → ExprM ExprValue) (evaluates : Bool) (fuel : Nat) : Nat → ExprValue →
    ExprM ExprValue
  | 0, v => return v
  | rounds + 1, v => do
    match ← takeOne ["&"] with
    | none => return v
    | some _ =>
      let goesOn := evaluates && !v.isNull
      let w ← compared (inner goesOn) goesOn fuel
      conjunction inner evaluates fuel rounds (if v.isNull || w.isNull then .number 0 else v)

def disjunction (inner : Bool → ExprM ExprValue) (evaluates : Bool) (fuel : Nat) : Nat → ExprValue →
    ExprM ExprValue
  | 0, v => return v
  | rounds + 1, v => do
    match ← takeOne ["|"] with
    | none => return v
    | some _ =>
      let goesOn := evaluates && v.isNull
      let w ← compared (inner goesOn) goesOn fuel
      let w ← conjunction inner goesOn fuel fuel w
      let w := if w.isNull then .number 0 else w
      disjunction inner evaluates fuel rounds (if v.isNull then w else v)

def expression (fuel : Nat) : Nat → Bool → ExprM ExprValue
  | 0, _ => wrong "missing argument".toList
  | depth + 1, evaluates => do
    let inner (evaluates : Bool) : ExprM ExprValue := expression fuel depth evaluates
    let v ← compared (inner evaluates) evaluates fuel
    let v ← conjunction inner evaluates fuel fuel v
    disjunction inner evaluates fuel fuel v

end Expr

def expr : Utility := fun args => do
  let args := match args with
    | ['-', '-'] :: rest => rest
    | args => args
  if args.isEmpty then missingOperand 2
  let size := args.length + 1
  let (v, after) ← (Expr.expression size size true).run ⟨none, args⟩
  match after.rest with
  | extra :: _ => die ("syntax error: unexpected argument ".toList ++ quotedName extra) 2
  | [] =>
    line v.shown
    setStatus (if v.isNull then 1 else 0)

end TlaDigest.Script.Utility
