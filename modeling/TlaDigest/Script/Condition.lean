import TlaDigest.FileTree
import TlaDigest.Script.Octets

/-!
# Conditions

Conditions on texts, numbers and files, as the command `test` takes them.
-/

namespace TlaDigest.Script.Condition

inductive Fault where
  | unexpected (operator : Octets)
  | argumentExpected (operator : Octets)
  | closingExpected
  | illegalNumber (text : Octets)
deriving DecidableEq, Repr

def Fault.message : Fault → Octets
  | .unexpected operator => operator ++ ": unexpected operator".toList
  | .argumentExpected operator => operator ++ ": argument expected".toList
  | .closingExpected => "closing paren expected".toList
  | .illegalNumber text => "Illegal number: ".toList ++ text

def entryAt? (tree : FileTree) (arg : Octets) : Option FileEntry :=
  match tree.locate ⟨plainText arg⟩ with
  | .ok place => if tree.isDirectory place then some .directory else tree.entry? place
  | .error _ => none

def isLink (tree : FileTree) (arg : Octets) : Bool :=
  match tree.locateEntry ⟨plainText arg⟩ with
  | .ok place => match tree.entry? place with
    | some (.link _) => true
    | _ => false
  | .error _ => false

def unary (tree : FileTree) (op : Octets) : Option (Octets → Bool) :=
  let isThere (arg : Octets) : Bool := (entryAt? tree arg).isSome
  let onEntry (p : FileEntry → Bool) : Option (Octets → Bool) := some fun arg =>
    ((entryAt? tree arg).map p).getD false
  match String.ofList op with
  | "-n" => some fun arg => !arg.isEmpty
  | "-z" => some fun arg => arg.isEmpty
  | "-e" => some isThere
  | "-r" => some isThere
  | "-w" => some isThere
  | "-d" => onEntry fun e => e = .directory
  | "-f" => onEntry fun
    | .file .. => true
    | _ => false
  | "-s" => onEntry fun
    | .file bytes _ => !bytes.isEmpty
    | e => e = .directory
  | "-x" => onEntry fun
    | .file _ program => program
    | e => e = .directory
  | "-c" => onEntry fun
    | .device _ => true
    | _ => false
  | "-h" => some (isLink tree)
  | "-L" => some (isLink tree)
  | "-G" => some isThere
  | "-O" => some isThere
  | "-b" => some fun _ => false
  | "-g" => some fun _ => false
  | "-k" => some fun _ => false
  | "-p" => some fun _ => false
  | "-S" => some fun _ => false
  | "-t" => some fun _ => false
  | "-u" => some fun _ => false
  | _ => none

def number (text : Octets) : Except Fault Int :=
  let digits := text.dropWhile isSpace
  let (sign, digits) : Int × Octets := match digits with
    | '-' :: cs => (-1, cs)
    | '+' :: cs => (1, cs)
    | cs => (1, cs)
  let (n, rest) := digitsAt 10 digits
  let n := sign * n
  if digits.length == rest.length || !rest.all isSpace || n < signedBounds.1 || signedBounds.2 < n then
    .error (.illegalNumber text)
  else .ok n

def isSame (tree : FileTree) (a b : Octets) : Bool :=
  match tree.locate ⟨plainText a⟩, tree.locate ⟨plainText b⟩ with
  | .ok a, .ok b => a == b && tree.isThere a
  | _, _ => false

/-- Both paths lead somewhere, and what the first one leads to was changed later. -/
def isNewer (tree : FileTree) (a b : Octets) : Bool :=
  match tree.locate ⟨plainText a⟩, tree.locate ⟨plainText b⟩ with
  | .ok a, .ok b => tree.isThere a && tree.isThere b && tree.age b < tree.age a
  | _, _ => false

def binary (tree : FileTree) (op : Octets) : Option (Octets → Octets → Except Fault Bool) :=
  let compared (p : Int → Int → Bool) (a b : Octets) : Except Fault Bool := do
    return p (← number a) (← number b)
  match String.ofList op with
  | "=" => some fun a b => .ok (a == b)
  | "!=" => some fun a b => .ok (a != b)
  | "<" => some fun a b => .ok (decide (a < b))
  | ">" => some fun a b => .ok (decide (b < a))
  | "-eq" => some (compared fun m n => m == n)
  | "-ne" => some (compared fun m n => m != n)
  | "-lt" => some (compared fun m n => m < n)
  | "-le" => some (compared fun m n => m ≤ n)
  | "-gt" => some (compared fun m n => n < m)
  | "-ge" => some (compared fun m n => n ≤ m)
  | "-ef" => some fun a b => .ok (isSame tree a b)
  | "-nt" => some fun a b => .ok (isNewer tree a b)
  | "-ot" => some fun a b => .ok (isNewer tree b a)
  | _ => none

/-- What a reader of conditions answers: the outcome, and the words from the last one that it took on. -/
abbrev Outcome := Except Fault (Bool × List Octets)

/-- A test of one argument that is taken for text: nothing, or a comparison, follows. -/
def isOperand (tree : FileTree) : List Octets → Bool
  | [_] => true
  | [_, _] => false
  | _ :: op :: arg :: _ => (binary tree op).isSome && arg != [')']
  | [] => true

/-- A condition in parentheses, a test, a comparison, or a text, which has to have something in it. -/
def primary (tree : FileTree) (inner : List Octets → Outcome) (words : List Octets) : Outcome :=
  match words with
  | [] => .ok (false, [])
  | first :: rest =>
    if first == ['('] && !rest.isEmpty then
      if rest.head? == some [')'] then .ok (false, rest)
      else do
        let (p, last) ← inner rest
        match last.drop 1 with
        | [')'] :: more => .ok (p, [')'] :: more)
        | _ => .error .closingExpected
    else
      match if isOperand tree words then none else unary tree first with
      | some test =>
        match rest with
        | [] => .error (.argumentExpected first)
        | arg :: more => .ok (test arg, arg :: more)
      | none =>
        match rest with
        | op :: more =>
          match binary tree op with
          | some compare =>
            match more with
            | [] => .error (.argumentExpected op)
            | arg :: more => do
              let p ← compare first arg
              .ok (p, arg :: more)
          | none => .ok (!first.isEmpty, words)
        | [] => .ok (!first.isEmpty, words)

/-- Conditions at a depth of parentheses and negations. The order of `-o`, `-a` and `!` is from loose to
    tight. -/
def condition (tree : FileTree) : Nat → List Octets → Outcome
  | 0, words => .ok (false, words)
  | fuel + 1, words => do
    let (p, last) ← conjunction fuel words
    match last.drop 1 with
    | ['-', 'o'] :: rest =>
      let (q, last) ← condition tree fuel rest
      .ok (p || q, last)
    | _ => .ok (p, last)
where
  conjunction : Nat → List Octets → Outcome
    | 0, words => .ok (false, words)
    | fuel + 1, words => do
      let (p, last) ← negation fuel words
      match last.drop 1 with
      | ['-', 'a'] :: rest =>
        let (q, last) ← conjunction fuel rest
        .ok (p && q, last)
      | _ => .ok (p, last)
  negation : Nat → List Octets → Outcome
    | 0, words => .ok (false, words)
    | fuel + 1, words =>
      match words with
      | ['!'] :: rest => do
        if rest.isEmpty then .ok (true, words)
        else
          let (p, last) ← negation fuel rest
          .ok (!p, last)
      | words => primary tree (condition tree fuel) words

/-- The outcome of three words of which the second compares the others, whatever they are. -/
def comparison? (tree : FileTree) : List Octets → Option (Except Fault Bool)
  | [a, op, b] => (binary tree op).map fun compare => compare a b
  | _ => none

def holds (tree : FileTree) (words : List Octets) : Except Fault Bool :=
  match comparison? tree words, condition tree (4 * words.length + 4) words with
  | some outcome, _ => outcome
  | none, .error fault => .error fault
  | none, .ok (p, last :: _ :: _) => if words.isEmpty then .ok p else .error (.unexpected last)
  | none, .ok (p, _) => .ok p

end TlaDigest.Script.Condition
