import TlaDigest.Script.Numeric

/-!
# Formatted printing

A format is text with escapes and directives; each directive takes an argument, and the format is
used again as long as arguments are left and it takes any.
-/

namespace TlaDigest.Script

open Text

/-- Who prints: the shell itself, or the program, which knows a few escapes more. -/
inductive Printer where
  | shell
  | program
deriving DecidableEq, Repr

/-! ### Escapes -/

def isOctal (c : Char) : Bool := '0' ≤ c && c ≤ '7'

def byteOf (n : Nat) : Char := Char.ofNat (n % 256)

/-- What an escape prints and what follows it; nothing is printed after an escape that stops. -/
structure Escape where
  out : Octets
  rest : Octets
  stops : Bool

def escapedByte (base room : Nat) (cs : Octets) : Escape :=
  let digits := (cs.take room).takeWhile fun c => (digitOf? base c).isSome
  ⟨[byteOf (digitsAt base digits).1], cs.drop digits.length, false⟩

def simpleEscape? : Char → Option Char
  | 'n' => some '\n'
  | 't' => some '\t'
  | 'r' => some '\r'
  | 'a' => some '\x07'
  | 'b' => some '\x08'
  | 'e' => some '\x1b'
  | 'f' => some '\x0c'
  | 'v' => some '\x0b'
  | '\\' => some '\\'
  | _ => none

/-- What an escape prints; the text starts after the backslash. An escape that is not known prints
    itself. -/
def escape (printer : Printer) : Octets → Escape
  | [] => ⟨['\\'], [], false⟩
  | c :: cs =>
    match simpleEscape? c with
    | some e => ⟨[e], cs, false⟩
    | none =>
      if isOctal c then escapedByte 8 3 (c :: cs)
      else if printer = .program && c == '"' then ⟨['"'], cs, false⟩
      else if printer = .program && c == 'c' then ⟨[], cs, true⟩
      else if printer = .program && c == 'x' && (cs.head?.bind (digitOf? 16)).isSome then
        escapedByte 16 2 cs
      else ⟨['\\', c], cs, false⟩

/-- An escape in an argument. An octal escape may start with one more zero, and the escape `c` stops. -/
def argumentEscape (printer : Printer) : Octets → Escape
  | '0' :: cs => escapedByte 8 3 cs
  | 'c' :: cs => ⟨[], cs, true⟩
  | cs => escape printer cs

/-- A text with its escapes printed, and whether one of them stopped. Each step takes a character, so
    the length of the text is fuel enough. -/
def unescaped (printer : Printer) : Nat → Octets → Octets × Bool
  | 0, _ => ([], false)
  | _ + 1, [] => ([], false)
  | fuel + 1, '\\' :: cs =>
    let e := argumentEscape printer cs
    if e.stops then (e.out, true)
    else
      let (out, stops) := unescaped printer fuel e.rest
      (e.out ++ out, stops)
  | fuel + 1, cs =>
    let (plain, rest) := cutAt (· == '\\') cs
    let (out, stops) := unescaped printer fuel rest
    (plain ++ out, stops)

/-! ### Directives -/

/-- A directive: its flags, width and precision, and the letter that tells what it prints. -/
structure Directive where
  flags : List Char
  width : Nat
  precision : Option Nat
  letter : Char
  spelling : Octets
deriving DecidableEq, Repr

def Directive.padded (d : Directive) (text : Octets) : Octets :=
  let fill := List.replicate (d.width - text.length) ' '
  if d.flags.contains '-' then text ++ fill else fill ++ text

/-- A number behind what stands before its digits, which zeros may fill up. -/
def Directive.number (d : Directive) (lead digits : Octets) : Octets :=
  let digits := if d.precision = some 0 && digits == ['0'] then [] else digits
  let digits := List.replicate (d.precision.getD 1 - digits.length) '0' ++ digits
  let zeros := if d.flags.contains '0' && !d.flags.contains '-' && d.precision.isNone
    then List.replicate (d.width - lead.length - digits.length) '0' else []
  d.padded (lead ++ zeros ++ digits)

def Directive.signed (d : Directive) (n : Int) : Octets :=
  let sign := if n < 0 then ['-'] else if d.flags.contains '+' then ['+']
    else if d.flags.contains ' ' then [' '] else []
  d.number sign (decimal n.natAbs)

/-- A number in a base; a flag asks for a mark of the base. -/
def Directive.unsigned (d : Directive) (base : Nat) (n : Nat) : Octets :=
  let digits := Nat.toDigits base n
  if d.flags.contains '#' && base == 16 && n != 0 then d.number ['0', 'x'] digits
  else if d.flags.contains '#' && base == 8 && n != 0 then d.number [] ('0' :: digits)
  else d.number [] digits

/-- A number with a fraction; zeros may fill it up after its sign. -/
def Directive.numeric (d : Directive) (x : Numeric) : Octets :=
  let lead := x.lead d.flags
  let body := x.body (lowerCase d.letter) d.precision (d.flags.contains '#')
  let isFinite := match x with
    | .finite .. => true
    | _ => false
  let zeros := if d.flags.contains '0' && !d.flags.contains '-' && isFinite
    then List.replicate (d.width - lead.length - body.length) '0' else []
  let text := lead ++ zeros ++ body
  d.padded (if 'A' ≤ d.letter && d.letter ≤ 'Z' then text.map upperCase else text)

/-! ### Arguments -/

/-- What is wrong with an argument where a number is asked for. -/
inductive Refusal where
  | notNumber
  | leftover
  | outOfRange
  | surplus (text : Octets)
deriving DecidableEq, Repr

def within (low high n : Int) : Int × Option Refusal :=
  if n < low then (low, some .outOfRange) else if high < n then (high, some .outOfRange) else (n, none)

/-- The number that an argument stands for, between bounds. An empty argument is zero, and after a quote
    stands the character whose number is meant. -/
def argumentNumber (low high : Int) (arg : Octets) : Int × Option Refusal :=
  let plain : Int × Option Refusal :=
    match signedAt? arg with
    | none => (0, if arg.isEmpty then none else some .notNumber)
    | some (n, rest) =>
      let (n, refusal) := within low high n
      (n, if rest.isEmpty then refusal else some .leftover)
  match arg with
  | c :: cs =>
    if c == '"' || c == apostrophe then
      match cs with
      | [] => (0, some .notNumber)
      | c :: rest => (c.toNat, if rest.isEmpty then none else some (.surplus rest))
    else plain
  | [] => plain

def Printer.format : Printer → BinaryFormat
  | .shell => binary64
  | .program => binary80

/-- The number with a fraction that an argument stands for. -/
def argumentNumeric (printer : Printer) (arg : Octets) : Numeric × Option Refusal :=
  let zero : Numeric := .finite false 0 1
  let plain : Numeric × Option Refusal :=
    match numericAt? arg with
    | none => (zero, if arg.isEmpty then none else some .notNumber)
    | some (x, rest) =>
      let rounded := x.rounded printer.format
      let isZero : Numeric → Bool
        | .finite _ num _ => num == 0
        | _ => false
      let isFar := match x, rounded with
        | .finite .., .infinite _ => true
        | x, rounded => isZero rounded && !isZero x
      (rounded, if !rest.isEmpty then some .leftover else if isFar then some .outOfRange else none)
  match arg with
  | c :: cs =>
    if c == '"' || c == apostrophe then
      match cs with
      | [] => (zero, some .notNumber)
      | c :: rest => (.finite false c.toNat 1, if rest.isEmpty then none else some (.surplus rest))
    else plain
  | [] => plain

/-! ### Formats -/

structure Printed where
  out : Octets
  args : List Octets
  /-- Arguments that are not what was asked for. -/
  refused : List (Octets × Refusal)
  /-- A directive that is not known, or nothing where the format ends in the midst of one. Printing ends
      there. -/
  invalid : Option (Option Octets)
  took : Bool
  stopped : Bool

def Printed.nothing (args : List Octets) : Printed := ⟨[], args, [], none, false, false⟩

def Printed.isOver (p : Printed) : Bool := p.stopped || p.invalid.isSome

def Printed.andThen (p q : Printed) : Printed :=
  ⟨p.out ++ q.out, q.args, p.refused ++ q.refused, q.invalid, p.took || q.took, q.stopped⟩

def Directive.print (printer : Printer) (d : Directive) (args : List Octets) : Printed :=
  let arg := args.headD []
  let limited (text : Octets) : Octets := match d.precision with
    | some n => text.take n
    | none => text
  let done (out : Octets) (refusal : Option Refusal) : Printed :=
    ⟨out, args.tail, (refusal.map fun r => (arg, r)).toList, none, true, false⟩
  let signed : Printed :=
    let (n, refusal) := argumentNumber signedBounds.1 signedBounds.2 arg
    done (d.signed n) refusal
  let unsigned (base : Nat) : Printed :=
    let greatest : Int := wordSize - 1
    let (n, refusal) := argumentNumber (-greatest) greatest arg
    done (d.unsigned base (bits n)) refusal
  match d.letter with
  | 's' => done (d.padded (limited arg)) none
  | 'b' =>
    let (text, stops) := unescaped printer (arg.length + 1) arg
    { done (d.padded (limited text)) none with stopped := stops }
  | 'c' => done (d.padded [arg.headD '\x00']) none
  | 'd' => signed
  | 'i' => signed
  | 'u' => unsigned 10
  | 'o' => unsigned 8
  | 'x' => unsigned 16
  | 'X' => let p := unsigned 16; { p with out := p.out.map upperCase }
  | letter =>
    if "aAeEfFgG".toList.contains letter then
      let (x, refusal) := argumentNumeric printer arg
      done (d.numeric x) refusal
    else ⟨[], args, [], some (some d.spelling), false, false⟩

def isFlag (c : Char) : Bool := c == '-' || c == '0' || c == '+' || c == ' ' || c == '#'

def isLength (c : Char) : Bool :=
  c == 'h' || c == 'l' || c == 'L' || c == 'j' || c == 't' || c == 'z'

/-- A number in a directive: digits, or a star, for which an argument stands. -/
def directiveNumber (cs : Octets) (args : List Octets) : Option Int × Octets × List Octets :=
  match cs with
  | '*' :: cs =>
    (some (argumentNumber signedBounds.1 signedBounds.2 (args.headD [])).1, cs, args.tail)
  | cs =>
    ((nat? (cs.takeWhile isDecimalDigit)).map fun n => (n : Int), cs.dropWhile isDecimalDigit, args)

/-- The directive at the front and what follows it; the text starts after the percent sign. Numbers
    may be taken from the arguments. -/
def directive? (printer : Printer) (cs : Octets) (args : List Octets) :
    Option (Directive × Octets × List Octets) :=
  let flags := cs.takeWhile isFlag
  let (width, rest, args) := directiveNumber (cs.dropWhile isFlag) args
  let width := width.getD 0
  let flags := if width < 0 then '-' :: flags else flags
  let (precision, rest, args) : Option Nat × Octets × List Octets := match rest with
    | '.' :: rest =>
      let (n, rest, args) := directiveNumber rest args
      let n := n.getD 0
      (if n < 0 then none else some n.toNat, rest, args)
    | rest => (none, rest, args)
  let rest := if printer = .program then rest.dropWhile isLength else rest
  match rest with
  | [] => none
  | letter :: rest =>
    let spelling := '%' :: cs.take (cs.length - rest.length)
    some (⟨flags, width.natAbs, precision, letter, spelling⟩, rest, args)

def printOnce (printer : Printer) : Nat → Octets → List Octets → Printed
  | 0, _, args => .nothing args
  | _ + 1, [], args => .nothing args
  | fuel + 1, '\\' :: cs, args =>
    let e := escape printer cs
    if e.stops then ⟨e.out, args, [], none, false, true⟩
    else
      let p := printOnce printer fuel e.rest args
      { p with out := e.out ++ p.out }
  | fuel + 1, '%' :: '%' :: cs, args =>
    let p := printOnce printer fuel cs args
    { p with out := '%' :: p.out }
  | fuel + 1, '%' :: cs, args =>
    match directive? printer cs args with
    | none => ⟨[], args, [], some (if printer = .shell then none else some ('%' :: cs)), false, false⟩
    | some (d, rest, args) =>
      let now := d.print printer args
      if now.isOver then now else now.andThen (printOnce printer fuel rest now.args)
  | fuel + 1, cs, args =>
    let (plain, rest) := cutAt (fun c => c == '\\' || c == '%') cs
    let p := printOnce printer fuel rest args
    { p with out := plain ++ p.out }

def printAll (printer : Printer) (format : Octets) : Nat → List Octets → Printed
  | 0, args => .nothing args
  | fuel + 1, args =>
    let now := printOnce printer (format.length + 1) format args
    if now.took && !now.args.isEmpty && !now.isOver then
      now.andThen (printAll printer format fuel now.args)
    else now

def printf (printer : Printer) (format : Octets) (args : List Octets) : Printed :=
  printAll printer format (args.length + 1) args

end TlaDigest.Script
