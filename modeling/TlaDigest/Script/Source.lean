import TlaDigest.Script.Statement

/-!
# Reading scripts

A source is what is left of a script, with the line that it is on and with a token that was read too
early. The bodies of documents follow the line that asks for them.
-/

namespace TlaDigest.Script

open Text

inductive Token where
  | word (w : Word)
  /-- A separator, an operator or a keyword. -/
  | mark (text : String)
  /-- A descriptor is redirected; the word after it says where to. -/
  | redirect (descriptor : Nat) (operator : String)

def endMark : String := "end of file"

def lineMark : String := "newline"

def markName (text : String) : String :=
  if text == endMark || text == lineMark then text else "\"" ++ text ++ "\""

def Token.name : Token → String
  | .word _ => "word"
  | .mark text => markName text
  | .redirect .. => "redirection"

def Token.is (t : Token) (text : String) : Bool :=
  match t with
  | .mark m => m == text
  | _ => false

structure Pending where
  index : Nat
  delimiter : Octets
  verbatim : Bool
  strips : Bool
deriving Repr

structure Source where
  rest : Octets
  room : Nat
  line : Nat
  pushed : Option Token
  pending : List Pending
  /-- The bodies that were read, by their numbers. -/
  documents : Array Word
  /-- Texts that stand for others, by their names. -/
  aliases : List (Octets × Octets)
  /-- The names whose texts are being read, each with the length of what follows its text. -/
  expanding : List (Octets × Nat)
  /-- The length of what follows a text that ends in a blank: the next word there may be a name as well. -/
  continuing : Option Nat

def Source.ofText (text : Octets) : Source := ⟨text, text.length, 1, none, [], #[], [], [], none⟩

structure Misread where
  line : Nat
  text : String
deriving DecidableEq, Repr

abbrev Reader := StateT Source (Except Misread)

namespace Reader

def fail {α : Type} (text : String) : Reader α := do
  throw ⟨(← get).line, text⟩

def unexpected {α : Type} (t : Token) : Reader α := fail (t.name ++ " unexpected")

def expecting {α : Type} (t : Token) (mark : String) : Reader α :=
  fail (t.name ++ " unexpected (expecting " ++ markName mark ++ ")")

def rest : Reader Octets := return (← get).rest

/-- At least the length of what is left: no more steps are needed when each takes a character. -/
def room : Reader Nat := return (← get).room

def advance (n : Nat) : Reader Unit := modify fun s =>
  { s with rest := s.rest.drop n, line := s.line + (s.rest.take n).count '\n' }

/-- Takes the characters at the front that fulfil a condition. -/
def run (p : Char → Bool) : Reader Octets := do
  let text := (← rest).takeWhile p
  advance text.length
  return text

def push (t : Token) : Reader Unit := modify fun s => { s with pushed := some t }

/-- Repeats a step, as long as it gives something. The length of what is left bounds the number of steps,
    since each takes a character. -/
def repeated {α : Type} (step : Reader (Option α)) : Reader (List α) := do
  go ((← room) + 2)
where
  go : Nat → Reader (List α)
    | 0 => return []
    | fuel + 1 => do
      match ← step with
      | none => return []
      | some a => return a :: (← go fuel)

def nested {α : Type} (text : Octets) (reader : Reader α) : Reader α := do
  let outer ← get
  set { outer with rest := text, room := text.length, pushed := none, pending := [], expanding := [], continuing := none }
  let a ← reader
  modify fun s => { outer with documents := s.documents }
  return a

end Reader

/-! ### Documents -/

/-- The line at the front, without its end, and what follows. -/
def cutLine (text : Octets) : Octets × Octets :=
  let (line, rest) := cutAt (· == '\n') text
  (line, rest.drop 1)

/-- The line ends in a backslash that is not itself escaped. -/
def isContinued (line : Octets) : Bool := (line.reverse.takeWhile (· == '\\')).length % 2 == 1

/-- The body of a document at the front, and what follows the line that ends it. -/
def documentBody (d : Pending) : Nat → Bool → Octets → Octets × Octets
  | 0, _, text => ([], text)
  | _ + 1, _, [] => ([], [])
  | fuel + 1, continued, text =>
    let (line, rest) := cutLine text
    let line := if d.strips then line.dropWhile (· == '\t') else line
    if line == d.delimiter && !continued then ([], rest)
    else
      let ending := if line.length < text.length then ['\n'] else []
      let (body, rest) := documentBody d fuel (!d.verbatim && isContinued line) rest
      (line ++ ending ++ body, rest)

end TlaDigest.Script
