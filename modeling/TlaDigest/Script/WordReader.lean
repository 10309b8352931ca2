import TlaDigest.Script.Source

/-!
# Reading words

Plain text, quotes, and what is expanded. A word may hold another one, or a script, for which the
readers of the level below are given.
-/

namespace TlaDigest.Script

open Text

/-- Where a word stands, which says how it is quoted and where it ends. -/
inductive Mode where
  | word
  | brace
  | quoted
  /-- In the braces of a parameter that is quoted. -/
  | quotedBrace
  | arithmetic
  | parenthesis
  | document
deriving DecidableEq, Repr

def Mode.isBare (m : Mode) : Bool := m == .word || m == .brace

structure Inner where
  /-- A script up to the parenthesis that closes it. -/
  substitution : Reader Statement
  script : Reader Statement
  /-- Commands in a compound one; they may be missing, where `mayBeEmpty`. -/
  commands (mayBeEmpty : Bool) : Reader Statement
  pieces (mode : Mode) : Reader Word

namespace WordReader

open Reader

def backquote : Char := Char.ofNat 96

def isBreak (c : Char) : Bool :=
  c == ' ' || c == '\t' || c == '\n' || c == ';' || c == '&' || c == '|' || c == '(' || c == ')' ||
    c == '<' || c == '>'

def isSpecial (m : Mode) (c : Char) : Bool :=
  c == '\\' || c == '$' || c == backquote ||
    match m with
    | .word => c == '"' || c == apostrophe || isBreak c
    | .brace => c == '"' || c == apostrophe || c == '\x7d'
    | .quoted => c == '"'
    | .quotedBrace => c == '"' || c == '\x7d'
    | .arithmetic => c == '(' || c == ')'
    | .parenthesis => c == '(' || c == ')'
    | .document => false

/-- A character that a backslash escapes where quotes do not count. -/
def isEscapable (m : Mode) (c : Char) : Bool :=
  c == '\\' || c == '$' || c == backquote || (c == '"' && m != .document) ||
    (c == '\x7d' && m == .quotedBrace)

def isParameterMark (c : Char) : Bool :=
  isDecimalDigit c || c == '#' || c == '@' || c == '*' || c == '?' || c == '$' || c == '!' || c == '-'

def merged : Word → Word
  | .literal a p :: rest =>
    match merged rest with
    | .literal b q :: rest =>
      if p == q then .literal (a ++ b) p :: rest else .literal a p :: .literal b q :: rest
    | rest => .literal a p :: rest
  | piece :: rest => piece :: merged rest
  | [] => []

/-- The text in backquotes and what follows them. A backslash escapes a few characters. -/
def cutBackquoted (quoted : Bool) (sofar : Octets) : Octets → Option (Octets × Octets)
  | [] => none
  | ['\\'] => none
  | '\\' :: c :: cs =>
    if c == '\\' || c == '$' || c == backquote || (quoted && c == '"') then
      cutBackquoted quoted (c :: sofar) cs
    else cutBackquoted quoted (c :: '\\' :: sofar) cs
  | c :: cs => if c == backquote then some (sofar.reverse, cs) else cutBackquoted quoted (c :: sofar) cs

def backquoted (inner : Inner) (quoted : Bool) : Reader Word := do
  let text ← rest
  match cutBackquoted quoted [] text with
  | none => fail "EOF in backquote substitution"
  | some (script, after) =>
    advance (text.length - after.length)
    return [.substitution (← nested script inner.script) quoted]

/-- The name of a parameter in braces; nothing where there is none. -/
def bracedName : Reader Octets := do
  match ← rest with
  | c :: _ =>
    if isNameStart c then run isNameChar
    else if isDecimalDigit c then run isDecimalDigit
    else if isParameterMark c then
      advance 1
      return [c]
    else return []
  | [] => return []

def markedForm? (empty : Bool) (c : Char) (word : Word) : Option Form :=
  match c with
  | '-' => some (.otherwise empty word)
  | '=' => some (.assigned empty word)
  | '?' => some (.required empty word)
  | '+' => some (.instead empty word)
  | _ => none

/-- The form of a parameter in braces, after its name, up to the brace that closes it. -/
def bracedForm (inner : Inner) (quoted : Bool) : Reader Form := do
  let mode : Mode := if quoted then .quotedBrace else .brace
  let marked (empty : Bool) : Reader Form := do
    match ← rest with
    | [] =>
      let _ ← inner.pieces mode
      return .invalid
    | c :: _ =>
      if (markedForm? empty c []).isNone then
        if empty && c == '\x7d' then advance 1
        let _ ← inner.pieces mode
        return .invalid
      else
        advance 1
        let word ← inner.pieces mode
        return (markedForm? empty c word).getD .invalid
  let trimmed (atEnd longest : Bool) (n : Nat) : Reader Form := do
    advance n
    return .trimmed atEnd longest (← inner.pieces .brace)
  match ← rest with
  | '\x7d' :: _ =>
    advance 1
    return .plain
  | '%' :: '%' :: _ => trimmed true true 2
  | '%' :: _ => trimmed true false 1
  | '#' :: '#' :: _ => trimmed false true 2
  | '#' :: _ => trimmed false false 1
  | ':' :: _ =>
    advance 1
    marked true
  | _ => marked false

def braced (inner : Inner) (quoted : Bool) : Reader Word := do
  let counts : Bool := match ← rest with
    | '#' :: c :: cs => isNameChar c || (isParameterMark c && cs.head? == some '\x7d')
    | _ => false
  if counts then advance 1
  let name ← bracedName
  let form ← bracedForm inner quoted
  match name, form with
  | [], _ => return [.parameter name .invalid quoted]
  | _, .plain => return [.parameter name (if counts then .length else .plain) quoted]
  | _, form => return [.parameter name (if counts then .invalid else form) quoted]

def dollar (inner : Inner) (quoted : Bool) : Reader Word := do
  match ← rest with
  | '(' :: '(' :: _ =>
    advance 2
    return [.arithmetic (← inner.pieces .arithmetic) quoted]
  | '(' :: _ =>
    advance 1
    return [.substitution (← inner.substitution) quoted]
  | '\x7b' :: _ =>
    advance 1
    braced inner quoted
  | c :: _ =>
    if isNameStart c then return [.parameter (← run isNameChar) .plain quoted]
    else if isParameterMark c then
      advance 1
      return [.parameter [c] .plain quoted]
    else return [.literal ['$'] quoted]
  | [] => return [.literal ['$'] quoted]

def singleQuoted : Reader Word := do
  let text ← run (· != apostrophe)
  if (← rest).isEmpty then fail "Unterminated quoted string"
  advance 1
  return [.literal text true]

def doubleQuoted (inner : Inner) : Reader Word := do
  let w ← inner.pieces .quoted
  return if w.isEmpty then [.literal [] true] else w

def ended (mode : Mode) : Reader (Option Word) :=
  match mode with
  | .word => return none
  | .document => return none
  | .quoted => fail "Unterminated quoted string"
  | .brace => fail "Missing '\x7d'"
  | .quotedBrace => fail "Unterminated quoted string"
  | .arithmetic => fail "Missing '))'"
  | .parenthesis => fail "Missing '))'"

def escaped (mode : Mode) (c : Char) : Reader Word := do
  if c == '\n' then
    advance 2
    return []
  else if mode.isBare || isEscapable mode c then
    advance 2
    return [.literal [c] true]
  else
    advance 1
    return [.literal ['\\'] true]

/-- What a character that may not stand for itself makes in a mode; nothing, where it ends the word. -/
def special (inner : Inner) (mode : Mode) (c : Char) (next : Option Char) : Reader (Option Word) := do
  if c == '"' then
    advance 1
    if mode == .quoted then return none else return some (← doubleQuoted inner)
  else if c == apostrophe then
    advance 1
    return some (← singleQuoted)
  else if mode == .word then return none
  else if c == '\x7d' then
    advance 1
    return none
  else if c == '(' then
    advance 1
    let w ← inner.pieces .parenthesis
    return some (.literal ['('] true :: w ++ [.literal [')'] true])
  else if mode == .parenthesis then
    advance 1
    return none
  else if next == some ')' then
    advance 2
    return none
  else
    advance 1
    return some [.literal [c] true]

/-- Reads the next part of a word; nothing, where the word ends. -/
def step (inner : Inner) (mode : Mode) : Reader (Option Word) := do
  match ← rest with
  | [] => ended mode
  | ['\\'] =>
    advance 1
    return some [.literal ['\\'] true]
  | '\\' :: c :: _ => return some (← escaped mode c)
  | '$' :: _ =>
    advance 1
    return some (← dollar inner (!mode.isBare))
  | c :: cs =>
    if c == backquote then
      advance 1
      return some (← backquoted inner (!mode.isBare))
    else if isSpecial mode c then special inner mode c cs.head?
    else return some [.literal (← run fun c => !isSpecial mode c) (!mode.isBare)]

def pieces (inner : Inner) (mode : Mode) : Reader Word := do
  return merged (← repeated (step inner mode)).flatten

end WordReader

end TlaDigest.Script
