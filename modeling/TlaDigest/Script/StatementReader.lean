import TlaDigest.Script.WordReader

/-!
# Reading statements

Keywords count only where a command may start. A compound command holds commands of the level below,
so that the depth of nesting bounds the recursion.
-/

namespace TlaDigest.Script

open Text

namespace StatementReader

open Reader

/-! ### Tokens -/

/-- The number of characters before the next token: blanks, ends of lines that are escaped, and
    comments. -/
def blanksBefore : Octets → Nat
  | '\\' :: '\n' :: cs => 2 + blanksBefore cs
  | '#' :: cs => (cs.takeWhile (· != '\n')).length + 1
  | c :: cs => if c == ' ' || c == '\t' then 1 + blanksBefore cs else 0
  | [] => 0

/-- The operators that separate commands; a longer one comes before what it starts with. -/
def operators : List String := ["&&", "&", "||", "|", ";;", ";", "(", ")"]

def redirections : List String := [">>", ">|", ">&", ">", "<<-", "<<", "<&", "<>", "<"]

def operatorAt? (table : List String) (cs : Octets) : Option String :=
  table.find? fun op => op.toList.isPrefixOf cs

/-- The redirection at the front, with its length. A digit before it names the descriptor. -/
def redirectAt? (cs : Octets) : Option (Token × Nat) :=
  match cs with
  | [] => none
  | c :: rest =>
    match if isDecimalDigit c then operatorAt? redirections rest else none with
    | some op => some (.redirect (c.toNat - '0'.toNat) op, op.length + 1)
    | none => (operatorAt? redirections cs).map fun op =>
      (.redirect (if op.startsWith ">" then 1 else 0) op, op.length)

/-- Reads the bodies of the documents that the line before asked for. -/
def readDocuments (inner : Inner) : Reader Unit := do
  let pending := (← get).pending
  modify fun s => { s with pending := [] }
  for d in pending do
    let text ← rest
    let (body, after) := documentBody d (text.length + 1) false text
    let word ← if d.verbatim then pure [.literal body true] else nested body (inner.pieces .document)
    advance (text.length - after.length)
    modify fun s => { s with documents := s.documents.setIfInBounds d.index word }

def token (inner : Inner) : Reader Token := do
  match (← get).pushed with
  | some t =>
    modify fun s => { s with pushed := none }
    return t
  | none =>
    let text ← rest
    advance (blanksBefore text)
    let text ← rest
    match text with
    | [] => return .mark endMark
    | '\n' :: _ =>
      advance 1
      readDocuments inner
      return .mark lineMark
    | text =>
      match operatorAt? operators text, redirectAt? text with
      | some op, _ =>
        advance op.length
        return .mark op
      | none, some (t, n) =>
        advance n
        return t
      | none, none => return .word (← WordReader.pieces inner .word)

def keywords : List String :=
  ["!", "case", "do", "done", "elif", "else", "esac", "fi", "for", "if", "in", "then", "until", "while",
    "\x7b", "\x7d"]

def withKeywords : Token → Token
  | .word w =>
    match plainWord? w with
    | some text =>
      match keywords.find? fun k => k.toList == text with
      | some k => .mark k
      | none => .word w
    | none => .word w
  | t => t

def tokenAfterLines (inner : Inner) : Reader Token := do
  go ((← room) + 2)
where
  go : Nat → Reader Token
    | 0 => return .mark endMark
    | fuel + 1 => do
      let t ← token inner
      if t.is lineMark then go fuel else return t

/-- The text for which a word stands, unless it is part of that text itself. -/
def aliasFor? (s : Source) (t : Token) : Option (Octets × Octets) :=
  match t with
  | .word w =>
    match plainWord? w with
    | some name =>
      let isOpen := s.expanding.any fun (other, after) => other == name && after ≤ s.rest.length
      if isOpen then none else (s.aliases.lookup name).map fun text => (name, text)
    | none => none
  | _ => none

/-- Reads on in the text of an alias, as long as what comes first is one. The texts nest only as deep as
    there are names. -/
def throughAliases (next : Reader Token) : Nat → Token → Reader Token
  | 0, t => return t
  | fuel + 1, t => do
    let s ← get
    match aliasFor? s t with
    | none => return t
    | some (name, text) =>
      let after := s.rest.length
      let endsBlank := text.getLast? == some ' ' || text.getLast? == some '\t'
      set { s with
        rest := text ++ s.rest, room := s.room + text.length, expanding := (name, after) :: s.expanding
        continuing := if endsBlank then some after else s.continuing }
      throughAliases next fuel (← next)

def aliased (next : Reader Token) : Reader Token := do
  throughAliases next (← get).aliases.length (← next)

def keyToken (inner : Inner) (overLines : Bool) : Reader Token := do
  return withKeywords (← if overLines then tokenAfterLines inner else token inner)

/-- Reads a token where a command may start: keywords count, and so do aliases. -/
def commandToken (inner : Inner) (overLines : Bool) : Reader Token :=
  aliased (keyToken inner overLines)

/-- Reads a token of a simple command. Aliases count at its start and after an alias that says so. -/
def simpleToken (inner : Inner) (started : Bool) : Reader Token := do
  let s ← get
  let continues := s.continuing.any fun after => s.rest.length - blanksBefore s.rest ≤ after
  if started && !(continues && s.pushed.isNone) then token inner
  else
    if continues then modify fun s => { s with continuing := none }
    aliased (token inner)

def expect (inner : Inner) (mark : String) : Reader Unit := do
  let t ← keyToken inner true
  if t.is mark then return () else expecting t mark

/-- The marks that end commands inside a compound command. -/
def closers : List String :=
  [endMark, ")", ";;", "do", "done", "elif", "else", "esac", "fi", "then", "\x7d"]

def closes : Token → Bool
  | .mark text => closers.contains text
  | _ => false

/-! ### Simple commands -/

def addDocument (delimiter : Word) (strips : Bool) : Reader Target := do
  let index := (← get).documents.size
  let pending : Pending := ⟨index, literalText delimiter, delimiter.any Piece.isQuoted, strips⟩
  modify fun s => { s with documents := s.documents.push [], pending := s.pending ++ [pending] }
  return .document index

def target (operator : String) (w : Word) : Reader Target :=
  match operator with
  | "<<" => addDocument w false
  | "<<-" => addDocument w true
  | ">&" => return .descriptor w
  | "<&" => return .descriptor w
  | ">>" => return .file .append w
  | "<" => return .file .read w
  | "<>" => return .file .update w
  | ">|" => return .file .replace w
  | _ => return .file .write w

def redirect (inner : Inner) (descriptor : Nat) (operator : String) : Reader Redirect := do
  match ← token inner with
  | .word w => return .mk descriptor (← target operator w)
  | t => unexpected t

def redirects (inner : Inner) : Reader (List Redirect) := repeated do
  match ← keyToken inner false with
  | .redirect descriptor operator => return some (← redirect inner descriptor operator)
  | t =>
    push t
    return none

def assignment? : Word → Option (Octets × Word)
  | .literal text false :: rest =>
    match cutAt (· == '=') text with
    | (name, '=' :: value) =>
      if isName name then
        some (name, if value.isEmpty then rest else .literal value false :: rest)
      else none
    | _ => none
  | _ => none

inductive Part where
  | assignment (name : Octets) (value : Word)
  | word (w : Word)
  | redirect (r : Redirect)
  | opening

/-- The next part of a simple command. Assignments come before the words. -/
def part (inner : Inner) (started : Bool) : Reader (Option Part) := do
  match ← simpleToken inner started with
  | .word w =>
    match if started then none else assignment? w with
    | some (name, value) => return some (.assignment name value)
    | none => return some (.word w)
  | .redirect descriptor operator => return some (.redirect (← redirect inner descriptor operator))
  | t =>
    push t
    return if t.is "(" then some .opening else none

/-- Commands that the shell keeps apart: no function can have their names. -/
def specialCommands : List String :=
  [".", ":", "break", "continue", "eval", "exec", "exit", "export", "local", "readonly", "return", "set",
    "shift", "times", "trap", "unset"]

/-- A function: the parentheses after its name, and its body. -/
def function (inner : Inner) (command : Reader Statement) (w : Word) : Reader Statement := do
  let _ ← token inner
  let t ← token inner
  if !t.is ")" then expecting t ")"
  match plainWord? w with
  | some name =>
    if isName name && !specialCommands.contains (String.ofList name) then
      return .define name (← command)
    else fail "Bad function name"
  | none => fail "Bad function name"

def simple (inner : Inner) (command : Reader Statement) (line : Nat) : Reader Statement := do
  go ((← room) + 3) [] [] []
where
  go : Nat → List (Octets × Word) → List Word → List Redirect → Reader Statement
    | 0, _, _, _ => return .nothing
    | fuel + 1, assignments, words, redirects => do
      match ← part inner (!words.isEmpty) with
      | some (.assignment name value) => go fuel (assignments ++ [(name, value)]) words redirects
      | some (.word w) => go fuel assignments (words ++ [w]) redirects
      | some (.redirect r) => go fuel assignments words (redirects ++ [r])
      | some .opening =>
        match assignments, words, redirects with
        | [], [w], [] => function inner command w
        | _, _, _ => return .simple line assignments words redirects
      | none => return .simple line assignments words redirects

/-! ### Compound commands -/

def loop (inner : Inner) (wanted : Bool) : Reader Statement := do
  let condition ← inner.commands false
  expect inner "do"
  let body ← inner.commands false
  expect inner "done"
  return .loop wanted condition body

def branch (inner : Inner) : Reader Statement := do
  go ((← room) + 2)
where
  go : Nat → Reader Statement
    | 0 => return .nothing
    | fuel + 1 => do
      let condition ← inner.commands false
      expect inner "then"
      let yes ← inner.commands false
      let t ← keyToken inner true
      if t.is "elif" then return .branch condition yes (← go fuel)
      else if t.is "else" then
        let no ← inner.commands false
        expect inner "fi"
        return .branch condition yes no
      else if t.is "fi" then return .branch condition yes .nothing
      else expecting t "fi"

def loopWords (inner : Inner) : Reader (List Word) := do
  let words ← repeated do
    match ← token inner with
    | .word w => return some w
    | t =>
      push t
      return none
  let t ← token inner
  if t.is lineMark || t.is ";" then return words else unexpected t

/-- A loop over words, after its first keyword. Without words it goes over the parameters. -/
def each (inner : Inner) (line : Nat) : Reader Statement := do
  match ← token inner with
  | .word w =>
    match plainWord? w with
    | some name =>
      if !isName name then fail "Bad for loop variable"
      let t ← keyToken inner true
      let words ←
        if t.is "in" then loopWords inner
        else
          if !t.is ";" then push t
          pure [[.parameter ['@'] .plain true]]
      expect inner "do"
      let body ← inner.commands false
      expect inner "done"
      return .each line name words body
    | none => fail "Bad for loop variable"
  | _ => fail "Bad for loop variable"

def patterns (inner : Inner) (first : Token) : Reader (List Word) := do
  let t ← if first.is "(" then token inner else pure first
  go ((← room) + 2) t
where
  go : Nat → Token → Reader (List Word)
    | 0, _ => return []
    | fuel + 1, .word w => do
      let t ← token inner
      if t.is "|" then return w :: (← go fuel (← token inner))
      else if t.is ")" then return [w]
      else expecting t ")"
    | _ + 1, t => expecting t ")"

/-- A word and the statements for the patterns that it may fit, after the first keyword. -/
def choose (inner : Inner) (line : Nat) : Reader Statement := do
  match ← token inner with
  | .word w =>
    expect inner "in"
    return .choose line w (← go ((← room) + 2))
  | t => fail (t.name ++ " unexpected (expecting word)")
where
  go : Nat → Reader (List (List Word × Statement))
    | 0 => return []
    | fuel + 1 => do
      let t ← keyToken inner true
      if t.is "esac" then return []
      let ps ← patterns inner t
      let body ← inner.commands true
      let t ← keyToken inner true
      if t.is "esac" then return [(ps, body)]
      else if t.is ";;" then return (ps, body) :: (← go fuel)
      else expecting t ";;"

def withRedirects (inner : Inner) (line : Nat) (s : Statement) : Reader Statement := do
  match ← redirects inner, s with
  | [], s => return s
  | rs, .apart line body _ => return .apart line body rs
  | rs, s => return .redirected line s rs

/-- A command. The nesting of functions bounds how often a command is only the body of another one. -/
def command (inner : Inner) : Nat → Bool → Reader Statement
  | 0, _ => fail "nested too deep"
  | depth + 1, overLines => do
    let t ← commandToken inner overLines
    let line := (← get).line
    match t with
    | .mark "if" => withRedirects inner line (← branch inner)
    | .mark "while" => withRedirects inner line (← loop inner true)
    | .mark "until" => withRedirects inner line (← loop inner false)
    | .mark "for" => withRedirects inner line (← each inner line)
    | .mark "case" => withRedirects inner line (← choose inner line)
    | .mark "(" =>
      let body ← inner.commands false
      expect inner ")"
      withRedirects inner line (.apart line body [])
    | .mark "\x7b" =>
      let body ← inner.commands false
      expect inner "\x7d"
      withRedirects inner line body
    | .mark text => unexpected (.mark text)
    | t =>
      push t
      simple inner (command inner depth true) line

/-! ### Lists -/

/-- Commands of which each reads what the one before prints, perhaps negated as a whole. -/
def pipeline (inner : Inner) : Reader Statement := do
  let depth := (← room) + 2
  let t ← commandToken inner true
  let negated := t.is "!"
  if !negated then push t
  let first ← command inner depth false
  let more ← repeated do
    let t ← token inner
    if t.is "|" then return some (← command inner depth true)
    else
      push t
      return none
  let s : Statement := if more.isEmpty then first else .pipe (first :: more)
  return if negated then .negated s else s

/-- Pipelines joined by `&&` and `||`, from left to right. -/
def chain (inner : Inner) : Reader Statement := do
  go ((← room) + 2) (← pipeline inner)
where
  go : Nat → Statement → Reader Statement
    | 0, first => return first
    | fuel + 1, first => do
      let t ← token inner
      if t.is "&&" then go fuel (.both first (← pipeline inner))
      else if t.is "||" then go fuel (.either first (← pipeline inner))
      else
        push t
        return first

/-- Statements up to the end or to a token that closes them, or, of a `line`, up to the end of the line.
    What closes them may come first only after one, or where `mayBeEmpty`. -/
def statements (inner : Inner) (line : Bool) : Nat → Bool → Reader (List Statement)
  | 0, _ => return []
  | fuel + 1, mayBeEmpty => do
    let t ← commandToken inner (!line)
    if t.is lineMark then return []
    push t
    if t.is endMark || (mayBeEmpty && !line && closes t) then return []
    let s ← chain inner
    let t ← token inner
    if t.is "&" then return .background s :: (← statements inner line fuel true)
    else if t.is ";" then return s :: (← statements inner line fuel true)
    else
      push t
      if t.is lineMark then return s :: (← statements inner line fuel true)
      else if line && !t.is endMark then unexpected t
      else return [s]

def together : List Statement → Statement
  | [s] => s
  | ss => .block ss

def commands (inner : Inner) (mayBeEmpty : Bool) : Reader Statement := do
  return together (← statements inner false ((← room) + 2) mayBeEmpty)

/-- The commands of the next line, or nothing at the end. -/
def nextLine (inner : Inner) : Reader (Option Statement) := do
  let t ← token inner
  if t.is endMark then return none
  else if t.is lineMark then return some .nothing
  else
    push t
    return some (together (← statements inner true ((← room) + 2) false))

/-- A script in parentheses, up to the one that closes it. -/
def substitution (inner : Inner) : Reader Statement := do
  let body ← commands inner true
  expect inner ")"
  return body

def script (inner : Inner) : Reader Statement := do
  let body ← commands inner true
  let t ← token inner
  if t.is endMark then return body else unexpected t

def readers : Nat → Inner
  | 0 =>
    ⟨fail "nested too deep", fail "nested too deep", fun _ => fail "nested too deep",
      fun _ => fail "nested too deep"⟩
  | depth + 1 =>
    let inner := readers depth
    ⟨substitution inner, script inner, commands inner, WordReader.pieces inner⟩

end StatementReader

def maxNesting : Nat := 300

/-- Reads the next line of commands of a script; nothing is left at the end. -/
def Source.next (s : Source) : Except Misread (Option Statement × Source) :=
  StateT.run (StatementReader.nextLine (StatementReader.readers maxNesting)) s

/-- The word that a text makes in which only expansions are special. -/
def Word.ofDocument? (text : Octets) : Option Word :=
  let reader := (StatementReader.readers maxNesting).pieces .document
  ((StateT.run reader (.ofText text)).toOption).map (·.1)

end TlaDigest.Script
