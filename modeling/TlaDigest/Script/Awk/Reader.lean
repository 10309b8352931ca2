import TlaDigest.Script.Awk.Program
import TlaDigest.Script.Regex.Reader

/-!
# Reading programs for records

Each level of the grammar is described on the reader for expressions of the level below, so that the
depth of nesting bounds the recursion.
-/

namespace TlaDigest.Script.Awk

open Text

structure Misread where
  line : Nat
  text : Octets

structure Source where
  rest : Octets
  line : Nat
  room : Nat

abbrev Reader := StateT Source (Except Misread)

namespace Reader

/-! ### Characters and words -/

def failAt {α : Type} (line : Nat) (text : String) : Reader α := throw ⟨line, text.toList⟩

def advance (n : Nat) : Reader Unit := modify fun s =>
  { s with rest := s.rest.drop n, line := s.line + (s.rest.take n).count '\n' }

/-- The number of characters before the next word: blanks, comments, ends of lines that are escaped, and
    other ends of lines where they do not count. -/
def blanksAt (overLines : Bool) : Bool → Octets → Nat
  | _, [] => 0
  | true, '\n' :: cs => if overLines then 1 + blanksAt overLines false cs else 0
  | true, _ :: cs => 1 + blanksAt overLines true cs
  | false, '\\' :: '\n' :: cs => 2 + blanksAt overLines false cs
  | false, '#' :: cs => 1 + blanksAt overLines true cs
  | false, c :: cs =>
    if c == ' ' || c == '\t' || c == '\r' || (overLines && c == '\n') then 1 + blanksAt overLines false cs
    else 0

def skip (overLines : Bool) : Reader Unit := do
  advance (blanksAt overLines false (← get).rest)

def upcoming : Reader Octets := do
  skip false
  return (← get).rest

/-- Operators; a longer one comes before what it starts with. -/
def operators : List String :=
  ["&&", "||", "++", "--", "+=", "-=", "*=", "/=", "%=", "^=", "==", "<=", ">=", "!=", "!~", ">>", "\x7b",
    "\x7d", "(", ")", "[", "]", ";", ",", "+", "-", "*", "/", "%", "^", "!", ">", "<", "|", "?", ":", "~",
    "$", "="]

def operatorAt? (text : Octets) : Option String :=
  operators.find? fun op => op.toList.isPrefixOf text

def nameAt (text : Octets) : Octets :=
  match text with
  | c :: _ => if isNameStart c then text.takeWhile isNameChar else []
  | [] => []

def unexpected {α : Type} : Reader α := do
  let text ← upcoming
  let s ← get
  match text with
  | [] => failAt (s.line + 1) "missing \x7d near end of file"
  | '\n' :: _ => failAt s.line "syntax error at or near end of line"
  | c :: _ =>
    let shown := match nameAt text, operatorAt? text with
      | [], some op => op.toList
      | [], none => if isDecimalDigit c then text.takeWhile (fun c => isNameChar c || c == '.') else [c]
      | name, _ => name
    throw ⟨s.line, "syntax error at or near ".toList ++ shown⟩

def isNext (op : String) : Reader Bool := do
  return operatorAt? (← upcoming) == some op

def takes (op : String) : Reader Bool := do
  if ← isNext op then
    advance op.length
    return true
  else return false

def expect (op : String) : Reader Unit := do
  if ← takes op then return () else unexpected

def isWord (word : String) : Reader Bool := do
  return nameAt (← upcoming) == word.toList

def takesWord (word : String) : Reader Bool := do
  if ← isWord word then
    advance word.length
    return true
  else return false

def keywords : List String :=
  ["BEGIN", "END", "break", "continue", "delete", "do", "else", "exit", "for", "func", "function", "getline",
    "if", "in", "next", "nextfile", "print", "printf", "return", "while"]

def functions : List String :=
  ["atan2", "close", "cos", "exp", "fflush", "gsub", "index", "int", "length", "log", "match", "rand", "sin",
    "split", "sprintf", "sqrt", "srand", "sub", "substr", "system", "tolower", "toupper"]

def isOwnName (name : Octets) : Bool :=
  !name.isEmpty && !(keywords ++ functions).any fun k => k.toList == name

def ownName : Reader Octets := do
  let name := nameAt (← upcoming)
  if isOwnName name then
    advance name.length
    return name
  else unexpected

/-- Repeats a step as long as it gives something. Each takes a character, which bounds their number. -/
def folded {α : Type} (step : α → Reader (Option α)) (start : α) : Reader α := do
  go ((← get).room + 1) start
where
  go : Nat → α → Reader α
    | 0, a => return a
    | fuel + 1, a => do
      match ← step a with
      | some b => go fuel b
      | none => return a

/-! ### Constants -/

/-- What an escape stands for, and what follows; the text starts after the backslash. -/
def escapeAt (cs : Octets) : Octets × Octets :=
  match cs with
  | [] => (['\\'], [])
  | 'n' :: cs => (['\n'], cs)
  | 't' :: cs => (['\t'], cs)
  | 'r' :: cs => (['\r'], cs)
  | 'a' :: cs => (['\x07'], cs)
  | 'b' :: cs => (['\x08'], cs)
  | 'f' :: cs => (['\x0c'], cs)
  | 'v' :: cs => (['\x0b'], cs)
  | '"' :: cs => (['"'], cs)
  | '\\' :: cs => (['\\'], cs)
  | '\n' :: cs => ([], cs)
  | c :: cs =>
    let digits := ((c :: cs).take 3).takeWhile fun c => (digitOf? 8 c).isSome
    if digits.isEmpty then (['\\', c], cs)
    else ([Char.ofNat ((digitsAt 8 digits).1 % 256)], (c :: cs).drop digits.length)

/-- The text with its escapes replaced. Each step takes a character. -/
def unescape : Nat → Octets → Octets
  | 0, _ => []
  | _ + 1, [] => []
  | fuel + 1, '\\' :: cs =>
    let (out, rest) := escapeAt cs
    out ++ unescape fuel rest
  | fuel + 1, c :: cs => c :: unescape fuel cs

/-- The characters up to a closing mark, which a backslash keeps from closing. -/
def upToMark (mark : Char) : Octets → Option (Octets × Octets)
  | [] => none
  | '\n' :: _ => none
  | '\\' :: c :: cs => (upToMark mark cs).map fun (a, b) => ('\\' :: c :: a, b)
  | c :: cs => if c == mark then some ([], cs) else (upToMark mark cs).map fun (a, b) => (c :: a, b)

def string : Reader Octets := do
  let s ← get
  match upToMark '"' s.rest with
  | some (body, rest) =>
    advance (s.rest.length - rest.length)
    return unescape (body.length + 1) body
  | none => failAt s.line "runaway string constant"

/-- The text of an expression for patterns, as scripts write them: escapes stand for characters, but those
    of marks stay. -/
def patternText : Octets → Octets
  | '\\' :: 'n' :: cs => '\n' :: patternText cs
  | '\\' :: 't' :: cs => '\t' :: patternText cs
  | '\\' :: 'r' :: cs => '\r' :: patternText cs
  | '\\' :: 'f' :: cs => '\x0c' :: patternText cs
  | '\\' :: '/' :: cs => '/' :: patternText cs
  | '\\' :: '"' :: cs => '"' :: patternText cs
  | '\\' :: c :: cs => '\\' :: c :: patternText cs
  | c :: cs => c :: patternText cs
  | [] => []

/-- The expression for a pattern; one that cannot be read matches nothing. -/
def patternOf (text : Octets) : Regex :=
  match Regex.ofText ⟨true, false, false⟩ (patternText text) with
  | .ok read => read.regex
  | .error _ => .one ⟨false, []⟩

def pattern : Reader Expr := do
  let s ← get
  match upToMark '/' s.rest with
  | some (body, rest) =>
    advance (s.rest.length - rest.length)
    return .pattern (patternOf body)
  | none => failAt s.line "runaway regular expression"

/-! ### Expressions -/

/-- What an operator may not mean where an expression stands. -/
structure Context where
  printing : Bool
  looping : Bool

def Context.free : Context := ⟨false, false⟩

structure Grammar where
  expr (c : Context) : Reader Expr
  action : Reader Action

def isTarget : Expr → Bool
  | .name _ => true
  | .element .. => true
  | .field _ => true
  | _ => false

def exprList (g : Grammar) (c : Context) : Reader (List Expr) := do
  let first ← g.expr c
  let rest ← folded (fun (found : List Expr) => do
    if ← takes "," then
      skip true
      return some ((← g.expr c) :: found)
    else return none) [first]
  return rest.reverse

/-- The arguments of a function, after the opening parenthesis. -/
def arguments (g : Grammar) : Reader (List Expr) := do
  skip true
  if ← takes ")" then return []
  let args ← exprList g .free
  skip true
  expect ")"
  return args

def argumentCounts : List (String × List Nat) := [
  ("atan2", [2]), ("close", [1]), ("cos", [1]), ("exp", [1]), ("fflush", [0, 1]), ("gsub", [2, 3]),
  ("index", [2]), ("int", [1]), ("length", [0, 1]), ("log", [1]), ("match", [2]), ("rand", [0]), ("sin", [1]),
  ("split", [2, 3]), ("sqrt", [1]), ("srand", [0, 1]), ("sub", [2, 3]), ("substr", [2, 3]), ("system", [1]),
  ("tolower", [1]), ("toupper", [1])]

def builtinCall (g : Grammar) (name : String) : Reader Expr := do
  advance name.length
  let args ← if ← takes "(" then arguments g
    else if name == "length" then pure [] else unexpected
  match argumentCounts.lookup name with
  | some counts =>
    if counts.contains args.length then return .computed name args
    else failAt (← get).line ("wrong number of arguments in call to " ++ name)
  | none => return .computed name args

/-- A variable, an element of an array, or a call of a function of the program. -/
def named (g : Grammar) (name : Octets) : Reader Expr := do
  advance name.length
  if (← get).rest.head? == some '(' then
    advance 1
    return .called name (← arguments g)
  else if ← takes "[" then
    let key ← exprList g .free
    expect "]"
    return .element name key
  else return .name name

def numberAt? (text : Octets) : Option (Float × Octets) :=
  (fractionAt? 10 ['e', 'E'] 10 text).map fun ((num, den), rest) => (floatOf (.finite false num den), rest)

/-- Something in parentheses, after the first one: an expression, or several that make a key. -/
def parenthesised (g : Grammar) : Reader Expr := do
  skip true
  let items ← exprList g .free
  skip true
  expect ")"
  match items with
  | [e] => return e
  | items =>
    if ← takesWord "in" then return .member items (← ownName) else return .tuple items

/-- Fields, constants, names and what is in parentheses. The place of a field is described by `inner`. -/
def primary (g : Grammar) : Nat → Reader Expr
  | 0 => unexpected
  | fuel + 1 => do
    let text ← upcoming
    match operatorAt? text with
    | some "(" =>
      advance 1
      parenthesised g
    | some "$" =>
      advance 1
      if ← takes "++" then return .field (.stepped false true (← primary g fuel))
      else if ← takes "--" then return .field (.stepped false false (← primary g fuel))
      else if ← takes "-" then return .field (.signed true (← primary g fuel))
      else return .field (← primary g fuel)
    | some "/" =>
      advance 1
      pattern
    | some "/=" =>
      advance 1
      pattern
    | some "++" =>
      advance 2
      return .stepped false true (← primary g fuel)
    | some "--" =>
      advance 2
      return .stepped false false (← primary g fuel)
    | some "-" =>
      advance 1
      return .signed true (← primary g fuel)
    | some "+" =>
      advance 1
      return .signed false (← primary g fuel)
    | some "!" =>
      advance 1
      return .negated (← primary g fuel)
    | some _ => unexpected
    | none =>
      match text with
      | '"' :: _ =>
        advance 1
        return .text (← string)
      | text =>
        match numberAt? text with
        | some (x, rest) =>
          advance (text.length - rest.length)
          return .number x
        | none =>
          let name := nameAt text
          match functions.find? fun k => k.toList == name with
          | some k => builtinCall g k
          | none =>
            if name == "getline".toList then
              advance name.length
              getline fuel
            else if isOwnName name then named g name
            else unexpected
where
  /-- The next record, after the word that asks for it. -/
  getline (fuel : Nat) : Reader Expr := do
    let text ← upcoming
    let hasTarget := text.head? == some '$' || isOwnName (nameAt text)
    let target ← if hasTarget then do pure (some (← primary g fuel)) else pure none
    if ← takes "<" then return .read target (some (← primary g fuel)) else return .read target none

def stepped (g : Grammar) : Reader Expr := do
  let e ← primary g ((← get).room + 1)
  if !isTarget e then return e
  else if ← takes "++" then return .stepped true true e
  else if ← takes "--" then return .stepped true false e
  else return e

/-- Powers, which go from the right, and signs, which come after powers. -/
def power (g : Grammar) : Nat → Reader Expr
  | 0 => unexpected
  | fuel + 1 => do
    if ← takes "!" then return .negated (← power g fuel)
    else if ← takes "-" then return .signed true (← power g fuel)
    else if ← takes "+" then return .signed false (← power g fuel)
    else
      let base ← stepped g
      if ← takes "^" then return .calculated .power base (← power g fuel) else return base

/-- Expressions of one level with operators between them, from the left. -/
def leftward (level : Reader Expr) (operations : List (String × (Expr → Expr → Expr))) : Reader Expr := do
  let first ← level
  folded (fun e => do
    match operatorAt? (← upcoming) with
    | some op =>
      match operations.lookup op with
      | some make =>
        advance op.length
        skip (op == "&&" || op == "||")
        return some (make e (← level))
      | none => return none
    | none => return none) first

def product (g : Grammar) : Reader Expr := do
  leftward (power g ((← get).room + 1)) [("*", .calculated .multiply), ("/", .calculated .divide),
    ("%", .calculated .remainder)]

def sum (g : Grammar) : Reader Expr :=
  leftward (product g) [("+", .calculated .add), ("-", .calculated .subtract)]

/-- Something that can be joined to what comes before it starts here. -/
def startsPart : Reader Bool := do
  let text ← upcoming
  match text, operatorAt? text with
  | [], _ => return false
  | _, some op => return ["$", "(", "++", "--"].contains op
  | c :: cs, none =>
    let name := nameAt (c :: cs)
    return c == '"' || isDecimalDigit c || c == '.' || isOwnName name ||
      functions.any fun k => k.toList == name

def join (g : Grammar) : Reader Expr := do
  let first ← sum g
  folded (fun e => do if ← startsPart then return some (.joined e (← sum g)) else return none) first

def piped (g : Grammar) : Reader Expr := do
  let first ← join g
  folded (fun e => do
    let before ← get
    if ← takes "|" then
      if ← takesWord "getline" then
        let text ← upcoming
        let hasTarget := text.head? == some '$' || isOwnName (nameAt text)
        let target ← if hasTarget then do pure (some (← primary g (before.room + 1))) else pure none
        return some (.readFrom target e)
      else
        set before
        return none
    else return none) first

/-- Comparisons. A sign may tell instead where output goes. -/
def comparison (g : Grammar) (c : Context) : Reader Expr := do
  let first ← piped g
  let signs : List (String × Comparison) := [("<", .less), ("<=", .lessOrEqual), ("==", .equal),
    ("!=", .different), (">", .greater), (">=", .greaterOrEqual)]
  match operatorAt? (← upcoming) with
  | some op =>
    match if c.printing && op == ">" then none else signs.lookup op with
    | some sign =>
      advance op.length
      return .compared sign first (← piped g)
    | none => return first
  | none => return first

def fitting (g : Grammar) (c : Context) : Reader Expr :=
  leftward (comparison g c) [("~", .fits true), ("!~", .fits false)]

def membership (g : Grammar) (c : Context) : Reader Expr := do
  let first ← fitting g c
  folded (fun e => do
    if !c.looping && (← takesWord "in") then
      return some (.member [e] (← ownName))
    else return none) first

def assignment (g : Grammar) (c : Context) : Reader Expr := do
  let e ← leftward (leftward (membership g c) [("&&", .both)]) [("||", .either)]
  let operations : List (String × Option Operation) := [("=", none), ("+=", some .add),
    ("-=", some .subtract), ("*=", some .multiply), ("/=", some .divide), ("%=", some .remainder),
    ("^=", some .power)]
  if ← takes "?" then
    skip true
    let yes ← g.expr c
    skip true
    expect ":"
    skip true
    return .chosen e yes (← g.expr c)
  else
    match (operatorAt? (← upcoming)).bind fun op => (operations.lookup op).map fun o => (op, o) with
    | some (op, operation) =>
      if isTarget e then
        advance op.length
        skip true
        return .assigned operation e (← g.expr c)
      else unexpected
    | none => return e

/-! ### Actions -/

def isEnd : Reader Bool := do
  let text ← upcoming
  return text.isEmpty || text.head? == some '\n' || ["\x7d", ";"].any fun op => operatorAt? text == some op

def terminator : Reader Unit := do
  let text ← upcoming
  if text.head? == some '\n' || operatorAt? text == some ";" then
    advance 1
    skip true
  else if operatorAt? text == some "\x7d" || text.isEmpty then return ()
  else unexpected

def printing (g : Grammar) (formatted : Bool) : Reader Action := do
  let text ← upcoming
  let bare := (← isEnd) || [">", ">>", "|"].any fun op => operatorAt? text == some op
  let list ← if bare then pure [] else exprList g ⟨true, false⟩
  let args := match list with
    | [.tuple items] => items
    | list => list
  if ← takes ">>" then return .print formatted args (some (.file true, ← join g))
  else if ← takes ">" then return .print formatted args (some (.file false, ← join g))
  else if ← takes "|" then return .print formatted args (some (.command, ← join g))
  else return .print formatted args none

def optional (g : Grammar) : Reader (Option Expr) := do
  if ← isEnd then return none else return some (← g.expr .free)

def simple (g : Grammar) : Reader Action := do
  if ← takesWord "print" then printing g false
  else if ← takesWord "printf" then printing g true
  else if ← takesWord "next" then return .next
  else if ← takesWord "nextfile" then return .nextFile
  else if ← takesWord "break" then return .leave
  else if ← takesWord "continue" then return .skip
  else if ← takesWord "exit" then return .exit (← optional g)
  else if ← takesWord "return" then return .back (← optional g)
  else if ← takesWord "delete" then
    let array ← ownName
    if ← takes "[" then
      let key ← exprList g .free
      expect "]"
      return .delete array (some key)
    else return .delete array none
  else return .value (← g.expr .free)

def block (g : Grammar) : Reader Action := do
  skip true
  let actions ← folded (fun (found : List Action) => do
    skip true
    if ← isNext "\x7d" then return none
    else if ← takes ";" then return some found
    else if (← upcoming).isEmpty then unexpected
    else return some ((← g.action) :: found)) []
  expect "\x7d"
  return .block actions.reverse

/-- The name and the array of a loop over keys, after the opening parenthesis, if it is one. -/
def eachHeader? : Reader (Option (Octets × Octets)) := do
  let before ← get
  let name := nameAt (← upcoming)
  if isOwnName name then
    advance name.length
    if ← takesWord "in" then
      let array := nameAt (← upcoming)
      if isOwnName array then
        advance array.length
        if ← takes ")" then return some (name, array)
  set before
  return none

/-- The header of a loop that counts, after the opening parenthesis, and its body. -/
def counting (g : Grammar) : Reader Action := do
  let start ← if ← isNext ";" then pure (.block []) else simple g
  expect ";"
  skip true
  let condition ← if ← isNext ";" then pure none else do pure (some (← g.expr .free))
  expect ";"
  skip true
  let step ← if ← isNext ")" then pure none else do pure (some (← simple g))
  expect ")"
  skip true
  let body ← if ← takes ";" then pure (.block []) else g.action
  return .block [start, .loop condition true body step]

def condition (g : Grammar) : Reader Expr := do
  expect "("
  skip true
  let e ← g.expr .free
  skip true
  expect ")"
  return e

def action (g : Grammar) : Reader Action := do
  skip true
  if ← takes "\x7b" then
    let b ← block g
    let _ ← takes ";"
    return b
  else if ← takes ";" then return .block []
  else if ← takesWord "if" then
    let e ← condition g
    skip true
    let yes ← g.action
    let before ← get
    skip true
    let _ ← takes ";"
    skip true
    if ← takesWord "else" then return .branch e yes (some (← g.action))
    else
      set before
      return .branch e yes none
  else if ← takesWord "while" then
    let e ← condition g
    skip false
    let body ← if ← takes ";" then pure (.block []) else g.action
    return .loop (some e) true body none
  else if ← takesWord "do" then
    let body ← g.action
    skip true
    if ← takesWord "while" then
      let e ← condition g
      terminator
      return .loop (some e) false body none
    else unexpected
  else if ← takesWord "for" then
    expect "("
    match ← eachHeader? with
    | some (name, array) => return .each name array (← g.action)
    | none => counting g
  else
    let a ← simple g
    terminator
    return a

def grammar : Nat → Grammar
  | 0 => ⟨fun _ => unexpected, unexpected⟩
  | depth + 1 =>
    let g := grammar depth
    ⟨assignment g, action g⟩

/-! ### Programs -/

def function (g : Grammar) : Reader Function := do
  let name ← ownName
  expect "("
  skip true
  let parameters ← if ← isNext ")" then pure [] else do
    let first ← ownName
    let rest ← folded (fun (found : List Octets) => do
      if ← takes "," then
        skip true
        return some ((← ownName) :: found)
      else return none) [first]
    pure rest.reverse
  expect ")"
  skip true
  expect "\x7b"
  return ⟨name, parameters, ← block g⟩

def ruleAction (g : Grammar) : Reader (Option Action) := do
  if ← takes "\x7b" then return some (← block g) else return none

def rule (g : Grammar) : Reader Rule := do
  if ← takesWord "BEGIN" then
    expect "\x7b"
    return ⟨.first, some (← block g)⟩
  else if ← takesWord "END" then
    expect "\x7b"
    return ⟨.last, some (← block g)⟩
  else if ← isNext "\x7b" then return ⟨.always, ← ruleAction g⟩
  else
    let start ← g.expr .free
    if ← takes "," then
      skip true
      let stop ← g.expr .free
      return ⟨.range start stop, ← ruleAction g⟩
    else return ⟨.each start, ← ruleAction g⟩

def maxNesting : Nat := 300

def program : Reader Program := do
  let g := grammar maxNesting
  let p ← folded (fun (p : Program) => do
    skip true
    if (← upcoming).isEmpty then return none
    else if ← takes ";" then return some p
    else if (← takesWord "function") || (← takesWord "func") then
      return some { p with functions := (← function g) :: p.functions }
    else return some { p with rules := (← rule g) :: p.rules }) ⟨[], []⟩
  return ⟨p.rules.reverse, p.functions.reverse⟩

end Reader

def Program.ofText (text : Octets) : Except Misread Program :=
  (StateT.run Reader.program ⟨text, 1, text.length⟩).map (·.1)

end TlaDigest.Script.Awk
