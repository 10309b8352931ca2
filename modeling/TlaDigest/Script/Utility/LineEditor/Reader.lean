import TlaDigest.Script.Regex.Reader
import TlaDigest.Script.Job

/-!
# Programs of the stream editor

Commands with the addresses of lines to which they apply. The text of a program is read command by
command; a fault is reported with the number of characters up to it.
-/

namespace TlaDigest.Script.Utility

open Text

namespace LineEditor

/-! ### Programs -/

/-- A regular expression, or the one that was used last. -/
structure Finder where
  regex : Option ReadRegex
  lines : Bool

inductive Address where
  | line (n : Nat)
  | step (first width : Nat)
  | last
  | found (f : Finder)

inductive RangeEnd where
  | at (a : Address)
  | later (n : Nat)
  | multiple (n : Nat)

inductive Scope where
  | all
  | one (a : Address)
  | range (first : Address) (last : RangeEnd)
  /-- From the start, before the first line was looked at. -/
  | fromStart (last : Finder)

inductive CaseChange where
  | upper
  | lower
  | upperNext
  | lowerNext
  | stop
deriving DecidableEq, Repr

inductive Piece where
  | text (t : Octets)
  | group (index : Nat)
  | change (c : CaseChange)

structure Substitution where
  finder : Finder
  pieces : List Piece
  all : Bool
  /-- The number of the match from which on something is replaced. -/
  number : Nat
  prints : Bool
  file : Option Octets

inductive Action where
  | block
  | endBlock
  | number
  | append (text : Octets)
  | insert (text : Octets)
  | change (text : Octets)
  | jump (label : Octets)
  | jumpIf (label : Octets)
  | jumpUnless (label : Octets)
  | label (name : Octets)
  | delete
  | deleteFirst
  | print
  | printFirst
  | next
  | addNext
  | quit (prints : Bool) (status : Nat)
  | readFile (name : Octets)
  | readLine (name : Octets)
  | writeFile (first : Bool) (name : Octets)
  | hold (adds : Bool)
  | get (adds : Bool)
  | exchange
  | clear
  | list (width : Option Nat)
  | fileName
  | substitute (s : Substitution)
  | replaceChars (table : List (Char × Char))
  | nothing

structure Command where
  scope : Scope
  negated : Bool
  action : Action

/-! ### Reading -/

structure Place where
  rest : Octets
  /-- The characters that were taken, the latest first. -/
  taken : Octets

/-- A fault, and how many characters were taken before it; none where the place does not count. -/
structure Fault where
  text : Octets
  taken : Option Octets

abbrev ReaderM := StateT Place (Except Fault)

def wrong {α : Type} (text : String) : ReaderM α := do
  throw ⟨text.toList, some (← get).taken⟩

def peek : ReaderM (Option Char) := do return (← get).rest.head?

def take : ReaderM (Option Char) := do
  match (← get).rest with
  | [] => return none
  | c :: cs =>
    modify fun p => ⟨cs, c :: p.taken⟩
    return some c

def takeWhile (p : Char → Bool) : ReaderM Octets := do
  let text := (← get).rest.takeWhile p
  modify fun s => ⟨s.rest.drop text.length, text.reverse ++ s.taken⟩
  return text

def isGap (c : Char) : Bool := isSpace c && c != '\n'

def takeNumber : ReaderM (Option Nat) := do
  let digits ← takeWhile isDecimalDigit
  return if digits.isEmpty then none else nat? digits

structure Form where
  extended : Bool

/-- The text up to a mark that ends it. A mark after a backslash is part of the text, and so is one in
    brackets, where a regular expression is read. Each step takes a character. -/
def delimited (mark : Char) (isRegex : Bool) : Nat → Octets → ReaderM (Option Octets)
  | 0, _ => return none
  | fuel + 1, acc => do
    match ← take with
    | none => return none
    | some c =>
      if c == mark then return some acc.reverse
      else if c == '\n' && isRegex then return none
      else if c == '\\' then
        match ← take with
        | none => return none
        | some d =>
          if d == mark && !(!isRegex && d == '&') then delimited mark isRegex fuel (d :: acc)
          else if d == 'n' && isRegex then delimited mark isRegex fuel ('\n' :: acc)
          else delimited mark isRegex fuel (d :: '\\' :: acc)
      else if c == '[' && isRegex then
        -- A set in brackets is taken as a whole, if it is closed.
        match RegexReader.bracket (← get).rest with
        | .ok (_, rest) =>
          let text := (← get).rest.take ((← get).rest.length - rest.length)
          modify fun s => ⟨rest, text.reverse ++ s.taken⟩
          delimited mark isRegex fuel (text.reverse ++ (c :: acc))
        | .error .unclosedBracket =>
          let text := (← get).rest
          modify fun s => ⟨[], text.reverse ++ s.taken⟩
          return none
        | .error .emptyBracket => return none
        | .error _ => delimited mark isRegex fuel (c :: acc)
      else delimited mark isRegex fuel (c :: acc)

/-- A character that is written by its number, and what follows it. -/
def numberedChar? : Octets → Option (Char × Octets)
  | kind :: rest =>
    let coded (base room : Nat) : Option (Char × Octets) :=
      let digits := (rest.take room).takeWhile fun c => (digitOf? base c).isSome
      if digits.isEmpty then none
      else some (Char.ofNat ((digitsAt base digits).1 % 256), rest.drop digits.length)
    match kind with
    | 'd' => coded 10 3
    | 'o' => coded 8 3
    | 'x' => coded 16 2
    | _ => none
  | [] => none

/-- The character that a letter stands for after a backslash. -/
def namedChar? : Char → Option Char
  | 'a' => some '\x07'
  | 'f' => some '\x0c'
  | 'n' => some '\n'
  | 'r' => some '\r'
  | 't' => some '\t'
  | 'v' => some '\x0b'
  | _ => none

def plainRegex : Nat → Octets → Octets
  | 0, text => text
  | _ + 1, [] => []
  | fuel + 1, '\\' :: rest =>
    match numberedChar? rest with
    | some (c, rest) =>
      (if "*.[]^$/\\".toList.contains c then ['\\', c] else [c]) ++ plainRegex fuel rest
    | none =>
      match rest with
      | c :: rest =>
        match if c == 'n' then none else namedChar? c with
        | some named => named :: plainRegex fuel rest
        | none => '\\' :: c :: plainRegex fuel rest
      | [] => ['\\']
  | fuel + 1, c :: rest => c :: plainRegex fuel rest

def plainBrackets : Nat → Bool → Octets → Octets
  | 0, _, text => text
  | _ + 1, _, [] => []
  | fuel + 1, true, '\\' :: 'n' :: rest => '\n' :: plainBrackets fuel true rest
  | fuel + 1, true, ']' :: rest => ']' :: plainBrackets fuel false rest
  | fuel + 1, true, c :: rest => c :: plainBrackets fuel true rest
  | fuel + 1, false, '\\' :: c :: rest => '\\' :: c :: plainBrackets fuel false rest
  | fuel + 1, false, '[' :: '^' :: ']' :: rest => "[^]".toList ++ plainBrackets fuel true rest
  | fuel + 1, false, '[' :: ']' :: rest => "[]".toList ++ plainBrackets fuel true rest
  | fuel + 1, false, '[' :: rest => '[' :: plainBrackets fuel true rest
  | fuel + 1, false, c :: rest => c :: plainBrackets fuel false rest

def finderOf (form : Form) (text flags : Octets) : ReaderM Finder := do
  let lines := flags.contains 'M' || flags.contains 'm'
  let text := plainBrackets (text.length + 1) false (plainRegex (text.length + 1) text)
  if text.isEmpty then return ⟨none, lines⟩
  else
    match Regex.ofText ⟨form.extended, flags.contains 'I' || flags.contains 'i', true⟩ text with
    | .ok read => return ⟨some read, lines⟩
    | .error .bareClass => throw ⟨RegexError.bareClass.message.toList, none⟩
    | .error fault => wrong fault.message

def address? (form : Form) : ReaderM (Option Address) := do
  let regex (mark : Char) : ReaderM (Option Address) := do
    match ← delimited mark true ((← get).rest.length + 1) [] with
    | none => wrong "unterminated address regex"
    | some text =>
      let flags ← takeWhile fun c => c == 'I' || c == 'M'
      return some (.found (← finderOf form text flags))
  match ← peek with
  | some '$' =>
    let _ ← take
    return some .last
  | some '/' =>
    let _ ← take
    regex '/'
  | some '\\' =>
    let _ ← take
    match ← take with
    | some mark => regex mark
    | none => wrong "unexpected `,'"
  | _ =>
    match ← takeNumber with
    | none => return none
    | some n =>
      if (← peek) == some '~' then
        let _ ← take
        return some (.step n ((← takeNumber).getD 0))
      else return some (.line n)

def scope (form : Form) : ReaderM Scope := do
  match ← peek with
  | some '+' =>
    let _ ← takeWhile fun c => c == '+' || isDecimalDigit c
    wrong "invalid usage of +N or ~N as first address"
  | _ => pure ()
  match ← address? form with
  | none => return .all
  | some first =>
    let _ ← takeWhile isGap
    let zero := match first with
      | .line 0 => true
      | _ => false
    if (← peek) != some ',' then
      if zero then
        let _ ← take
        wrong "invalid usage of line address 0"
      return .one first
    let _ ← take
    let _ ← takeWhile isGap
    match ← peek with
    | some '+' =>
      let _ ← take
      return .range first (.later ((← takeNumber).getD 0))
    | some '~' =>
      let _ ← take
      return .range first (.multiple ((← takeNumber).getD 0))
    | _ =>
      match ← address? form with
      | none =>
        let _ ← take
        wrong "unexpected `,'"
      | some final =>
        match zero, final with
        | true, .found f => return .fromStart f
        | true, _ =>
          let _ ← take
          wrong "invalid usage of line address 0"
        | false, final => return .range first (.at final)

/-- The end of a command: nothing but blanks may stand before it. -/
def endOfCommand : ReaderM Unit := do
  let _ ← takeWhile isGap
  match ← peek with
  | none => return ()
  | some '\x7d' => return ()
  | some '#' => return ()
  | some c =>
    let _ ← take
    if c == '\n' || c == ';' then return ()
    wrong "extra characters after command"

def filename : ReaderM Octets := do
  let _ ← takeWhile isGap
  let name ← takeWhile (· != '\n')
  if name.isEmpty then wrong "missing filename in r/R/w/W commands"
  let _ ← take
  return name

def labelText : ReaderM Octets := do
  let _ ← takeWhile isGap
  takeWhile fun c => !isSpace c && c != ';'

/-- The lines of a text: a backslash at the end of a line keeps it going. -/
def textLines : Nat → ReaderM Octets
  | 0 => return []
  | fuel + 1 => do
    match ← take with
    | none => return ['\n']
    | some '\n' => return ['\n']
    | some '\\' =>
      match numberedChar? (← get).rest with
      | some (c, rest) =>
        modify fun s => ⟨rest, (s.rest.take (s.rest.length - rest.length)).reverse ++ s.taken⟩
        return c :: (← textLines fuel)
      | none =>
        match ← take with
        | none => return ['\n']
        | some c => return (namedChar? c).getD c :: (← textLines fuel)
    | some c => return c :: (← textLines fuel)

def textArgument : ReaderM Octets := do
  let _ ← takeWhile isGap
  match ← peek with
  | none => wrong "expected \\ after `a', `c' or `i'"
  | some '\n' => wrong "expected \\ after `a', `c' or `i'"
  | some '\\' =>
    let _ ← take
    let blanks ← takeWhile isGap
    match ← peek with
    | none => return []
    | some '\n' =>
      let _ ← take
      textLines ((← get).rest.length + 1)
    | some _ => return blanks ++ (← textLines ((← get).rest.length + 1))
  | some _ => textLines ((← get).rest.length + 1)

def pieces : Nat → Octets → List Piece
  | 0, _ => []
  | _ + 1, [] => []
  | fuel + 1, '&' :: rest => .group 0 :: pieces fuel rest
  | fuel + 1, '\\' :: rest =>
    match numberedChar? rest with
    | some (c, rest) => .text [c] :: pieces fuel rest
    | none =>
      match rest with
      | [] => [.text ['\\']]
      | c :: rest =>
        let piece : Piece := match c with
          | 'U' => .change .upper
          | 'L' => .change .lower
          | 'u' => .change .upperNext
          | 'l' => .change .lowerNext
          | 'E' => .change .stop
          | c => if isDecimalDigit c then .group (c.toNat - '0'.toNat) else .text [(namedChar? c).getD c]
        piece :: pieces fuel rest
  | fuel + 1, c :: rest => .text [c] :: pieces fuel rest

structure SubstituteFlags where
  all : Bool
  prints : Bool
  number : Option Nat
  letters : Octets
  file : Option Octets

/-- Reads the options of a replacement. Each step takes a character. -/
def substituteFlags : Nat → SubstituteFlags → ReaderM SubstituteFlags
  | 0, f => return f
  | fuel + 1, f => do
    match ← peek with
    | none => return f
    | some c =>
      if c == '\x7d' || c == '#' then return f
      else if isDecimalDigit c then
        if f.number.isSome then
          let _ ← take
          wrong "multiple number options to `s' command"
        let n ← takeNumber
        if n == some 0 then wrong "number option to `s' command may not be zero"
        substituteFlags fuel { f with number := n }
      else
        let _ ← take
        match c with
        | '\n' => return f
        | ';' => return f
        | 'g' => if f.all then wrong "multiple `g' options to `s' command"
                 substituteFlags fuel { f with all := true }
        | 'p' => if f.prints then wrong "multiple `p' options to `s' command"
                 substituteFlags fuel { f with prints := true }
        | 'i' => substituteFlags fuel { f with letters := 'I' :: f.letters }
        | 'I' => substituteFlags fuel { f with letters := 'I' :: f.letters }
        | 'm' => substituteFlags fuel { f with letters := 'M' :: f.letters }
        | 'M' => substituteFlags fuel { f with letters := 'M' :: f.letters }
        | 'e' => substituteFlags fuel f
        | 'w' => return { f with file := some (← filename) }
        | c => if isGap c then substituteFlags fuel f else wrong "unknown option to `s'"

def substitution (form : Form) : ReaderM Action := do
  let fault : String := "unterminated `s' command"
  match ← take with
  | none => wrong fault
  | some mark =>
    let size := (← get).rest.length + 1
    match ← delimited mark true size [] with
    | none => wrong fault
    | some regex =>
      match ← delimited mark false size [] with
      | none => wrong fault
      | some replacement =>
        let flags ← substituteFlags size ⟨false, false, none, [], none⟩
        let finder ← finderOf form regex flags.letters
        let parts := pieces (replacement.length + 1) replacement
        let most := parts.foldl (fun n p => match p with
          | .group i => max n i
          | _ => n) 0
        match finder.regex with
        | some read =>
          if read.groups < most then
            wrong ("invalid reference \\" ++ toString most ++ " on `s' command's RHS")
        | none => pure ()
        return .substitute ⟨finder, parts, flags.all, flags.number.getD 1, flags.prints, flags.file⟩

def plainChars : Octets → Octets
  | '\\' :: '\\' :: rest => '\\' :: plainChars rest
  | '\\' :: 'n' :: rest => '\n' :: plainChars rest
  | '\\' :: c :: rest => match namedChar? c with
    | some d => d :: plainChars rest
    | none => '\\' :: c :: plainChars rest
  | c :: rest => c :: plainChars rest
  | [] => []

def replaceChars : ReaderM Action := do
  let fault : String := "unterminated `y' command"
  match ← take with
  | none => wrong fault
  | some mark =>
    let size := (← get).rest.length + 1
    match ← delimited mark false size [] with
    | none => wrong fault
    | some source =>
      match ← delimited mark false size [] with
      | none => wrong fault
      | some target =>
        let source := plainChars source
        let target := plainChars target
        if source.length != target.length then wrong "strings for `y' command are different lengths"
        endOfCommand
        return .replaceChars (source.zip target)

def action (form : Form) (c : Char) (twoAddresses : Bool) : ReaderM Action := do
  let simple (a : Action) : ReaderM Action := do
    endOfCommand
    return a
  let status : ReaderM Nat := do
    let _ ← takeWhile isGap
    return (← takeNumber).getD 0
  match c with
  | '\x7b' => return .block
  | '=' => simple .number
  | 'a' => return .append (← textArgument)
  | 'i' => return .insert (← textArgument)
  | 'c' => return .change (← textArgument)
  | 'b' => do let l ← labelText; simple (.jump l)
  | 't' => do let l ← labelText; simple (.jumpIf l)
  | 'T' => do let l ← labelText; simple (.jumpUnless l)
  | 'd' => simple .delete
  | 'D' => simple .deleteFirst
  | 'p' => simple .print
  | 'P' => simple .printFirst
  | 'n' => simple .next
  | 'N' => simple .addNext
  | 'q' =>
    if twoAddresses then wrong "command only uses one address"
    let n ← status
    simple (.quit true n)
  | 'Q' =>
    if twoAddresses then wrong "command only uses one address"
    let n ← status
    simple (.quit false n)
  | 'r' => return .readFile (← filename)
  | 'R' => return .readLine (← filename)
  | 'w' => return .writeFile false (← filename)
  | 'W' => return .writeFile true (← filename)
  | 'h' => simple (.hold false)
  | 'H' => simple (.hold true)
  | 'g' => simple (.get false)
  | 'G' => simple (.get true)
  | 'x' => simple .exchange
  | 'z' => simple .clear
  | 'F' => simple .fileName
  | 'l' => do
    let _ ← takeWhile isGap
    let n ← takeNumber
    simple (.list n)
  | 's' => substitution form
  | 'y' => replaceChars
  | 'v' => do
    let _ ← labelText
    simple .nothing
  | 'e' => do
    let _ ← takeWhile (· != '\n')
    simple .nothing
  | c => wrong ("unknown command: `" ++ String.singleton c ++ "'")

/-- Reads commands up to the end of the program; `depth` counts the open blocks. Each step takes a
    character. -/
def commands (form : Form) : Nat → Nat → ReaderM (List Command)
  | 0, _ => return []
  | fuel + 1, depth => do
    let _ ← takeWhile fun c => isSpace c || c == ';'
    match ← peek with
    | none => if depth == 0 then return [] else throw ⟨"unmatched `\x7b'".toList, some []⟩
    | some '#' =>
      let _ ← takeWhile (· != '\n')
      commands form fuel depth
    | some _ =>
      let scope ← scope form
      let _ ← takeWhile isSpace
      let negated := (← peek) == some '!'
      if negated then
        let _ ← take
        let _ ← takeWhile isSpace
        if (← peek) == some '!' then
          let _ ← take
          wrong "multiple `!'s"
      let bare := match scope with
        | .all => true
        | _ => false
      let two := match scope with
        | .range .. => true
        | .fromStart _ => true
        | _ => false
      match ← take with
      | none => wrong "missing command"
      | some '\n' => wrong "missing command"
      | some ';' => wrong "missing command"
      | some '#' => wrong "comments don't accept any addresses"
      | some '\x7d' =>
        if depth == 0 then wrong "unexpected `\x7d'"
        if !bare then wrong "\x7d doesn't want any addresses"
        endOfCommand
        return ⟨.all, false, .endBlock⟩ :: (← commands form fuel (depth - 1))
      | some ':' =>
        if !bare then wrong ": doesn't want any addresses"
        let name ← labelText
        if name.isEmpty then wrong "\":\" lacks a label"
        return ⟨.all, false, .label name⟩ :: (← commands form fuel depth)
      | some c =>
        let a ← action form c two
        let opened := match a with
          | .block => depth + 1
          | _ => depth
        return ⟨scope, negated, a⟩ :: (← commands form fuel opened)

def labelsOf (commands : List Command) : List Octets :=
  commands.filterMap fun c => match c.action with
    | .label name => some name
    | _ => none

def lostJump? (commands : List Command) : Option Octets :=
  let labels := labelsOf commands
  commands.findSome? fun c =>
    let target := match c.action with
      | .jump l => l
      | .jumpIf l => l
      | .jumpUnless l => l
      | _ => []
    if target.isEmpty || labels.contains target then none else some target

def program (form : Form) (text : Octets) : Except Fault (List Command) := do
  let (list, _) ← (commands form (text.length + 1) 0).run ⟨text, []⟩
  match lostJump? list with
  | some label => throw ⟨"can't find label for jump to `".toList ++ label ++ [apostrophe], none⟩
  | none => return list

end LineEditor

end TlaDigest.Script.Utility
