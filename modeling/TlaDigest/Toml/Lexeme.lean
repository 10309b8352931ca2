import TlaDigest.Text.Blank
import TlaDigest.Text.Numeral

/-!
# Lexemes of a TOML document

The small parts of a TOML document: blanks and comments, strings, keys, and the words that stand for
booleans, numbers and dates. Each reader takes its part from the front of the text and returns the
rest.
-/

namespace TlaDigest.Toml

open Text

/-! ### Blanks and comments -/

def isSpace (c : Char) : Bool := c == ' ' || c == '\t'

def skipSpace (cs : List Char) : List Char := cs.dropWhile isSpace

/-- The characters of comments and literal strings: the tab and everything that is no control. -/
def isPrintable (c : Char) : Bool := c == '\t' || (0x20 ≤ c.toNat && c.toNat ≤ 0x7E) || 0x80 ≤ c.toNat

/-- Drops blanks, line breaks and comments; `comment` tells whether the text starts inside one. -/
def skipTrivia (comment : Bool) : List Char → List Char
  | [] => []
  | '\n' :: cs => skipTrivia false cs
  | '\r' :: '\n' :: cs => skipTrivia false cs
  | c :: cs =>
    if comment then if isPrintable c then skipTrivia true cs else c :: cs
    else if isSpace c then skipTrivia false cs
    else if c = '#' then skipTrivia true cs
    else c :: cs

def lineBreak? : List Char → Option (List Char)
  | '\n' :: cs => some cs
  | '\r' :: '\n' :: cs => some cs
  | _ => none

/-- The end of a statement: blanks, perhaps a comment, and a line break or the end of the text. -/
def endOfLine? (cs : List Char) : Option (List Char) :=
  let cs := skipSpace cs
  let cs := match cs with
    | '#' :: cs => cs.dropWhile isPrintable
    | cs => cs
  match cs with
  | [] => some []
  | cs => lineBreak? cs

/-! ### Strings -/

def hexValue? (c : Char) : Option Nat :=
  if 'a' ≤ c && c ≤ 'f' then some (c.toNat - 87)
  else if 'A' ≤ c && c ≤ 'F' then some (c.toNat - 55)
  else digitValue? c

/-- The number of exactly `n` hexadecimal digits, read on from `value`. -/
def hexNumber? (value : Nat) : Nat → List Char → Option (Nat × List Char)
  | 0, cs => some (value, cs)
  | n + 1, c :: cs => (hexValue? c).bind fun d => hexNumber? (value * 16 + d) n cs
  | _ + 1, [] => none

def char? (n : Nat) : Option Char :=
  if n < 0xD800 ∨ (0xDFFF < n ∧ n < 0x110000) then some (Char.ofNat n) else none

/-- The character that an escape stands for; the text starts after the backslash. -/
def escape? : List Char → Option (Char × List Char)
  | 'b' :: cs => some (Char.ofNat 8, cs)
  | 't' :: cs => some ('\t', cs)
  | 'n' :: cs => some ('\n', cs)
  | 'f' :: cs => some (Char.ofNat 12, cs)
  | 'r' :: cs => some ('\r', cs)
  | 'e' :: cs => some (Char.ofNat 27, cs)
  | '"' :: cs => some ('"', cs)
  | '\\' :: cs => some ('\\', cs)
  | 'x' :: cs => numbered 2 cs
  | 'u' :: cs => numbered 4 cs
  | 'U' :: cs => numbered 8 cs
  | _ => none
where
  numbered (n : Nat) (cs : List Char) : Option (Char × List Char) := do
    let (value, rest) ← hexNumber? 0 n cs
    let c ← char? value
    pure (c, rest)

/-- The body of a string in double quotes as it is written, up to and with the closing quote. A quote
    after a backslash does not close it. -/
def writtenBody? : List Char → Option (List Char × List Char)
  | '"' :: cs => some ([], cs)
  | '\\' :: c :: cs =>
    if isPrintable c then (writtenBody? cs).map fun (body, rest) => ('\\' :: c :: body, rest) else none
  | c :: cs =>
    if isPrintable c then (writtenBody? cs).map fun (body, rest) => (c :: body, rest) else none
  | [] => none

/-- A text in which each escape gives way to its character. Each step takes a character, so the length of the text is fuel
    enough. -/
def unescaped? : Nat → List Char → Option (List Char)
  | _, [] => some []
  | 0, _ => none
  | fuel + 1, '\\' :: cs => do
    let (c, rest) ← escape? cs
    (unescaped? fuel rest).map (c :: ·)
  | fuel + 1, c :: cs => (unescaped? fuel cs).map (c :: ·)

def basicBody? (cs : List Char) : Option (List Char × List Char) := do
  let (written, rest) ← writtenBody? cs
  let body ← unescaped? written.length written
  pure (body, rest)

def literalBody? : List Char → Option (List Char × List Char)
  | [] => none
  | c :: cs =>
    if c = Char.ofNat 39 then some ([], cs)
    else if isPrintable c then (literalBody? cs).map fun (body, rest) => (c :: body, rest)
    else none

/-- The end of a string over several lines, whose closing quotes start the text: up to two quotes
    before them belong to the string. -/
def closing? (quote : Char) (cs : List Char) : Option (List Char × List Char) :=
  let quotes := (cs.takeWhile (· == quote)).length
  if quotes < 3 then none
  else some (List.replicate (min (quotes - 3) 2) quote, cs.drop (min quotes 5))

/-- A backslash at the end of a line takes away the line break and the blanks after it; the text starts
    after the backslash. -/
def foldedLine? (cs : List Char) : Option (List Char) :=
  (lineBreak? (skipSpace cs)).map skipBlankLines
where
  skipBlankLines : List Char → List Char
    | '\r' :: '\n' :: cs => skipBlankLines cs
    | c :: cs => if isSpace c || c == '\n' then skipBlankLines cs else c :: cs
    | [] => []

/-- The body of a string between triple quotes; `escapes` tells whether it knows escapes. -/
def multiLineBody? (quote : Char) (escapes : Bool) : Nat → List Char → Option (List Char × List Char)
  | 0, _ => none
  | fuel + 1, cs =>
    match closing? quote cs with
    | some result => some result
    | none =>
      match cs with
      | [] => none
      | '\\' :: cs =>
        if escapes then
          match foldedLine? cs with
          | some rest => multiLineBody? quote escapes fuel rest
          | none => do
            let (c, rest) ← escape? cs
            let (body, rest) ← multiLineBody? quote escapes fuel rest
            pure (c :: body, rest)
        else (multiLineBody? quote escapes fuel cs).map fun (body, rest) => ('\\' :: body, rest)
      | '\r' :: '\n' :: cs =>
        (multiLineBody? quote escapes fuel cs).map fun (body, rest) => ('\r' :: '\n' :: body, rest)
      | c :: cs =>
        if isPrintable c || c == '\n' then
          (multiLineBody? quote escapes fuel cs).map fun (body, rest) => (c :: body, rest)
        else none

/-- A string between triple quotes; a line break right after the opening ones does not count. -/
def multiLine? (quote : Char) (escapes : Bool) (cs : List Char) : Option (List Char × List Char) :=
  let cs := (lineBreak? cs).getD cs
  multiLineBody? quote escapes (cs.length + 1) cs

def literalQuote : Char := Char.ofNat 39

def lineString? : List Char → Option (List Char × List Char)
  | [] => none
  | c :: cs =>
    if c = '"' then basicBody? cs
    else if c = literalQuote then literalBody? cs
    else none

def string? (cs : List Char) : Option (List Char × List Char) :=
  match cs with
  | a :: b :: c :: rest =>
    if a = '"' ∧ b = '"' ∧ c = '"' then multiLine? '"' true rest
    else if a = literalQuote ∧ b = literalQuote ∧ c = literalQuote then multiLine? literalQuote false rest
    else lineString? cs
  | cs => lineString? cs

/-! ### Keys -/

def isBareKeyChar (c : Char) : Bool := isNameChar c || c == '-'

def keyPart? (cs : List Char) : Option (String × List Char) :=
  match cs.takeWhile isBareKeyChar with
  | [] => (lineString? cs).map fun (key, rest) => (String.ofList key, rest)
  | key => some (String.ofList key, cs.dropWhile isBareKeyChar)

def maxDepth : Nat := 80

/-- At most `room` key parts with dots between them, and blanks around the dots. -/
def keyParts? : Nat → List Char → Option (List String × List Char)
  | 0, _ => none
  | room + 1, cs => do
    let (part, rest) ← keyPart? cs
    match skipSpace rest with
    | '.' :: rest =>
      let (parts, rest) ← keyParts? room (skipSpace rest)
      pure (part :: parts, rest)
    | rest => pure ([part], rest)

def key? (cs : List Char) : Option (List String × List Char) := keyParts? maxDepth cs

/-! ### Words

A word runs on to the next mark of the document, whatever else it holds, so that one reads what the
word is meant to be before its characters are looked at. -/

def isMark (c : Char) : Bool :=
  c == '=' || c == ',' || c == '[' || c == ']' || c == '\x7b' || c == '\x7d' || c == '#' ||
    c == '\r' || c == '\n' || isSpace c

/-- A character that a word goes on with after blanks. -/
def startsWord (c : Char) : Bool := !(isMark c || c == '.' || c == '"' || c == literalQuote)

/-- The word at the front. It may hold blanks in one place, between a date and its time. -/
def scalarWord (cs : List Char) : List Char :=
  let (word, rest) := cutAt isMark cs
  let (blanks, rest) := cutAt (fun c => !isSpace c) rest
  match rest with
  | [] => word
  | c :: _ =>
    if !blanks.isEmpty && startsWord c then word ++ blanks ++ (cutAt isMark rest).1 else word

def isHex (c : Char) : Bool := (hexValue? c).isSome

def isGrouped (digit : Char → Bool) : List Char → Bool
  | [] => false
  | [c] => digit c
  | c :: '_' :: cs => digit c && isGrouped digit cs
  | c :: cs => digit c && isGrouped digit cs

/-- Whether no underscore of a word opens or closes it or stands beside anything but a digit; a single
    character before the first one is taken for a digit. -/
def isSeparated (digit : Char → Bool) (cs : List Char) : Bool :=
  match cs with
  | [] => true
  | '_' :: _ => false
  | c :: '_' :: cs => go c false ('_' :: cs)
  | c :: cs => go c true cs
where
  /-- The same for the text after the character `last`; `checked` tells whether that has to be a digit
      where an underscore follows. -/
  go (last : Char) (checked : Bool) : List Char → Bool
    | [] => last != '_'
    | c :: cs =>
      (if last = '_' then digit c else if c = '_' then !checked || digit last else true) && go c true cs

def unsigned : List Char → List Char
  | '+' :: cs => cs
  | '-' :: cs => cs
  | cs => cs

/-- An integer, in one of the four bases. The digits after the mark of a base may be missing, and only the
    ends of the groups of a decimal number have to look like digits: the number has a place in the
    document even where it has no value. -/
def isInteger (cs : List Char) : Bool :=
  match cs with
  | '0' :: 'x' :: cs => cs.isEmpty || isGrouped isHex cs
  | '0' :: 'o' :: cs => cs.isEmpty || isGrouped (fun c => '0' ≤ c && c ≤ '7') cs
  | '0' :: 'b' :: cs => cs.isEmpty || isGrouped (fun c => c == '0' || c == '1') cs
  | cs =>
    match cutAt (fun c => !c.isDigit) (unsigned cs) with
    | (digits, []) => digits = ['0'] || (!digits.isEmpty && digits.head? != some '0')
    | (digits, '_' :: rest) =>
      digits.head? != some '0' && !rest.any (fun c => c == '.' || c == 'e' || c == 'E' || c == ' ') &&
        isSeparated isHex cs
    | _ => false

/-- Splits off digits and underscores, with the number of the digits. -/
def digitRun (cs : List Char) : Nat × List Char :=
  let (run, rest) := cutAt (fun c => !(c.isDigit || c == '_')) cs
  (run.countP Char.isDigit, rest)

def isExponent : List Char → Bool
  | [] => true
  | c :: cs =>
    match digitRun (unsigned cs) with
    | (_ + 1, []) => c == 'e' || c == 'E'
    | _ => false

def isFloat (cs : List Char) : Bool :=
  let value := unsigned cs
  if value = "inf".toList ∨ value = "nan".toList then true
  else
    isSeparated Char.isDigit cs &&
      match digitRun value with
      | (0, _) => false
      | (_, []) => false
      | (n, rest) =>
        (n = 1 || value.head? != some '0') &&
          match rest with
          | '.' :: rest =>
            match digitRun rest with
            | (0, _) => false
            | (_, rest) => isExponent rest
          | rest => isExponent rest

/-- The value of exactly `n` digits at the front. -/
def fixedDigits? (n : Nat) (cs : List Char) : Option (Nat × List Char) :=
  let digits := cs.take n
  if digits.length = n then (nat? digits).map fun value => (value, cs.drop n) else none

def daysIn (year month : Nat) : Nat :=
  if month = 2 then if year % 4 = 0 ∧ (year % 100 ≠ 0 ∨ year % 400 = 0) then 29 else 28
  else if month = 4 ∨ month = 6 ∨ month = 9 ∨ month = 11 then 30
  else 31

def date? (cs : List Char) : Option (List Char) := do
  let (year, rest) ← fixedDigits? 4 cs
  let rest ← after? ['-'] rest
  let (month, rest) ← fixedDigits? 2 rest
  let rest ← after? ['-'] rest
  let (day, rest) ← fixedDigits? 2 rest
  if 1 ≤ month ∧ month ≤ 12 ∧ 1 ≤ day ∧ day ≤ daysIn year month then some rest else none

def clock? (cs : List Char) : Option (List Char) := do
  let (hour, rest) ← fixedDigits? 2 cs
  let rest ← after? [':'] rest
  let (minute, rest) ← fixedDigits? 2 rest
  if hour ≤ 23 ∧ minute ≤ 59 then some rest else none

/-- The rest after a time of day. Seconds may be left out. -/
def time? (cs : List Char) : Option (List Char) := do
  let rest ← clock? cs
  match rest with
  | ':' :: rest =>
    let (second, rest) ← fixedDigits? 2 rest
    if 60 < second then none
    else
      match rest with
      | '.' :: rest =>
        if (rest.takeWhile Char.isDigit).isEmpty then none else some (rest.dropWhile Char.isDigit)
      | rest => some rest
  | rest => some rest

def isOffset (cs : List Char) : Bool :=
  match cs with
  | [] => true
  | ['Z'] => true
  | ['z'] => true
  | '+' :: cs => clock? cs == some []
  | '-' :: cs => clock? cs == some []
  | _ => false

/-- A date, a time, or both with a letter between them. -/
def isDatetime (cs : List Char) : Bool :=
  match date? cs with
  | some [] => true
  | some (c :: rest) =>
    (c == 'T' || c == 't' || c == ' ') &&
      match time? rest with
      | some rest => isOffset rest
      | none => false
  | none => time? cs == some []

end TlaDigest.Toml
