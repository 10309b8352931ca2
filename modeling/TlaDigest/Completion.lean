import TlaDigest.Outline
import TlaDigest.Text.Blank
import TlaDigest.Text.Digit
import TlaDigest.Vocabulary

/-!
# Completion

What is offered depends on the text before the cursor on its line: modules after `EXTENDS`, nothing
after `CONSTANT` and `RECURSIVE`, operators after a backslash, and else keywords and the symbols of
the module. The keywords that start a unit or a proof step are offered only where one can start, and
not inside the PlusCal algorithm.
-/

namespace TlaDigest

inductive ItemKind where
  | text
  | method
  | function
  | field
  | variable
  | module
  | keyword
  | constant
  | operator
  | other (number : Int)
deriving DecidableEq, Repr

namespace ItemKind

def number : ItemKind → Int
  | .text => 1
  | .method => 2
  | .function => 3
  | .field => 5
  | .variable => 6
  | .module => 9
  | .keyword => 14
  | .constant => 21
  | .operator => 24
  | .other n => n

def ofNumber : Int → ItemKind
  | 1 => .text
  | 2 => .method
  | 3 => .function
  | 5 => .field
  | 6 => .variable
  | 9 => .module
  | 14 => .keyword
  | 21 => .constant
  | 24 => .operator
  | n => .other n

/-- The kind under which a symbol is offered. -/
def ofSymbol : SymbolKind → ItemKind
  | .field => .field
  | .variable => .variable
  | .function => .function
  | .method => .method
  | .nameSpace => .module
  | .module => .module
  | .constant => .constant
  | .boolean => .text
  | .other _ => .text

end ItemKind

structure Completion where
  label : String
  kind : Option ItemKind
  detail : Option String
  /-- What is inserted in place of the label. -/
  insertText : Option String
deriving DecidableEq, Repr

namespace Completion

open Text

/-! ### Items -/

def item (kind : ItemKind) (detail label : String) : Completion := ⟨label, some kind, some detail, none⟩

def keywords (detail : String) (words : List String) : List Completion :=
  words.map (item .keyword detail)

def operatorItems : List Completion :=
  Vocabulary.operators.map fun name => item .operator "(operator) TLA+" ("\\" ++ name)

def moduleItems : List Completion := Vocabulary.standardModules.map (item .module "(module) TLA+")

def symbolWord : SymbolKind → String
  | .variable => "variable"
  | .function => "function"
  | .boolean => "theorem"
  | .constant => "theorem"
  | _ => "symbol"

def symbolItem (s : Symbol) : Completion :=
  item (.ofSymbol s.kind) ("(" ++ symbolWord s.kind ++ ") User defined TLA+") s.name

/-! ### The text before the cursor -/

/-- The text ends in a backslash and a name that is not complete. The backslash of a conjunction sign
    does not count. -/
def endsInOperator (cs : List Char) : Bool :=
  match cs.reverse.dropWhile isNameChar with
  | '\\' :: '/' :: _ => false
  | '\\' :: _ => true
  | _ => false

def isStepChar (c : Char) : Bool := c == '<' || c == '>' || c == '.' || isDigit c || c.isAlpha

/-- The name of a proof step, a blank and perhaps letters: a proof step can start here. -/
def startsProofStep (cs : List Char) : Bool :=
  match trimStart cs with
  | '<' :: rest =>
    match digits? rest with
    | some (_, '>' :: rest) =>
      match rest.dropWhile isStepChar with
      | [] => false
      | c :: rest => isBlank c && (trimStart rest).all Char.isAlpha
    | _ => false
  | _ => false

/-- Nothing but letters: a unit can start here. -/
def startsUnit (cs : List Char) : Bool := (trimStart cs).all Char.isAlpha

/-! ### Offering and resolving -/

/-- The keywords that can start something at the end of `cs`. -/
def startingItems (cs : List Char) : List Completion :=
  if startsProofStep cs then keywords "(keyword) TLA+ proof" Vocabulary.proofKeywords
  else if startsUnit cs then keywords "(keyword) TLA+ block start" Vocabulary.unitKeywords
  else []

/-- The items offered where no construct claims the place. -/
def generalItems (cs : List Char) (p : Position) (o : Outline) : List Completion :=
  keywords "(keyword) TLA+" Vocabulary.innerKeywords ++
    Vocabulary.constants.map (item .constant "(constant) TLA+") ++
    o.symbols.map symbolItem ++
    (if o.inAlgorithm p then [] else startingItems cs)

/-- The items offered at `p`, where `before` stands before the cursor on its line. -/
def offered (before : String) (p : Position) (o : Outline) : List Completion :=
  let cs := before.toList
  let opens (word : String) : Bool := word.toList.isPrefixOf (trimStart cs)
  if opens "EXTENDS" then moduleItems
  else if opens "CONSTANT" || opens "RECURSIVE" then []
  else if endsInOperator cs then operatorItems
  else generalItems cs p o

def withoutBackslash : List Char → List Char
  | '\\' :: cs => cs
  | cs => cs

/-- Fills in what is inserted: a keyword gets a space, and so does an operator, whose backslash has
    been typed already. -/
def resolve (c : Completion) : Completion :=
  match c.kind with
  | some .keyword => { c with insertText := some (c.label ++ " ") }
  | some .operator =>
    { c with insertText := some (String.ofList (withoutBackslash c.label.toList) ++ " ") }
  | _ => c

end Completion

end TlaDigest
