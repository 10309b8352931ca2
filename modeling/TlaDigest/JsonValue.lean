/-!
# JSON values

JSON values and their printed form: two spaces for each level, one member or element on each line,
and nothing between the brackets of an empty one. The members of an object keep their order.
-/

namespace TlaDigest

/-- A JSON value, as far as reports need it. -/
inductive JsonValue where
  | null
  | number (n : Nat)
  | string (s : String)
  | array (items : List JsonValue)
  | object (members : List (String × JsonValue))
deriving Repr

namespace JsonValue

/-! ### Strings -/

/-- A character inside a string. The quote, the backslash and the controls below the space are
    escaped, those with a short form by it. -/
def escaped (c : Char) : List Char :=
  match c with
  | '"' => ['\\', '"']
  | '\\' => ['\\', '\\']
  | '\n' => ['\\', 'n']
  | '\r' => ['\\', 'r']
  | '\t' => ['\\', 't']
  | c =>
    if c.toNat = 8 then ['\\', 'b']
    else if c.toNat = 12 then ['\\', 'f']
    else if c.toNat < 32 then
      ['\\', 'u', '0', '0', Nat.digitChar (c.toNat / 16), Nat.digitChar (c.toNat % 16)]
    else [c]

def quoted (s : String) : String :=
  String.ofList ('"' :: s.toList.flatMap escaped ++ ['"'])

/-! ### Values -/

/-- A line break and the indentation of a level. -/
def newLine (level : Nat) : String := String.ofList ('\n' :: List.replicate (2 * level) ' ')

mutual

def render (level : Nat) : JsonValue → String
  | .null => "null"
  | .number n => toString n
  | .string s => quoted s
  | .array [] => "[]"
  | .array (v :: vs) =>
    "[" ++ newLine (level + 1) ++ render (level + 1) v ++ renderItems (level + 1) vs ++
      newLine level ++ "]"
  | .object [] => "\x7b\x7d"
  | .object ((k, v) :: ms) =>
    "\x7b" ++ newLine (level + 1) ++ quoted k ++ ": " ++ render (level + 1) v ++
      renderMembers (level + 1) ms ++ newLine level ++ "\x7d"

/-- The elements after the first. -/
def renderItems (level : Nat) : List JsonValue → String
  | [] => ""
  | v :: vs => "," ++ newLine level ++ render level v ++ renderItems level vs

def renderMembers (level : Nat) : List (String × JsonValue) → String
  | [] => ""
  | (k, v) :: ms =>
    "," ++ newLine level ++ quoted k ++ ": " ++ render level v ++ renderMembers level ms

end

def pretty (v : JsonValue) : String := render 0 v

end JsonValue

end TlaDigest
