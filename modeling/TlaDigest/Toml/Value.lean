/-!
# TOML values

Numbers and dates are kept as they were written, since no setting takes one; the members of a table
keep their order.
-/

namespace TlaDigest

inductive Toml where
  | string (s : String)
  | integer (written : String)
  | float (written : String)
  | boolean (b : Bool)
  | datetime (written : String)
  | array (items : List Toml)
  | table (members : List (String × Toml))
deriving Repr

namespace Toml

abbrev Members := List (String × Toml)

def asString? : Toml → Option String
  | .string s => some s
  | _ => none

def asBoolean? : Toml → Option Bool
  | .boolean b => some b
  | _ => none

/-- The strings of an array that holds nothing else. -/
def asStrings? : Toml → Option (List String)
  | .array items => items.mapM asString?
  | _ => none

end Toml

end TlaDigest
