import TlaDigest.Toml.Value

/-!
# Tables under construction

A document builds its tables statement by statement, and a table may be extended only in the way in
which it was begun: a table with a header is opened once, a table that dotted keys made is extended
by dotted keys alone, and an array or an inline table is complete where it stands.
-/

namespace TlaDigest.Toml

/-- How a table was begun. -/
inductive Form where
  /-- It is on the way to a table with a header. -/
  | implied
  /-- By a dotted key. -/
  | dotted
  /-- By its own header. -/
  | opened
deriving DecidableEq, Repr

/-- A value, or a table that may still grow. -/
inductive Node where
  | leaf (value : Toml)
  | table (form : Form) (entries : List (String × Node))
  /-- The tables of an array of tables; the last one is the one that grows. -/
  | tables (elements : List (List (String × Node)))

abbrev Entries := List (String × Node)

/-- Makes or changes the entry under a key. -/
def update? (k : String) (f : Option Node → Option Node) : Entries → Option Entries
  | [] => (f none).map fun node => [(k, node)]
  | (key, node) :: rest =>
    if key = k then (f (some node)).map fun node => (key, node) :: rest
    else (update? k f rest).map ((key, node) :: ·)

/-- A path may lead through a table. Dotted keys pass only through what dotted keys made. -/
def Form.admits (form : Form) (dotted : Bool) : Bool := !dotted || form = .dotted

/-- Changes the entries that a path leads to. Tables on the way that are not there are made. -/
def enter? (dotted : Bool) : List String → (Entries → Option Entries) → Entries → Option Entries
  | [], f, entries => f entries
  | k :: path, f, entries =>
    entries |> update? k fun
      | none => (enter? dotted path f []).map (.table (if dotted then .dotted else .implied))
      | some (.table form sub) =>
        if form.admits dotted then (enter? dotted path f sub).map (.table form) else none
      | some (.tables elements) =>
        match elements.getLast? with
        | some last => (enter? dotted path f last).map fun last => .tables (elements.dropLast ++ [last])
        | none => none
      | some (.leaf _) => none

def atLast? (dotted : Bool) (path : List String) (f : Option Node → Option Node)
    (entries : Entries) : Option Entries :=
  match path.getLast? with
  | none => none
  | some k => enter? dotted path.dropLast (update? k f) entries

def insert? (path : List String) (value : Toml) (entries : Entries) : Option Entries :=
  atLast? true path (fun | none => some (.leaf value) | some _ => none) entries

/-- Opens the table of a header. -/
def openTable? (path : List String) (entries : Entries) : Option Entries :=
  entries |> atLast? false path fun
    | none => some (.table .opened [])
    | some (.table .implied sub) => some (.table .opened sub)
    | some _ => none

/-- Adds a table to the array of a header. -/
def openElement? (path : List String) (entries : Entries) : Option Entries :=
  entries |> atLast? false path fun
    | none => some (.tables [[]])
    | some (.tables elements) => some (.tables (elements ++ [[]]))
    | some _ => none

mutual

def Node.close : Node → Toml
  | .leaf value => value
  | .table _ entries => .table (closeEntries entries)
  | .tables elements => .array (closeElements elements)

def closeEntries : List (String × Node) → Members
  | [] => []
  | (k, node) :: rest => (k, node.close) :: closeEntries rest

def closeElements : List (List (String × Node)) → List Toml
  | [] => []
  | entries :: rest => .table (closeEntries entries) :: closeElements rest

end

end TlaDigest.Toml
