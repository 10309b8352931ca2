/-!
# Catalogs

Tables that keep their entries in the order of first entry. Keys are compared with a given test,
which may be coarser than equality; the key that was entered first is the one kept.
-/

namespace TlaDigest

/-- A table in order of first entry. -/
abbrev Catalog (κ ν : Type) := List (κ × ν)

namespace Catalog

variable {κ ν : Type}

def get? (same : κ → κ → Bool) (k : κ) : Catalog κ ν → Option ν
  | [] => none
  | (key, v) :: rest => if same key k then some v else get? same k rest

/-- Changes the value under `k` by `f`. A key that is not there is entered at the end, with the value
    that `f` makes of nothing. -/
def alter (same : κ → κ → Bool) (k : κ) (f : Option ν → ν) : Catalog κ ν → Catalog κ ν
  | [] => [(k, f none)]
  | (key, v) :: rest =>
    if same key k then (key, f (some v)) :: rest else (key, v) :: alter same k f rest

/-- Enters a value, in place of one that is there already. -/
def put (same : κ → κ → Bool) (k : κ) (v : ν) (table : Catalog κ ν) : Catalog κ ν :=
  alter same k (fun _ => v) table

end Catalog

end TlaDigest
