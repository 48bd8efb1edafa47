/-!
# Entries

Values under keys, each key once, in the order in which the keys first came. Setting a key again
replaces its value and keeps its place.
-/
namespace Shapewright

abbrev Entries (κ α : Type) := List (κ × α)

namespace Entries
variable {κ α : Type}

def set [DecidableEq κ] (key : κ) (a : α) : Entries κ α → Entries κ α
  | [] => [(key, a)]
  | e :: es => if e.1 = key then (key, a) :: es else e :: set key a es

def ofList [DecidableEq κ] (es : List (κ × α)) : Entries κ α :=
  es.foldl (fun acc e => set e.1 e.2 acc) []

def keys (es : Entries κ α) : List κ := es.map (·.1)

end Entries
end Shapewright
