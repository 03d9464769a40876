/-!
# Bindings

Values bound to names, in the order in which the names were first bound.
-/

namespace BranchCover

/-- Values bound to names, no name twice. -/
abbrev Bindings := List (String × String)

namespace Bindings

/-- The value bound to a name. -/
def get? (bindings : Bindings) (name : String) : Option String :=
  (bindings.find? (·.1 == name)).map (·.2)

/-- Binds a name, in its old place if it is bound already. -/
def set (bindings : Bindings) (name value : String) : Bindings :=
  match bindings with
  | [] => [(name, value)]
  | first :: rest =>
    if first.1 = name then (name, value) :: rest else first :: set rest name value

/-- The bindings of a list, where a later value for a name replaces an earlier one. -/
def ofList (pairs : List (String × String)) : Bindings :=
  pairs.foldl (fun bindings (name, value) => bindings.set name value) []

end Bindings

end BranchCover
