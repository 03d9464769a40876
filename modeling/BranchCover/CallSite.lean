import BranchCover.ArgumentList
import BranchCover.Model.Basic
import BranchCover.Place

/-!
# Call sites

The argument lists seen at calls, from which values for variadic parameters are taken.

* `CallSites.ofModel`: the call sites of a model.
* `CallSites.variadicTail?`: the arguments that the first fitting call binds to a variadic
  parameter.
-/

namespace BranchCover

/-- One call: the name that is called, and the arguments. -/
structure CallSite where
  callee : String
  arguments : List String
  deriving DecidableEq, Repr

/-- The calls that were seen, in their order. -/
abbrev CallSites := List CallSite

namespace CallSites

/-- The call sites of a list of calls; an argument text may hold several arguments. -/
def ofCalls (calls : List FunctionCall) : CallSites :=
  calls.map fun call => { callee := call.name,
                          arguments := call.arguments.flatMap ArgumentList.split }

/-- The call sites of a model. -/
def ofModel (model : Model) : CallSites := ofCalls model.calls

/-- The argument lists of the calls of a name. -/
def examples (sites : CallSites) (callee : String) : List (List String) :=
  (sites.filter (·.callee == callee)).map (·.arguments)

/-- The arguments that the first call with any binds to a variadic parameter, which has `before`
parameters before it and `after` behind it. -/
def variadicTail? (sites : CallSites) (callee : String) (before after : Int) :
    Option (List String) :=
  ((sites.examples callee).find? fun arguments => before + after < arguments.length).map
    fun arguments => Place.slice arguments before (arguments.length - after)

end CallSites

end BranchCover
