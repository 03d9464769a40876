import BranchCover.Text.Scan

/-!
# Scopes

A scope is `global`, or a kind and a dotted path such as `class:com.demo.Shop`,
`method:com.demo.Shop.checkout` or `function:main`. A scope encloses every scope whose path extends
its own.
-/

namespace BranchCover.Scope

/-- The outermost scope. -/
def global : String := "global"

/-- The scope of a class. -/
def ofClass (qualifiedName : String) : String := "class:" ++ qualifiedName

/-- The scope of a method. -/
def ofMethod (className functionName : String) : String :=
  "method:" ++ className ++ "." ++ functionName

/-- The scope of a function outside every class. -/
def ofFunction (path : String) : String := "function:" ++ path

/-- The dotted path of a scope, empty for `global` and for a text without a kind. -/
def path (scope : String) : String :=
  if scope = global then ""
  else match Text.splitFirst? ':' scope.toList with
    | some (_, path) => String.ofList path
    | none => ""

/-- Whether a scope is another one or encloses it. -/
def encloses (outer inner : String) : Bool :=
  outer == inner || outer == global ||
    (path outer != "" && Text.startsWith (path inner).toList ((path outer).toList ++ ['.']))

end BranchCover.Scope
