/-!
# Places in a list

A place is counted from the front of a list, starting at zero, or from its end if it is negative.

* `Place.get?`: the member at a place.
* `Place.slice`: the members between two places.
-/

namespace BranchCover.Place

/-- How many members stand before a place; before a place in front of the list there are none. -/
def before (members : List α) (place : Int) : Nat :=
  if place < 0 then members.length - place.natAbs else place.toNat

/-- The member at a place. -/
def get? (members : List α) (place : Int) : Option α :=
  if place < -(members.length : Int) then none else members[before members place]?

/-- The members from a first place on and before a last one. -/
def slice (members : List α) (first last : Int) : List α :=
  (members.take (before members last)).drop (before members first)

end BranchCover.Place
