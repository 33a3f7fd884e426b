/-!
# Faults

A search can only fail by asking for something that is not there: travel times between locations
outside the matrix, or a position outside a list. A fault says which one it was.
-/

namespace DialARide

/-- A look-up that has no answer. -/
inductive Fault where
  /-- A pair of locations, one of which a matrix of `count` locations does not have. -/
  | outsideMatrix (origin destination count : Nat)
  /-- A position outside a list of `length` elements. -/
  | outsideList (length index : Nat)
  deriving DecidableEq, Repr

/-- The text shown for a fault. -/
def Fault.message : Fault → String
  | .outsideMatrix origin destination count =>
    s!"location pair ({origin}, {destination}) is outside a matrix of {count} locations"
  | .outsideList length index =>
    s!"index out of bounds: the len is {length} but the index is {index}"

/-- The element at a position of a list. -/
def lookUp {β : Type} (items : List β) (index : Nat) : Except Fault β :=
  match items[index]? with
  | some item => .ok item
  | none => .error (.outsideList items.length index)

end DialARide
