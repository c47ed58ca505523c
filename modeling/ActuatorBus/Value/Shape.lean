import ActuatorBus.Value.Basic

/-!
# Nested values

Lists of values, possibly of lists again, hold single values in an order. They
have a shape if the lists at every level are equally long.
-/

namespace ActuatorBus.Value

mutual

/-- The single values that a value holds, from the first to the last. -/
def leaves : Value → List Value
  | several items => leavesOf items
  | value => [value]

/-- The single values that values hold, one after the other. -/
def leavesOf : List Value → List Value
  | [] => []
  | item :: rest => leaves item ++ leavesOf rest

end

mutual

/-- How long the lists at every level are, from the outermost on. -/
def shape? : Value → Option (List Nat)
  | several items => (commonShape? items).map (items.length :: ·)
  | _ => some []

/-- The shape that all of some values have. -/
def commonShape? : List Value → Option (List Nat)
  | [] => some []
  | item :: rest =>
    match shape? item, commonShape? rest with
    | some first, some others =>
      if rest.isEmpty || first == others then some first else none
    | _, _ => none

end

/-- The most levels that a shape can have. -/
def levelLimit : Nat := 64

/-- Whether a value holds its single values in a shape. -/
def isRegular (value : Value) : Bool :=
  value.shape?.any fun shape => shape.length ≤ levelLimit

end ActuatorBus.Value
