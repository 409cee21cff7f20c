/-!
Faults of the machine itself: a word operation that leaves its range, or an index that leaves its
array. A trap stops the operation that raised it and is no part of any caller's contract.
-/

namespace MiniKernel

inductive Trap
  | addOverflow
  | subOverflow
  | mulOverflow
  | divideByZero
  | emptyCapacity
  | indexOutOfBounds (length index : Nat)
  /-- A buffer would take half the address space or more. -/
  | capacityOverflow
  /-- A text was to be set in a column of more than 65535 characters. -/
  | columnTooWide
  /-- A number was used as a physical address and has more than 52 bits. -/
  | physAddrRange
  deriving DecidableEq, Repr

def Trap.message : Trap → String
  | .addOverflow => "attempt to add with overflow"
  | .subOverflow => "attempt to subtract with overflow"
  | .mulOverflow => "attempt to multiply with overflow"
  | .divideByZero => "attempt to divide by zero"
  | .emptyCapacity => "capacity must be non-zero"
  | .indexOutOfBounds length index =>
      s!"index out of bounds: the len is {length} but the index is {index}"
  | .capacityOverflow => "capacity overflow"
  | .columnTooWide => "Formatting argument out of range"
  | .physAddrRange => "physical addresses must not have any bits in the range 52 to 64 set"

end MiniKernel
