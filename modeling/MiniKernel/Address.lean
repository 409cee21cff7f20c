import MiniKernel.Word

/-!
Addresses. A physical address has 52 bits and lies in a page of 4096 bytes; a virtual address is
canonical: bits 48 to 63 repeat bit 47.
-/

namespace MiniKernel

def pageSize : Nat := 4096

structure PhysAddr where
  toNat : Nat
  bound : toNat < 0x10000000000000
  deriving DecidableEq, Repr

namespace PhysAddr

def ofNat? (number : Nat) : Option PhysAddr :=
  if bound : number < 0x10000000000000 then some ⟨number, bound⟩ else none

def ofNat (number : Nat) : Except Trap PhysAddr :=
  if bound : number < 0x10000000000000 then .ok ⟨number, bound⟩ else .error .physAddrRange

def ofPage (page : Nat) : Except Trap PhysAddr := ofNat (page * pageSize)

def page (addr : PhysAddr) : Nat := addr.toNat / pageSize

def isAligned (addr : PhysAddr) : Bool := addr.toNat % pageSize = 0

end PhysAddr

structure VirtAddr where
  toNat : Nat
  canonical : toNat < 0x800000000000 ∨ (0xFFFF800000000000 ≤ toNat ∧ toNat < 0x10000000000000000)
  deriving DecidableEq, Repr

namespace VirtAddr

/-- Reads a canonical word as it is. A word whose only bit above 46 is bit 47 stands for its sign
extension; every other word is refused. -/
def ofNat? (number : Nat) : Option VirtAddr :=
  if canonical : number < 0x800000000000 ∨
      (0xFFFF800000000000 ≤ number ∧ number < 0x10000000000000000) then
    some ⟨number, canonical⟩
  else if short : 0x800000000000 ≤ number ∧ number < 0x1000000000000 then
    some ⟨number + 0xFFFF000000000000, by omega⟩
  else
    none

def toWord (addr : VirtAddr) : UInt64 := UInt64.ofNat addr.toNat

end VirtAddr

end MiniKernel
