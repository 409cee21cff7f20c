/-!
The open files of a process: at most 256 descriptors, each bound to a file handle or free. A new
file takes the lowest free descriptor.
-/

namespace MiniKernel

/-- A file handle means something only to the file system. -/
abbrev Handle := Nat

def maxDescriptors : Nat := 256

structure Descriptors where
  slots : List (Option Handle)
  deriving DecidableEq, Repr

namespace Descriptors

def empty : Descriptors := ⟨List.replicate maxDescriptors none⟩

def install (files : Descriptors) (handle : Handle) : Option Nat × Descriptors :=
  match files.slots.findIdx? Option.isNone with
  | some fd => (some fd, ⟨files.slots.set fd (some handle)⟩)
  | none => (none, files)

def get? (files : Descriptors) (fd : Nat) : Option Handle := files.slots[fd]?.join

def remove (files : Descriptors) (fd : Nat) : Option Handle × Descriptors :=
  (files.get? fd, ⟨files.slots.set fd none⟩)

def openCount (files : Descriptors) : Nat := files.slots.countP Option.isSome

def handles (files : Descriptors) : List Handle := files.slots.filterMap id

def closeAll (files : Descriptors) : List Handle × Descriptors :=
  (files.handles, ⟨files.slots.map fun _ => none⟩)

end Descriptors

end MiniKernel
