import MiniKernel.Trap

/-!
Arithmetic of 64-bit machine words on `Nat`. Checked operations trap where the exact result is no
word; saturating ones stop at the largest word.
-/

namespace MiniKernel.Word

def max : Nat := 0xFFFFFFFFFFFFFFFF

def add (left right : Nat) : Except Trap Nat :=
  if left + right ≤ max then .ok (left + right) else .error .addOverflow

def sub (left right : Nat) : Except Trap Nat :=
  if right ≤ left then .ok (left - right) else .error .subOverflow

def mul (left right : Nat) : Except Trap Nat :=
  if left * right ≤ max then .ok (left * right) else .error .mulOverflow

def div (left right : Nat) : Except Trap Nat :=
  if right = 0 then .error .divideByZero else .ok (left / right)

/-- Whether a buffer of `count` entries of `size` bytes can be asked for at all: it has to fit in half
the address space. -/
def buffer (count size : Nat) : Except Trap Unit :=
  if count * size < 0x8000000000000000 then .ok () else .error .capacityOverflow

def satAdd (left right : Nat) : Nat := min (left + right) max

def satMul (left right : Nat) : Nat := min (left * right) max

variable {left right : Nat}

theorem add_ok (bound : left + right ≤ max) : add left right = .ok (left + right) := if_pos bound

theorem sub_ok (bound : right ≤ left) : sub left right = .ok (left - right) := if_pos bound

theorem eq_add_of_ok {sum : Nat} (added : add left right = .ok sum) : sum = left + right := by
  unfold add at added
  split at added <;> cases added
  rfl

end MiniKernel.Word
