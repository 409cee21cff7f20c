/-!
Hexadecimal numerals, in lower case and with the mark `0x`.
-/

namespace MiniKernel.Text

def hex (number : Nat) : String := "0x" ++ String.ofList (Nat.toDigits 16 number)

/-- The last `count` hexadecimal digits of `number`, most significant first. -/
def hexDigits : (count number : Nat) → List Char
  | 0, _ => []
  | count + 1, number => hexDigits count (number / 16) ++ [Nat.digitChar (number % 16)]

def hexWord (word : UInt64) : List Char := '0' :: 'x' :: hexDigits 16 word.toNat

end MiniKernel.Text
