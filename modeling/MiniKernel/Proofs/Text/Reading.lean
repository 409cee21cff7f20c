import Mathlib.Algebra.Group.Nat.Defs
import Mathlib.Data.List.DropRight
import MiniKernel.Text.Hex
import MiniKernel.Text.Pad

/-! Texts that can be read back: numerals, words in columns, and parts with separators between them. -/

namespace MiniKernel.Text

/-! Hexadecimal numerals. -/

def digitValue (digit : Char) : Nat := ((List.range 16).map Nat.digitChar).idxOf digit

def readHex (digits : List Char) : Nat := digits.foldl (fun number digit => 16 * number + digitValue digit) 0

theorem digitValue_digitChar : ∀ value < 16, digitValue (Nat.digitChar value) = value := by decide

theorem length_hexDigits (count number : Nat) : (hexDigits count number).length = count := by
  induction count generalizing number with
  | zero => rfl
  | succ count ih => rw [hexDigits, List.length_append, ih, List.length_singleton]

theorem mem_hexDigits {count number : Nat} {digit : Char} (member : digit ∈ hexDigits count number) :
    ∃ value < 16, digit = Nat.digitChar value := by
  induction count generalizing number with
  | zero => cases member
  | succ count ih =>
      rw [hexDigits, List.mem_append, List.mem_singleton] at member
      rcases member with earlier | last
      · exact ih earlier
      · exact ⟨number % 16, Nat.mod_lt _ (by decide), last⟩

theorem readHex_append (digits : List Char) (digit : Char) :
    readHex (digits ++ [digit]) = 16 * readHex digits + digitValue digit := by
  rw [readHex, List.foldl_append]
  rfl

theorem readHex_hexDigits (count number : Nat) : readHex (hexDigits count number) = number % 16 ^ count := by
  induction count generalizing number with
  | zero =>
      rw [Nat.pow_zero, Nat.mod_one]
      rfl
  | succ count ih =>
      rw [hexDigits, readHex_append, ih, digitValue_digitChar _ (Nat.mod_lt _ (by decide)), Nat.pow_succ',
        Nat.mod_mul]
      exact Nat.add_comm ..

theorem ofNat_readHex_word (word : UInt64) : UInt64.ofNat (readHex (hexDigits 16 word.toNat)) = word := by
  have bound : word.toNat < 16 ^ 16 := word.toNat_lt
  rw [readHex_hexDigits, Nat.mod_eq_of_lt bound, UInt64.ofNat_toNat]

/-! Decimal numerals. -/

def readDecimal (digits : List Char) : Nat := Nat.ofDigitChars 10 digits 0

theorem readDecimal_toString (number : Nat) : readDecimal (toString number).toList = number := by
  rw [readDecimal, Nat.toString_eq_repr, Nat.toList_repr, Nat.ofDigitChars_ten_toDigits]

theorem notMem_toString {char : Char} (noDigit : char.isDigit = false) (number : Nat) :
    char ∉ (toString number).toList := by
  rw [Nat.toString_eq_repr, Nat.toList_repr]
  intro member
  rw [Nat.isDigit_of_mem_toDigits (by decide) (by decide) member] at noDigit
  cases noDigit

/-! Columns. -/

theorem length_padChars (align : Align) {width : Nat} {chars : List Char} (fits : chars.length ≤ width) :
    (padChars align width chars).length = width := by
  cases align <;> simp only [padChars, blanks, List.length_append, List.length_replicate] <;> omega

theorem mem_padChars {align : Align} {width : Nat} {chars : List Char} {char : Char}
    (member : char ∈ padChars align width chars) : char ∈ chars ∨ char = ' ' := by
  cases align <;>
    simp only [padChars, blanks, List.mem_append, List.mem_replicate] at member <;>
    grind

theorem dropWhile_padChars_right {chars : List Char} (solid : chars.head? ≠ some ' ') (width : Nat) :
    (padChars .right width chars).dropWhile (· == ' ') = chars := by
  rw [padChars, blanks, List.dropWhile_append_of_pos]
  · cases chars with
    | nil => rfl
    | cons first rest => exact List.dropWhile_cons_of_neg (by simpa using solid)
  · intro blank member
    rw [List.eq_of_mem_replicate member]
    rfl

theorem rdropWhile_padChars_left {chars : List Char} (solid : chars.getLast? ≠ some ' ') (width : Nat) :
    (padChars .left width chars).rdropWhile (· == ' ') = chars := by
  have mirrored : (padChars .left width chars).reverse = padChars .right width chars.reverse := by
    simp [padChars, blanks]
  rw [List.rdropWhile, mirrored, dropWhile_padChars_right, List.reverse_reverse]
  rwa [List.head?_reverse]

/-! Parts. -/

def splitFirst (separator : Char) : (cuts : Nat) → List Char → List (List Char)
  | 0, text => [text]
  | cuts + 1, text =>
      match text.dropWhile (· != separator) with
      | [] => [text]
      | _ :: rest => text.takeWhile (· != separator) :: splitFirst separator cuts rest

theorem splitFirst_append {separator : Char} {part : List Char} (clear : separator ∉ part) (cuts : Nat)
    (rest : List Char) :
    splitFirst separator (cuts + 1) (part ++ separator :: rest) = part :: splitFirst separator cuts rest := by
  have other : ∀ char ∈ part, (char != separator) = true := by
    intro char member
    rw [bne_iff_ne]
    rintro rfl
    exact clear member
  rw [splitFirst, List.dropWhile_append_of_pos other, List.takeWhile_append_of_pos other]
  simp

end MiniKernel.Text
