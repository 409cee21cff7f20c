import MiniKernel.Trap

/-!
Text in columns: a text is cut to at most a given length and filled with blanks up to a width.
-/

namespace MiniKernel.Text

inductive Align
  | left
  | right
  | center
  deriving DecidableEq, Repr

def Align.ofWord? : String → Option Align
  | "left" => some .left
  | "right" => some .right
  | "center" => some .center
  | _ => none

def blanks (count : Nat) : List Char := List.replicate count ' '

/-- Fills up to `width` characters; centred text has the odd blank on its right. -/
def padChars (align : Align) (width : Nat) (chars : List Char) : List Char :=
  let missing := width - chars.length
  match align with
  | .left => chars ++ blanks missing
  | .right => blanks missing ++ chars
  | .center => blanks (missing / 2) ++ chars ++ blanks (missing - missing / 2)

def pad (align : Align) (width : Nat) (text : String) : String :=
  String.ofList (padChars align width text.toList)

structure Column where
  align : Align
  width : Nat
  precision : Option Nat

def Column.limit : Nat := 65535

def Column.place (column : Column) (text : String) : Except Trap String :=
  if Column.limit < column.width ∨ Column.limit < column.precision.getD 0 then .error .columnTooWide
  else
    let kept := match column.precision with
      | some length => text.toList.take length
      | none => text.toList
    .ok (String.ofList (padChars column.align column.width kept))

end MiniKernel.Text
