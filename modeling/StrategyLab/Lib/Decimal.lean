import StrategyLab.Lib.Python

/-! Decimal texts: the digits of Unicode, and how the built-in `int` reads a text. -/

namespace Py

/-- The zeros of the decimal digits of Unicode; the nine other digits follow each of them. -/
def decimalZeros : List Nat :=
  [0x30, 0x660, 0x6F0, 0x7C0, 0x966, 0x9E6, 0xA66, 0xAE6, 0xB66, 0xBE6, 0xC66, 0xCE6, 0xD66,
    0xDE6, 0xE50, 0xED0, 0xF20, 0x1040, 0x1090, 0x17E0, 0x1810, 0x1946, 0x19D0, 0x1A80, 0x1A90,
    0x1B50, 0x1BB0, 0x1C40, 0x1C50, 0xA620, 0xA8D0, 0xA900, 0xA9D0, 0xA9F0, 0xAA50, 0xABF0,
    0xFF10, 0x104A0, 0x10D30, 0x11066, 0x110F0, 0x11136, 0x111D0, 0x112F0, 0x11450, 0x114D0,
    0x11650, 0x116C0, 0x11730, 0x118E0, 0x11950, 0x11C50, 0x11D50, 0x11DA0, 0x16A60, 0x16AC0,
    0x16B50, 0x1D7CE, 0x1D7D8, 0x1D7E2, 0x1D7EC, 0x1D7F6, 0x1E140, 0x1E2F0, 0x1E950, 0x1FBF0]

/-- The value of a decimal digit. -/
def decimalValue (c : Char) : Option Nat :=
  (decimalZeros.find? fun start => start ≤ c.toNat && c.toNat ≤ start + 9).map (c.toNat - ·)

/-- The method `isdecimal`. -/
def isdecimal (text : String) : Bool :=
  text ≠ "" && text.toList.all fun c => (decimalValue c).isSome

/-- The digits of a number, with single underscores allowed between them. -/
def digitsOf : List Char → Option (List Nat)
  | [] => none
  | [c] => (decimalValue c).map ([·])
  | c :: '_' :: rest => do return (← decimalValue c) :: (← digitsOf rest)
  | c :: rest => do return (← decimalValue c) :: (← digitsOf rest)

/-- The most digits that `int` reads. -/
def maxDigits : Nat := 4300

/-- The number that a text without a sign stands for. -/
def magnitude (text : List Char) : Option Nat := do
  let digits ← digitsOf text
  if maxDigits < digits.length then none
  else some (digits.foldl (fun number digit => 10 * number + digit) 0)

/-- The built-in `int` on a text; `none` stands for a `ValueError`. -/
def intOfText (text : String) : Option Int :=
  match ((text.toList.dropWhile isSpace).reverse.dropWhile isSpace).reverse with
  | '-' :: rest => (magnitude rest).map fun number => -(number : Int)
  | '+' :: rest => (magnitude rest).map Int.ofNat
  | unsigned => (magnitude unsigned).map Int.ofNat

example : intOfText " 1_0\n" = some 10 ∧ intOfText "-\u0663" = some (-3) ∧
    intOfText "1__0" = none := by
  decide +kernel

end Py
