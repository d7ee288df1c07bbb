/-!
Numbers in texts. A hexadecimal digit has its value in either case, and hexadecimal numbers are written in lower case.
A decimal number is spelled by an optional sign, then digits with an optional point and an optional exponent, or by one
of the words `inf`, `infinity` and `nan` in any case. A point needs a digit on one of its sides only. `isNumeral`
recognises exactly these spellings.
-/
namespace FabricTopology.Text

/-! ### Hexadecimal numbers -/

/-- The value of a hexadecimal digit. -/
def hexValue? (c : Char) : Option Nat :=
  let n := c.toNat
  if c.isDigit then some (n - 0x30)
  else if 0x41 ≤ n ∧ n ≤ 0x46 then some (n - 0x37)
  else if 0x61 ≤ n ∧ n ≤ 0x66 then some (n - 0x57)
  else none

/-- A number in at least `width` digits. -/
def hexText (width n : Nat) : List Char :=
  let ds := Nat.toDigits 16 n
  List.replicate (width - ds.length) '0' ++ ds

/-! ### Spellings of numbers -/

/-- The text without one leading sign. -/
def dropSign : List Char → List Char
  | '+' :: rest => rest
  | '-' :: rest => rest
  | cs => cs

/-- The value of a row of decimal digits. -/
def digitsValue (ds : List Char) : Nat :=
  ds.foldl (fun n d => 10 * n + (d.toNat - '0'.toNat)) 0

/-- A row of digits that is not empty. -/
def isDigits (cs : List Char) : Bool := !cs.isEmpty && cs.all Char.isDigit

/-- What follows the digits of a number: nothing, or the letter `e`, an optional sign and digits. -/
def isExponent : List Char → Bool
  | [] => true
  | c :: rest => (c == 'e' || c == 'E') && isDigits (dropSign rest)

/-- Digits with an optional point among them, at least one digit, and an optional exponent. -/
def isUnsignedNumber (cs : List Char) : Bool :=
  let whole := cs.takeWhile Char.isDigit
  match cs.dropWhile Char.isDigit with
  | '.' :: rest =>
    (!whole.isEmpty || !(rest.takeWhile Char.isDigit).isEmpty) &&
      isExponent (rest.dropWhile Char.isDigit)
  | rest => !whole.isEmpty && isExponent rest

/-- The words for what is not a finite number. -/
def isNonFiniteWord (cs : List Char) : Bool :=
  ["inf", "infinity", "nan"].any fun w => cs.map Char.toLower == w.toList

/-- A spelling of a number. -/
def isNumeral (cs : List Char) : Bool :=
  isUnsignedNumber (dropSign cs) || isNonFiniteWord (dropSign cs)

end FabricTopology.Text
