import FabricTopology.Json.Value
import FabricTopology.Text.Numeral

/-!
Numbers in JSON text. A number without fraction and exponent that fits 64 bits is an integer, any
other one a double: its leading digits as long as they fit 64 bits, the rest only counted, scaled by
a power of ten. `Json.number?` reads the longest number at the start of a text.
-/
namespace FabricTopology.Json
open FabricTopology.Text

/-- The largest integer of 64 bits. -/
def word64Max : Nat := 0xFFFFFFFFFFFFFFFF

/-- A number as it is written. -/
structure NumberText where
  negative : Bool
  whole : List Char
  fraction : List Char
  exponent : Int
  integral : Bool

/-- The digits of `ds` appended to `n` while the result fits 64 bits, and those left over. -/
def keepDigits (n : Nat) : List Char → Nat × List Char
  | [] => (n, [])
  | d :: ds =>
    let m := 10 * n + (d.toNat - '0'.toNat)
    if m ≤ word64Max then keepDigits m ds else (n, d :: ds)

/-- A power of ten as a double. -/
def powerOfTen (n : Nat) : Float := Float.ofScientific 1 false n

/-- `significand * 10 ^ exponent`, rounded after each step; nothing when it is out of range. -/
def scaled? (significand : Nat) (exponent : Int) : Option Float :=
  let f := Float.ofNat significand
  if 0 ≤ exponent then
    let r := if exponent ≤ 308 then f * powerOfTen exponent.toNat else f / 0.0
    if significand = 0 then some 0.0 else if r.isInf then none else some r
  else
    let down := (-exponent).toNat
    if down ≤ 308 then some (f / powerOfTen down)
    else if down ≤ 616 then some (f / powerOfTen 308 / powerOfTen (down - 308))
    else some 0.0

/-- The double that a number stands for. -/
def NumberText.float? (t : NumberText) : Option Float :=
  let (n, unread) := keepDigits 0 t.whole
  let (significand, rest) := keepDigits n t.fraction
  let exponent := t.exponent + unread.length - (t.fraction.length - rest.length : Nat)
  (scaled? significand exponent).map fun x => if t.negative then -x else x

/-- The integer that a number stands for, if it is written as one and fits 64 bits. A zero with a
    minus sign does not. -/
def NumberText.int? (t : NumberText) : Option Int :=
  let n := digitsValue t.whole
  if !t.integral then none
  else if t.negative then if 1 ≤ n ∧ n ≤ 0x8000000000000000 then some (-(n : Int)) else none
  else if n ≤ word64Max then some n else none

/-- The value of a number. -/
def NumberText.value (t : NumberText) : Json :=
  match t.int? with
  | some n => int n
  | none => match t.float? with
    | some x => float x
    | none => void

/-- The digits before the point: a zero stands alone. -/
def wholeDigits? (cs : List Char) : Option (List Char × List Char) :=
  match cs.takeWhile Char.isDigit with
  | [] => none
  | '0' :: _ :: _ => none
  | ds => some (ds, cs.drop ds.length)

/-- The digits after a point, if there is one. -/
def fractionDigits? : List Char → Option (List Char × List Char)
  | '.' :: cs => match cs.takeWhile Char.isDigit with
    | [] => none
    | ds => some (ds, cs.drop ds.length)
  | cs => some ([], cs)

/-- The exponent after the letter `e`, if there is one. -/
def exponentPart? (cs : List Char) : Option (Option Int × List Char) :=
  match cs with
  | c :: rest =>
    if c = 'e' ∨ c = 'E' then
      let unsigned := dropSign rest
      match unsigned.takeWhile Char.isDigit with
      | [] => none
      | ds =>
        let n : Int := digitsValue ds
        some (some (if rest.head? = some '-' then -n else n), unsigned.drop ds.length)
    else some (none, cs)
  | [] => some (none, [])

/-- The number at the start of a text and what follows it. -/
def number? (cs : List Char) : Option (Json × List Char) := do
  let negative := cs.head? == some '-'
  let (whole, cs) ← wholeDigits? (if negative then cs.drop 1 else cs)
  let (fraction, cs) ← fractionDigits? cs
  let (exponent, cs) ← exponentPart? cs
  let t : NumberText :=
    ⟨negative, whole, fraction, exponent.getD 0, fraction.isEmpty && exponent.isNone⟩
  some (t.value, cs)

end FabricTopology.Json
