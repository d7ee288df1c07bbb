import FabricTopology.Text.Numeral

/-!
Text in UTF-8 bytes. Every text has its bytes (`Utf8.bytes`), but not all bytes are those of a text: `Utf8.decode` puts
a replacement character for each longest stretch that begins a character and breaks off, and for each byte that begins
none.

In percent-encoded text a percent sign and two hexadecimal digits stand for one byte. Some bytes may be kept encoded; a
percent sign without two digits after it stands for itself.
-/
namespace FabricTopology.Text.Utf8

/-- The bytes of a text. -/
def bytes (cs : List Char) : List UInt8 := cs.flatMap String.utf8EncodeChar

/-- The character that stands for bytes that are no text. -/
def replacement : Char := '\ufffd'

/-- A character that has begun: its bits so far, how many bytes it still needs, and between which
    bounds the next one has to be. -/
structure Begun where
  bits : Nat
  missing : Nat
  low : UInt8
  high : UInt8

/-- The character that a byte above 127 begins. -/
def begin? (b : UInt8) : Option Begun :=
  if b < 0xC2 then none
  else if b < 0xE0 then some ⟨b.toNat - 0xC0, 1, 0x80, 0xBF⟩
  else if b < 0xF0 then
    some ⟨b.toNat - 0xE0, 2, if b = 0xE0 then 0xA0 else 0x80, if b = 0xED then 0x9F else 0xBF⟩
  else if b < 0xF5 then
    some ⟨b.toNat - 0xF0, 3, if b = 0xF0 then 0x90 else 0x80, if b = 0xF4 then 0x8F else 0xBF⟩
  else none

/-- What a byte gives where no character has begun: characters, or the beginning of one. -/
def first (b : UInt8) : List Char × Option Begun :=
  if b < 0x80 then ([Char.ofNat b.toNat], none)
  else match begin? b with
    | some p => ([], some p)
    | none => ([replacement], none)

/-- What a byte gives: characters, or more of the one that has begun. -/
def next (begun : Option Begun) (b : UInt8) : List Char × Option Begun :=
  match begun with
  | none => first b
  | some p =>
    if p.low ≤ b ∧ b ≤ p.high then
      let bits := p.bits * 64 + (b.toNat - 0x80)
      if p.missing = 1 then ([Char.ofNat bits], none)
      else ([], some ⟨bits, p.missing - 1, 0x80, 0xBF⟩)
    else
      let (cs, begun) := first b
      (replacement :: cs, begun)

/-- The text of bytes after the beginning of a character. -/
def decodeAfter (begun : Option Begun) : List UInt8 → List Char
  | [] => if begun.isSome then [replacement] else []
  | b :: rest =>
    let (cs, begun) := next begun b
    cs ++ decodeAfter begun rest

/-- The text of bytes. -/
def decode (bs : List UInt8) : List Char := decodeAfter none bs

end FabricTopology.Text.Utf8

namespace FabricTopology.Text.Percent

/-- The percent sign. -/
def sign : UInt8 := 0x25

/-- The byte of two hexadecimal digits. -/
def byte? (a b : UInt8) : Option UInt8 := do
  let high ← hexValue? (Char.ofNat a.toNat)
  let low ← hexValue? (Char.ofNat b.toNat)
  some (UInt8.ofNat (16 * high + low))

/-- The bytes with every encoded byte decoded that is not to be kept. -/
def decodeBytes (keeps : UInt8 → Bool) : List UInt8 → List UInt8
  | c :: a :: b :: rest =>
    match byte? a b with
    | some d =>
      if c = sign ∧ !keeps d then d :: decodeBytes keeps rest
      else c :: decodeBytes keeps (a :: b :: rest)
    | none => c :: decodeBytes keeps (a :: b :: rest)
  | bs => bs

/-- The text with every encoded byte decoded that is not to be kept. -/
def decode (keeps : UInt8 → Bool) (cs : List Char) : List Char :=
  Utf8.decode (decodeBytes keeps (Utf8.bytes cs))

end FabricTopology.Text.Percent
