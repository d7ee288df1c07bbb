import FabricTopology.Json.Number
import FabricTopology.Text.Numeral

/-!
JSON text to JSON values, strictly: no comments, no commas too many, no raw control characters in
texts, nothing but white space after the value. `parse?` accepts any depth of nesting, because the
text itself bounds it; what a reader of the value does not look at may also be `void`.
-/
namespace FabricTopology.Json

/-- White space between the parts of a JSON text. -/
def isSpace (c : Char) : Bool := c == ' ' || c == '\n' || c == '\t' || c == '\r'

/-- The text after its leading white space. -/
def skipSpace (cs : List Char) : List Char := cs.dropWhile isSpace

/-- A piece of a quoted text: a character, or a 16-bit unit given by its number. -/
inductive Piece where
  | char (c : Char)
  | unit (n : Nat)

/-- The character that a letter after a backslash stands for. -/
def escaped? (c : Char) : Option Char :=
  if c = '"' ∨ c = '\\' ∨ c = '/' then some c
  else if c = 'b' then some '\x08'
  else if c = 'f' then some '\x0c'
  else if c = 'n' then some '\n'
  else if c = 'r' then some '\r'
  else if c = 't' then some '\t'
  else none

/-- The number that hexadecimal digits stand for. -/
def unit? (ds : List Char) : Option Nat := do
  let values ← ds.mapM Text.hexValue?
  return values.foldl (fun n d => 16 * n + d) 0

/-- The pieces of a quoted text after its opening quote, and what follows its closing one. -/
def pieces? : List Char → Option (List Piece × List Char)
  | [] => none
  | '"' :: rest => some ([], rest)
  | '\\' :: 'u' :: a :: b :: c :: d :: rest => do
    let n ← unit? [a, b, c, d]
    let (ps, rest) ← pieces? rest
    some (.unit n :: ps, rest)
  | '\\' :: c :: rest => do
    let e ← escaped? c
    let (ps, rest) ← pieces? rest
    some (.char e :: ps, rest)
  | c :: rest =>
    if c = '\\' ∨ c.toNat < 0x20 then none
    else do
      let (ps, rest) ← pieces? rest
      some (.char c :: ps, rest)

/-- The characters that the pieces stand for; nothing for half a surrogate pair. -/
def assemble? : List Piece → Option (List Char)
  | [] => some []
  | .char c :: rest => (assemble? rest).map (c :: ·)
  | .unit n :: rest =>
    if n < 0xD800 ∨ 0xDFFF < n then (assemble? rest).map (Char.ofNat n :: ·)
    else if 0xDBFF < n then none
    else match rest with
      | .unit m :: rest =>
        if 0xDC00 ≤ m ∧ m ≤ 0xDFFF then
          (assemble? rest).map (Char.ofNat (0x10000 + (n - 0xD800) * 0x400 + (m - 0xDC00)) :: ·)
        else none
      | _ => none

/-- The quoted text at the start of a text and what follows it; the inner `none` for half a
    surrogate pair. -/
def quoted? : List Char → Option (Option String × List Char)
  | '"' :: cs => (pieces? cs).map fun r => ((assemble? r.1).map String.ofList, r.2)
  | _ => none

/-- Up to so many values with commas between them and `close` after them, and what follows it. The
    text starts where a value has to start. -/
def sequence? {α : Type} (close : Char) (item? : List Char → Option (α × List Char)) :
    Nat → List Char → Option (List α × List Char)
  | 0, _ => none
  | fuel + 1, cs => do
    let (a, cs) ← item? cs
    match skipSpace cs with
    | c :: rest =>
      if c = close then some ([a], rest)
      else if c = ',' then
        let (as, rest) ← sequence? close item? fuel rest
        some (a :: as, rest)
      else none
    | [] => none

/-- Values with commas between them after an opening bracket, perhaps none, and what follows
    `close`. -/
def bracketed? {α : Type} (close : Char) (item? : List Char → Option (α × List Char))
    (cs : List Char) : Option (List α × List Char) :=
  match skipSpace cs with
  | c :: rest => if c = close then some ([], rest) else sequence? close item? cs.length cs
  | [] => none

/-- A name, a colon and a value, and what follows them. -/
def namedValue? (value? : List Char → Option (Json × List Char)) (cs : List Char) :
    Option ((Option String × Json) × List Char) := do
  let (name, cs) ← quoted? (skipSpace cs)
  match skipSpace cs with
  | ':' :: cs =>
    let (j, cs) ← value? cs
    some ((name, j), cs)
  | _ => none

/-- An object, or `void` when one of its names is. -/
def ofNamed (members : List (Option String × Json)) : Json :=
  match members.mapM fun m => m.1.map fun name => (name, m.2) with
  | some members => obj members
  | none => void

/-- What follows the given word. -/
def afterWord? (word : String) (cs : List Char) : Option (List Char) :=
  if word.toList.isPrefixOf cs then some (cs.drop word.length) else none

/-- The value at the start of a text, with at most so many arrays and objects inside one another,
    and what follows it. -/
def value? : Nat → List Char → Option (Json × List Char)
  | depth, cs => match skipSpace cs with
    | [] => none
    | '"' :: rest => (quoted? ('"' :: rest)).map fun r =>
        ((match r.1 with | some s => str s | none => void), r.2)
    | '[' :: rest => match depth with
      | 0 => none
      | depth + 1 => (bracketed? ']' (value? depth) rest).map fun r => (arr r.1, r.2)
    | '\x7b' :: rest => match depth with
      | 0 => none
      | depth + 1 =>
        (bracketed? '\x7d' (namedValue? (value? depth)) rest).map fun r => (ofNamed r.1, r.2)
    | 'n' :: rest => (afterWord? "ull" rest).map fun rest => (null, rest)
    | 't' :: rest => (afterWord? "rue" rest).map fun rest => (bool true, rest)
    | 'f' :: rest => (afterWord? "alse" rest).map fun rest => (bool false, rest)
    | cs => number? cs

/-- The value that a text stands for. -/
def parse? (text : String) : Option Json := do
  let cs := text.toList
  let (j, rest) ← value? cs.length cs
  if (skipSpace rest).isEmpty then some j else none

end FabricTopology.Json
