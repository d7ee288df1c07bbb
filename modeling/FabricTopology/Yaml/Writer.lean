import FabricTopology.Decimal
import FabricTopology.Text.Numeral
import FabricTopology.Text.Words
import FabricTopology.Yaml.Tree

/-!
The text of a tree as a block: one entry or item a line, what belongs to it two spaces further in,
and a sequence of short atoms between brackets on the line of its key while that line has at most
`lineWidth` bytes. The writer runs over the tree once and adds to what it has written; the first
entry of a mapping that is an item of a sequence stays on the line of the item's dash, which the
writer sees from the end of its own text.

A text stands on one line, plain where nothing else could be read from it, in single quotes otherwise, and in double
quotes, with escapes, when it holds a character that could end the line. What is plain in a block may need quotes in a
flow, that is between brackets.

A document is a header of comment lines, an empty line and the text of a tree. Whatever a header holds stays on its
comment line, because characters that could end a line become spaces.
-/
namespace FabricTopology.Yaml
open FabricTopology.Text

/-! ### Texts -/

/-- Characters that a reader may take for the end of a line, or that are not printable. -/
def breaksLine (c : Char) : Bool :=
  let n := c.toNat
  n ≤ 0x1F || (0x7F ≤ n && n ≤ 0x9F) || n == 0x2028 || n == 0x2029 || n == 0xFEFF

/-- Words that stand for something else than a text, in any case. -/
def reserved : List String :=
  ["true", "false", "yes", "no", "on", "off", "y", "n", "null", "~", ".inf", "-.inf", "+.inf",
    ".nan"]

/-- One of the reserved words. -/
def isReserved (cs : List Char) : Bool := reserved.any fun w => cs.map Char.toLower == w.toList

/-- Digits with colons, low lines and points among them, such as a pair of ports or a time. -/
def isDigitGroup (cs : List Char) : Bool :=
  (cs.head?.any Char.isDigit) &&
    cs.all fun c => c.isDigit || c == ':' || c == '_' || c == '.'

/-- What some reader takes for a number. -/
def looksNumeric (cs : List Char) : Bool :=
  isNumeral cs || isDigitGroup cs || ['0', 'x'].isPrefixOf cs || ['0', 'o'].isPrefixOf cs

/-- Characters that mean something at the start of a text. -/
def indicators : List Char := "-?:,[]\x7b\x7d#&*!|>'\"%@\x60".toList

/-- Characters that mean something inside a flow. -/
def flowMarks : List Char := ",[]\x7b\x7d:#".toList

/-- Whether `b` stands right after `a` somewhere. -/
def hasPair (a b : Char) : List Char → Bool
  | c :: d :: rest => (c == a && d == b) || hasPair a b (d :: rest)
  | _ => false

/-- Whether a reader of the plain text could find something else than the text. -/
def needsQuotes (inFlow : Bool) (cs : List Char) : Bool :=
  cs.isEmpty || trim cs != cs || isReserved cs || looksNumeric cs ||
    (cs.head?.any fun c => indicators.contains c) || hasPair ':' ' ' cs || hasPair ' ' '#' cs ||
    cs.getLast? == some ':' || (inFlow && cs.any fun c => flowMarks.contains c) ||
    cs.any breaksLine

/-- The three ways to write a text. -/
inductive Style where
  | plain
  | single
  | double
deriving DecidableEq

/-- How a text is written. -/
def styleOf (inFlow : Bool) (cs : List Char) : Style :=
  if !needsQuotes inFlow cs then .plain else if cs.any breaksLine then .double else .single

/-- A character between double quotes. -/
def escapeDouble (c : Char) : List Char :=
  if c = '"' then ['\\', '"']
  else if c = '\\' then ['\\', '\\']
  else if c = '\n' then ['\\', 'n']
  else if c = '\t' then ['\\', 't']
  else if c = '\r' then ['\\', 'r']
  else if c = '\u0085' then ['\\', 'N']
  else if c = '\u2028' then ['\\', 'L']
  else if c = '\u2029' then ['\\', 'P']
  else if breaksLine c then '\\' :: 'u' :: Text.hexText 4 c.toNat
  else [c]

/-- The single quote. -/
def singleQuote : Char := '\x27'

/-- A character between single quotes. -/
def escapeSingle (c : Char) : List Char :=
  if c = singleQuote then [singleQuote, singleQuote] else [c]

/-- A text in the given style. -/
def inStyle : Style → List Char → List Char
  | .plain, cs => cs
  | .single, cs => singleQuote :: cs.flatMap escapeSingle ++ [singleQuote]
  | .double, cs => '"' :: cs.flatMap escapeDouble ++ ['"']

/-- A text as it stands in a document. -/
def scalar (inFlow : Bool) (cs : List Char) : List Char := inStyle (styleOf inFlow cs) cs

/-! ### Trees -/

open FabricTopology.Decimal

/-- The most bytes of a line that a sequence between brackets may stand on. -/
def lineWidth : Nat := 120

/-- Bytes of a text in UTF-8. -/
def byteCount (cs : List Char) : Nat := cs.foldr (fun c n => c.utf8Size + n) 0

/-- The text of a double. -/
def floatText (x : Float) : List Char :=
  if x.isNaN then ".nan".toList
  else if x.isInf then (if isNegative x then "-.inf" else ".inf").toList
  else finiteText x

/-- Null, a truth value or a number. -/
def atom? : Tree → Option (List Char)
  | .null => some "null".toList
  | .bool b => some (if b then "true" else "false").toList
  | .int n => some (integerText n)
  | .float x => some (floatText x)
  | _ => none

/-- An atom or a text between brackets. -/
def flowItem? : Tree → Option (List Char)
  | .str s => some (scalar true s.toList)
  | t => atom? t

/-- A tree on one line: an atom, a text, a sequence of such, or an empty mapping. -/
def inline? : Tree → Option (List Char)
  | .str s => some (scalar false s.toList)
  | .seq items =>
    (items.mapM flowItem?).map fun parts => '[' :: [',', ' '].intercalate parts ++ [']']
  | .map [] => some ['\x7b', '\x7d']
  | .map (_ :: _) => none
  | .tagged _ t => inline? t
  | t => atom? t

/-- A tree as a key. -/
def keyText (t : Tree) : List Char := (inline? t).getD ['?']

/-- What is written so far, the last character first. -/
abbrev Written := List Char

namespace Written

/-- A text added. -/
def add (out : Written) (cs : List Char) : Written := cs.reverseAux out

/-- Spaces added. -/
def pad (out : Written) (indent : Nat) : Written := out.add (List.replicate indent ' ')

/-- A line ended after a text, nothing for a tree that has no line of its own. -/
def line (out : Written) (t : Tree) : Written := (out.add ((inline? t).getD [])).add ['\n']

/-- A dash and a space come last. -/
def endsInDash : Written → Bool
  | ' ' :: '-' :: _ => true
  | _ => false

end Written

mutual

/-- The entries of a mapping, each on a line of its own except that the `first` one may go on after
    a dash. -/
def writeEntries (out : Written) (indent : Nat) (first : Bool) : List (Tree × Tree) → Written
  | [] => out
  | (key, value) :: rest =>
    let start := if first && out.endsInDash then out else out.pad indent
    let named := (start.add (keyText key)).add [':']
    let entry := writeValue named indent (indent + byteCount (keyText key) + 2) value
    writeEntries entry indent false rest

/-- The value of an entry after its key; a text on the same line would begin at `column`. -/
def writeValue (out : Written) (indent column : Nat) : Tree → Written
  | .map (e :: es) => writeEntries (out.add ['\n']) (indent + 2) true (e :: es)
  | .seq (t :: ts) =>
    match (inline? (.seq (t :: ts))).filter fun flow => column + byteCount flow ≤ lineWidth with
    | some flow => ((out.add [' ']).add flow).add ['\n']
    | none => writeItems (out.add ['\n']) (indent + 2) (t :: ts)
  | .tagged _ t => writeValue out indent column t
  | t => (out.add [' ']).line t

/-- The items of a sequence. -/
def writeItems (out : Written) (indent : Nat) : List Tree → Written
  | [] => out
  | t :: rest => writeItems (writeItem ((out.pad indent).add ['-']) indent t) indent rest

/-- An item after its dash. -/
def writeItem (out : Written) (indent : Nat) : Tree → Written
  | .map (e :: es) => writeEntries (out.add [' ']) (indent + 2) true (e :: es)
  | .seq (t :: ts) => writeItems (out.add ['\n']) (indent + 2) (t :: ts)
  | t => (out.add [' ']).line t

end

/-- The text of a tree. -/
def text (t : Tree) : List Char :=
  let out : Written := match t with
    | .map (e :: es) => writeEntries [] 0 true (e :: es)
    | .seq (i :: is) => writeItems [] 0 (i :: is)
    | t => Written.line [] t
  out.reverse

/-! ### Documents -/

/-- What the comment above a document says. -/
structure Header where
  title : String
  network : String
  runtime : String
  consensus : Option String
  channel : Option String
  notes : List String
  reference : String

/-- A text as part of a comment. -/
def comment (s : String) : List Char := s.toList.map fun c => if breaksLine c then ' ' else c

/-- The comment lines. -/
def Header.lines (h : Header) : List (List Char) :=
  let said (label : String) (s : String) : List Char := "# ".toList ++ label.toList ++ comment s
  [said "" h.title, said "Network: " h.network, said "Generated for " h.runtime] ++
    (h.consensus.map (said "Consensus: ")).toList ++ (h.channel.map (said "Channel: ")).toList ++
    h.notes.map (said "") ++ ["#".toList, said "Reference: " h.reference]

/-- The comment and the empty line after it. -/
def Header.text (h : Header) : List Char := (h.lines ++ [[]]).flatMap fun line => line ++ ['\n']

/-- The text of a document. -/
def document (header : Header) (body : Tree) : String := String.ofList (header.text ++ text body)

/-- The text of a tree without a header. -/
def render (body : Tree) : String := String.ofList (text body)

end FabricTopology.Yaml
