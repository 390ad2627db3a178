import OpenApiGen.Json

/-! # Reading JSON texts: the grammar, and the values that written texts stand for -/

namespace OpenApiGen

/-- A character, or the sixteen bits of a numeric escape. -/
inductive StringPiece
  | character (c : Char)
  | escaped (bits : Nat)
deriving DecidableEq, Repr

/-- A number as it is written, digits from the left. -/
structure Numeral where
  negative : Bool
  whole : List Nat
  fraction : Option (List Nat)
  exponent : Option Int
deriving DecidableEq, Repr

/-- A text of the grammar that may still stand for no value. -/
inductive JsonText
  | null
  | boolean (b : Bool)
  | number (n : Numeral)
  | string (pieces : List StringPiece)
  | array (items : List JsonText)
  | object (entries : List (List StringPiece × JsonText))
deriving Repr, Inhabited

namespace JsonText

def isSpace (c : Char) : Bool := c == ' ' || c == '\n' || c == '\t' || c == '\r'

def skipSpace (cs : List Char) : List Char := cs.dropWhile isSpace

def digit? (c : Char) : Option Nat := if c.isDigit then some (c.toNat - '0'.toNat) else none

def hex? (c : Char) : Option Nat :=
  if c.isDigit then some (c.toNat - '0'.toNat)
  else if 'a' ≤ c ∧ c ≤ 'f' then some (c.toNat - 'a'.toNat + 10)
  else if 'A' ≤ c ∧ c ≤ 'F' then some (c.toNat - 'A'.toNat + 10)
  else none

def digits : List Char → List Nat × List Char
  | [] => ([], [])
  | c :: cs => match digit? c with
    | some d => ((d :: (digits cs).1), (digits cs).2)
    | none => ([], c :: cs)

def valueOfDigits (ds : List Nat) : Nat := ds.foldl (fun n d => n * 10 + d) 0

def readWhole (cs : List Char) : Option (List Nat × List Char) :=
  match digits cs with
  | ([], _) => none
  | (0 :: _ :: _, _) => none
  | (ds, rest) => some (ds, rest)

def readFraction : List Char → Option (Option (List Nat) × List Char)
  | '.' :: cs => match digits cs with
    | ([], _) => none
    | (ds, rest) => some (some ds, rest)
  | cs => some (none, cs)

def readExponent : List Char → Option (Option Int × List Char)
  | c :: cs =>
    if c = 'e' ∨ c = 'E' then
      let (sign, cs) : Int × List Char := match cs with
        | '+' :: cs => (1, cs)
        | '-' :: cs => (-1, cs)
        | cs => (1, cs)
      match digits cs with
      | ([], _) => none
      | (ds, rest) => some (some (sign * valueOfDigits ds), rest)
    else some (none, c :: cs)
  | [] => some (none, [])

def readNumeral (cs : List Char) : Option (Numeral × List Char) := do
  let (negative, cs) := match cs with
    | '-' :: cs => (true, cs)
    | cs => (false, cs)
  let (whole, cs) ← readWhole cs
  let (fraction, cs) ← readFraction cs
  let (exponent, cs) ← readExponent cs
  return (⟨negative, whole, fraction, exponent⟩, cs)

def escapedChar? (c : Char) : Option Char :=
  if c = '"' ∨ c = '\\' ∨ c = '/' then some c
  else if c = 'b' then some '\x08'
  else if c = 'f' then some '\x0c'
  else if c = 'n' then some '\n'
  else if c = 'r' then some '\r'
  else if c = 't' then some '\t'
  else none

/-- The pieces up to the closing quote. -/
def readPieces : List Char → Option (List StringPiece × List Char)
  | '"' :: rest => some ([], rest)
  | '\\' :: 'u' :: a :: b :: c :: d :: rest => do
    let bits := (← hex? a) * 4096 + (← hex? b) * 256 + (← hex? c) * 16 + (← hex? d)
    let (pieces, rest) ← readPieces rest
    return (.escaped bits :: pieces, rest)
  | '\\' :: c :: rest => do
    let c ← escapedChar? c
    let (pieces, rest) ← readPieces rest
    return (.character c :: pieces, rest)
  | c :: rest =>
    if c.toNat < 32 ∨ c = '\\' then none
    else do
      let (pieces, rest) ← readPieces rest
      return (.character c :: pieces, rest)
  | [] => none

mutual

/-- `fuel` bounds the number of characters that are read. -/
def readText (fuel : Nat) (cs : List Char) : Option (JsonText × List Char) :=
  match fuel with
  | 0 => none
  | fuel + 1 => match skipSpace cs with
    | 'n' :: 'u' :: 'l' :: 'l' :: rest => some (.null, rest)
    | 't' :: 'r' :: 'u' :: 'e' :: rest => some (.boolean true, rest)
    | 'f' :: 'a' :: 'l' :: 's' :: 'e' :: rest => some (.boolean false, rest)
    | '"' :: rest => (readPieces rest).map fun (pieces, rest) => (.string pieces, rest)
    | '[' :: rest => match skipSpace rest with
      | ']' :: rest => some (.array [], rest)
      | rest => (readItems fuel rest).map fun (items, rest) => (.array items, rest)
    | '{' :: rest => match skipSpace rest with
      | '}' :: rest => some (.object [], rest)
      | rest => (readEntries fuel rest).map fun (entries, rest) => (.object entries, rest)
    | rest => (readNumeral rest).map fun (numeral, rest) => (.number numeral, rest)

def readItems (fuel : Nat) (cs : List Char) : Option (List JsonText × List Char) :=
  match fuel with
  | 0 => none
  | fuel + 1 => match readText fuel cs with
    | none => none
    | some (item, rest) => match skipSpace rest with
      | ',' :: rest => (readItems fuel rest).map fun (items, rest) => (item :: items, rest)
      | ']' :: rest => some ([item], rest)
      | _ => none

def readEntries (fuel : Nat) (cs : List Char) :
    Option (List (List StringPiece × JsonText) × List Char) :=
  match fuel with
  | 0 => none
  | fuel + 1 => match skipSpace cs with
    | '"' :: rest => match readPieces rest with
      | none => none
      | some (key, rest) => match skipSpace rest with
        | ':' :: rest => match readText fuel rest with
          | none => none
          | some (value, rest) => match skipSpace rest with
            | ',' :: rest =>
              (readEntries fuel rest).map fun (entries, rest) => ((key, value) :: entries, rest)
            | '}' :: rest => some ([(key, value)], rest)
            | _ => none
        | _ => none
    | _ => none

end

/-- A text holds one value and nothing else. -/
def parse? (text : String) : Option JsonText :=
  let cs := text.toList
  match readText (2 * cs.length + 2) cs with
  | some (tree, rest) => if (skipSpace rest).isEmpty then some tree else none
  | none => none

end JsonText

/-- Escaped surrogates stand for a character in pairs only. -/
def StringPiece.characters? : List StringPiece → Option (List Char)
  | [] => some []
  | .character c :: rest => (characters? rest).map (c :: ·)
  | .escaped hi :: .escaped lo :: rest =>
    if 0xd800 ≤ hi ∧ hi < 0xdc00 then
      if 0xdc00 ≤ lo ∧ lo < 0xe000 then
        (characters? rest).map
          (Char.ofNat (0x10000 + (hi - 0xd800) * 0x400 + (lo - 0xdc00)) :: ·)
      else none
    else if 0xdc00 ≤ hi ∧ hi < 0xe000 then none
    else (characters? (.escaped lo :: rest)).map (Char.ofNat hi :: ·)
  | .escaped bits :: rest =>
    if 0xd800 ≤ bits ∧ bits < 0xe000 then none
    else (characters? rest).map (Char.ofNat bits :: ·)

def StringPiece.text? (pieces : List StringPiece) : Option String :=
  (characters? pieces).map String.ofList

namespace Numeral

def wordLimit : Nat := Nat.pow 2 64

/-- Digits are taken into a word of 64 bits. The first one that does not fit and all behind it are
left out; `(word, taken, left)` counts both kinds. -/
def takeDigits (word : Nat) : List Nat → Nat × Nat × Nat
  | [] => (word, 0, 0)
  | d :: ds =>
    if word * 10 + d < wordLimit then
      let (word, taken, left) := takeDigits (word * 10 + d) ds
      (word, taken + 1, left)
    else (word, 0, ds.length + 1)

def pow10? (n : Nat) : Option Binary64 :=
  if n ≤ 308 then Binary64.nearest? false (Nat.pow 10 n) 1 else none

/-- Division by ever more powers of ten, one rounding each. -/
def scaleDown : Nat → Binary64 → Nat → Option Binary64
  | 0, x, _ => some (Binary64.zero x.negative)
  | steps + 1, x, n =>
    if x.isZero then some x
    else match pow10? n with
      | some p => x.div? p
      | none => do
        let y ← x.div? (← pow10? 308)
        scaleDown steps y (n - 308)

/-- The word as a double, then one rounded product or quotient with a power of ten. -/
def double? (negative : Bool) (word : Nat) (exponent : Int) : Option Binary64 := do
  let x ← Binary64.ofNat? negative word
  if exponent < 0 then scaleDown 4 x (-exponent).toNat
  else if x.isZero then some x
  else x.mul? (← pow10? exponent.toNat)

/-- Integers that fit a signed or unsigned word are exact, except that `-0` is a double; every other
number is a double, and has to be finite. -/
def number? (n : Numeral) : Option Number :=
  let (word, _, left) := takeDigits 0 n.whole
  match n.fraction, n.exponent with
  | none, none =>
    if left > 0 then (double? n.negative word left).map .double
    else if !n.negative then some (.integer word)
    else if word = 0 ∨ word > Nat.pow 2 63 then (double? true word 0).map .double
    else some (.integer (-word))
  | fraction, exponent =>
    let (word, taken, _) := takeDigits word (fraction.getD [])
    (double? n.negative word (left - taken + exponent.getD 0)).map .double

end Numeral

namespace JsonText

/-- `levels` is the number of arrays and objects that may still be opened. -/
def toJson? (levels : Nat) : JsonText → Option Json
  | .null => some .null
  | .boolean b => some (.boolean b)
  | .number n => n.number?.map .number
  | .string pieces => (StringPiece.text? pieces).map .string
  | .array items => match levels with
    | 0 => none
    | levels + 1 => (items.mapM (toJson? levels)).map .array
  | .object entries => match levels with
    | 0 => none
    | levels + 1 =>
      (entries.mapM fun (key, value) => do
        return ((← StringPiece.text? key), (← toJson? levels value))).map
          fun entries => .object (KeyedList.ofList entries)

end JsonText

def Json.deepest : Nat := 127

def Json.parse? (text : String) : Option Json :=
  (JsonText.parse? text).bind (JsonText.toJson? Json.deepest)

end OpenApiGen
