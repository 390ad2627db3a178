import OpenApiGen.Binary64
import OpenApiGen.KeyedList

/-! # JSON values and their compact text -/

namespace OpenApiGen

inductive Number
  | integer (n : Int)
  | double (x : Binary64)
deriving DecidableEq, Repr

inductive Json
  | null
  | boolean (b : Bool)
  | number (n : Number)
  | string (s : String)
  | array (items : List Json)
  | object (entries : List (String × Json))
deriving BEq, Repr, Inhabited

def Number.text : Number → String
  | .integer n => toString n
  | .double x => String.ofList x.text

namespace Json

def hexDigit (n : Nat) : Char := (Nat.toDigits 16 (n % 16)).headD '0'

/-- Quotes, backslashes and control characters are escaped, all else stands for itself. -/
def escape (c : Char) : List Char :=
  if c = '"' then ['\\', '"']
  else if c = '\\' then ['\\', '\\']
  else if c = '\n' then ['\\', 'n']
  else if c = '\r' then ['\\', 'r']
  else if c = '\t' then ['\\', 't']
  else if c = '\x08' then ['\\', 'b']
  else if c = '\x0c' then ['\\', 'f']
  else if c.toNat < 32 then ['\\', 'u', '0', '0', hexDigit (c.toNat / 16), hexDigit c.toNat]
  else [c]

def quoteChars (cs : List Char) : List Char := '"' :: cs.flatMap escape ++ ['"']

def quote (s : String) : String := String.ofList (quoteChars s.toList)

mutual

def text : Json → String
  | .null => "null"
  | .boolean b => if b then "true" else "false"
  | .number n => n.text
  | .string s => quote s
  | .array [] => "[]"
  | .array (item :: items) => "[" ++ text item ++ itemsText items
  | .object [] => "\x7b\x7d"
  | .object ((key, value) :: entries) =>
    "\x7b" ++ quote key ++ ":" ++ text value ++ entriesText entries

def itemsText : List Json → String
  | [] => "]"
  | item :: items => "," ++ text item ++ itemsText items

def entriesText : List (String × Json) → String
  | [] => "\x7d"
  | (key, value) :: entries => "," ++ quote key ++ ":" ++ text value ++ entriesText entries

end

mutual

/-- Levels of nesting: scalars have none. -/
def depth : Json → Nat
  | .array items => itemsDepth items + 1
  | .object entries => entriesDepth entries + 1
  | _ => 0

def itemsDepth : List Json → Nat
  | [] => 0
  | item :: items => max (depth item) (itemsDepth items)

def entriesDepth : List (String × Json) → Nat
  | [] => 0
  | (_, value) :: entries => max (depth value) (entriesDepth entries)

end

def isString : Json → Bool
  | .string _ => true
  | _ => false

end Json
end OpenApiGen
