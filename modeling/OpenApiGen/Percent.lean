import OpenApiGen.Utf8

/-! # Percent escapes of bytes -/

namespace OpenApiGen.Percent

def hex? (c : Char) : Option Nat :=
  if c.isDigit then some (c.toNat - '0'.toNat)
  else if 'a' ≤ c ∧ c ≤ 'f' then some (c.toNat - 'a'.toNat + 10)
  else if 'A' ≤ c ∧ c ≤ 'F' then some (c.toNat - 'A'.toNat + 10)
  else none

def byte? (c d : Char) : Option Nat := do return (← hex? c) * 16 + (← hex? d)

/-- A percent sign without two hexadecimal digits stands for itself. -/
def decode : List Char → List Nat
  | '%' :: c :: d :: rest => match byte? c d with
    | some b => b :: decode rest
    | none => Utf8.encodeChar '%' ++ decode (c :: d :: rest)
  | c :: rest => Utf8.encodeChar c ++ decode rest
  | [] => []

end OpenApiGen.Percent
