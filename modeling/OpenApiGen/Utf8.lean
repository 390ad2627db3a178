/-! # UTF-8: bytes of characters, and characters of bytes that may be no text -/

namespace OpenApiGen.Utf8

def tail (n : Nat) : Nat := 0x80 + n % 0x40

def encodeChar (c : Char) : List Nat :=
  let n := c.toNat
  if n < 0x80 then [n]
  else if n < 0x800 then [0xc0 + n / 0x40, tail n]
  else if n < 0x10000 then [0xe0 + n / 0x1000, tail (n / 0x40), tail n]
  else [0xf0 + n / 0x40000, tail (n / 0x1000), tail (n / 0x40), tail n]

def encode (cs : List Char) : List Nat := cs.flatMap encodeChar

def size (text : String) : Nat := (encode text.toList).length

/-- How many bytes follow a first byte, and the range of the second one. -/
def lead? (b : Nat) : Option (Nat × Nat × Nat) :=
  if b < 0xc2 then none
  else if b < 0xe0 then some (1, 0x80, 0xbf)
  else if b = 0xe0 then some (2, 0xa0, 0xbf)
  else if b = 0xed then some (2, 0x80, 0x9f)
  else if b < 0xf0 then some (2, 0x80, 0xbf)
  else if b = 0xf0 then some (3, 0x90, 0xbf)
  else if b < 0xf4 then some (3, 0x80, 0xbf)
  else if b = 0xf4 then some (3, 0x80, 0x8f)
  else none

def isTail (b : Nat) : Bool := 0x80 ≤ b && b ≤ 0xbf

def replacement : Char := '\ufffd'

/-- Each longest run of bytes that starts a character and breaks off becomes one replacement
character, and so does each byte that starts none. -/
def decode : List Nat → List Char
  | [] => []
  | a :: rest =>
    if a < 0x80 then Char.ofNat a :: decode rest
    else match lead? a, rest with
      | none, rest => replacement :: decode rest
      | some _, [] => [replacement]
      | some (count, low, high), b :: rest =>
        if low ≤ b ∧ b ≤ high then
          if count = 1 then Char.ofNat ((a - 0xc0) * 0x40 + (b - 0x80)) :: decode rest
          else match rest with
            | [] => [replacement]
            | c :: rest =>
              if isTail c then
                if count = 2 then
                  Char.ofNat ((a - 0xe0) * 0x1000 + (b - 0x80) * 0x40 + (c - 0x80)) :: decode rest
                else match rest with
                  | [] => [replacement]
                  | d :: rest =>
                    if isTail d then
                      Char.ofNat ((a - 0xf0) * 0x40000 + (b - 0x80) * 0x1000 + (c - 0x80) * 0x40
                        + (d - 0x80)) :: decode rest
                    else replacement :: decode (d :: rest)
              else replacement :: decode (c :: rest)
        else replacement :: decode (b :: rest)

/-- The text of which these are the bytes. -/
def decode? (bytes : List Nat) : Option String :=
  let cs := decode bytes
  if encode cs = bytes then some (String.ofList cs) else none

end OpenApiGen.Utf8
