import OpenApiGen.Diagnostics
import OpenApiGen.Percent

/-! # Which texts are absolute URLs -/

namespace OpenApiGen.AbsoluteUrl

inductive SchemeType
  | file | special | other
deriving DecidableEq

def schemeType (scheme : String) : SchemeType :=
  if scheme = "file" then .file
  else if ["http", "https", "ws", "wss", "ftp"].contains scheme then .special
  else .other

def isOuter (c : Char) : Bool := c.toNat ≤ 0x20

def isIgnored (c : Char) : Bool := c == '\t' || c == '\n' || c == '\r'

/-- Without controls and blanks at both ends, and without tabs and line breaks anywhere. -/
def clean (cs : List Char) : List Char :=
  let inner := ((cs.dropWhile isOuter).reverse.dropWhile isOuter).reverse
  inner.filter (!isIgnored ·)

def isSchemeChar (c : Char) : Bool := c.isAlphanum || c == '+' || c == '-' || c == '.'

/-- The scheme in lower case, and what follows its colon. -/
def scheme? (cs : List Char) : Option (String × List Char) :=
  let name := cs.takeWhile isSchemeChar
  match name, cs.dropWhile isSchemeChar with
  | first :: _, ':' :: rest =>
    if first.isAlpha then some (String.ofList (name.map Char.toLower), rest) else none
  | _, _ => none

def isForbidden (c : Char) : Bool :=
  c.toNat = 0 || "\t\n\r #/:<>?@[\\]^|".toList.contains c

def isForbiddenInDomain (c : Char) : Bool :=
  isForbidden c || c.toNat < 0x20 || c == '%' || c.toNat = 0x7f

/-! ## Addresses -/

def radixNumber (radix : Nat) (cs : List Char) : Option Nat :=
  cs.foldlM (fun n c => do
    let d ← Percent.hex? c
    if d < radix then some (n * radix + d) else none) 0

/-- Decimal, octal behind `0`, hexadecimal behind `0x`. -/
def ipv4Number? (cs : List Char) : Option Nat :=
  match cs with
  | [] => none
  | '0' :: 'x' :: rest | '0' :: 'X' :: rest => radixNumber 16 rest
  | '0' :: d :: rest => radixNumber 8 (d :: rest)
  | cs => radixNumber 10 cs

def dropLastEmpty (parts : List (List Char)) : List (List Char) :=
  if parts.getLast? = some [] then parts.dropLast else parts

def endsInNumber (domain : List Char) : Bool :=
  match (dropLastEmpty (domain.splitOn '.')).getLast? with
  | none => false
  | some last => (!last.isEmpty && last.all Char.isDigit) || (ipv4Number? last).isSome

def isIpv4 (domain : List Char) : Bool :=
  match (dropLastEmpty (domain.splitOn '.')).mapM ipv4Number? with
  | none => false
  | some numbers =>
    let count := numbers.length
    count ≤ 4 && numbers.dropLast.all (· ≤ 255)
      && numbers.getLast?.any fun n => n < Nat.pow 256 (5 - count)

def isHex (c : Char) : Bool := (Percent.hex? c).isSome

def isDottedByte (cs : List Char) : Bool :=
  match cs with
  | [] => false
  | [d] => d.isDigit
  | d :: rest => d != '0' && (d :: rest).all Char.isDigit
      && (radixNumber 10 cs).any (· ≤ 255)

/-- Groups of four bytes that a part of an address fills, where its form is right. The last part may
be four bytes with dots. -/
def groups? (parts : List (List Char)) : Option Nat :=
  match parts with
  | [] => some 0
  | [last] =>
    if last.contains '.' then
      let bytes := last.splitOn '.'
      if bytes.length = 4 ∧ bytes.all isDottedByte then some 2 else none
    else if last.length ≤ 4 ∧ !last.isEmpty ∧ last.all isHex then some 1 else none
  | part :: rest =>
    if part.length ≤ 4 ∧ !part.isEmpty ∧ part.all isHex then (groups? rest).map (· + 1) else none

def splitDouble : List Char → Option (List Char × List Char)
  | ':' :: ':' :: rest => some ([], rest)
  | c :: rest => (splitDouble rest).map fun (a, b) => (c :: a, b)
  | [] => none

def parts (cs : List Char) : List (List Char) := if cs.isEmpty then [] else cs.splitOn ':'

def isIpv6 (cs : List Char) : Bool :=
  match splitDouble cs with
  | none => groups? (parts cs) == some 8
  | some (front, back) =>
    match groups? (parts front), groups? (parts back) with
    | some a, some b => !front.contains '.' && a + b ≤ 7
    | _, _ => false

/-! ## Domains -/

def punycodeDigit? (c : Char) : Option Nat :=
  if c.isDigit then some (c.toNat - '0'.toNat + 26)
  else if c.isAlpha then some (c.toLower.toNat - 'a'.toNat)
  else none

def adaptBias (delta count : Nat) (first : Bool) : Nat :=
  let delta := if first then delta / 700 else delta / 2
  let delta := delta + delta / count
  let rec go : Nat → Nat → Nat → Nat
    | 0, k, d => k + 36 * d / (d + 38)
    | fuel + 1, k, d => if d > 455 then go fuel (k + 36) (d / 35) else k + 36 * d / (d + 38)
  go 32 0 delta

/-- A number whose digits weigh more the farther they stand from the start. -/
def variableNumber? (bias : Nat) : List Char → (k weight acc : Nat) → Option (Nat × List Char)
  | [], _, _, _ => none
  | c :: rest, k, weight, acc => do
    let d ← punycodeDigit? c
    let acc := acc + d * weight
    let threshold := if k ≤ bias then 1 else min (k - bias) 26
    if d < threshold then some (acc, rest)
    else variableNumber? bias rest (k + 36) (weight * (36 - threshold)) acc

def punycodeTail? : Nat → List Char → List Char → (n i bias : Nat) → (first : Bool) →
    Option (List Char)
  | _, [], out, _, _, _, _ => some out
  | 0, _, _, _, _, _, _ => none
  | fuel + 1, cs, out, n, i, bias, first => do
    let (next, rest) ← variableNumber? bias cs 36 1 i
    let count := out.length + 1
    let n := n + next / count
    let at' := next % count
    if h : n.isValidChar then
      punycodeTail? fuel rest (out.take at' ++ Char.ofNatAux n h :: out.drop at') n (at' + 1)
        (adaptBias (next - i) count first) false
    else none

def punycode? (cs : List Char) : Option (List Char) :=
  let (basic, rest) := match cs.reverse.dropWhile (· != '-') with
    | [] => ([], cs)
    | _ :: front => (front.reverse, cs.drop (front.length + 1))
  punycodeTail? cs.length rest basic 128 0 72 true

/-- Full stops of other scripts and full-width signs become plain ones, and characters that only
guide the layout vanish. -/
def mapChar (c : Char) : List Char :=
  let n := c.toNat
  if n = 0x3002 ∨ n = 0xff61 then ['.']
  else if 0xff01 ≤ n ∧ n ≤ 0xff5e then [(Char.ofNat (n - 0xfee0)).toLower]
  else if n = 0xad ∨ n = 0x34f ∨ n = 0x200b ∨ n = 0x2060 ∨ n = 0x2064 ∨ n = 0xfeff
      ∨ (0xfe00 ≤ n ∧ n ≤ 0xfe0f) then []
  else [c.toLower]

def isLabelChar (c : Char) : Bool :=
  if c.toNat < 128 then !isForbiddenInDomain c
  else c != Utf8.replacement && !Unicode.inRuns Diagnostics.invisibleRuns c.toNat

def isUnicodeLabel (label : List Char) : Bool :=
  label.all isLabelChar
    && label.head?.all fun c => !Unicode.inRuns Diagnostics.combiningRuns c.toNat

def isLabel (label : List Char) : Bool :=
  if "xn--".toList.isPrefixOf label then
    (punycode? (label.drop 4)).any fun decoded =>
      isUnicodeLabel decoded && decoded.any (·.toNat ≥ 128)
  else isUnicodeLabel label

def isHost (cs : List Char) : Bool :=
  if cs.head? = some '[' then cs.getLast? = some ']' && isIpv6 (cs.drop 1).dropLast
  else
    let domain := (Utf8.decode (Percent.decode cs)).flatMap mapChar
    !domain.isEmpty && (domain.splitOn '.').all isLabel
      && (!endsInNumber domain || isIpv4 domain)

/-- The host of a scheme without rules of its own may be empty. -/
def isOpaqueHost (cs : List Char) : Bool :=
  if cs.head? = some '[' then cs.getLast? = some ']' && isIpv6 (cs.drop 1).dropLast
  else cs.all (!isForbidden ·)

/-! ## Authorities -/

def endsAuthority (special : Bool) (c : Char) : Bool :=
  c == '/' || c == '?' || c == '#' || (special && c == '\\')

/-- The host ends at the first colon that is not inside of brackets. -/
def splitHost : Bool → List Char → List Char × List Char
  | _, [] => ([], [])
  | inside, c :: rest =>
    if c = ':' ∧ !inside then ([], c :: rest)
    else
      let inside := if c = '[' then true else if c = ']' then false else inside
      let (host, behind) := splitHost inside rest
      (c :: host, behind)

def isPortNumber (cs : List Char) : Bool :=
  let digits := cs.takeWhile (· != '\\')
  digits.all Char.isDigit && (radixNumber 10 digits).any (· ≤ 65535)

/-- A user before `@`, a host, and a number behind a colon, of which the host alone has to be
there. -/
def isAuthority (special : Bool) (cs : List Char) : Bool :=
  let (host, behind) := splitHost false ((cs.splitOn '@').getLastD cs)
  let hostOk :=
    if special then isHost host
    else if host.isEmpty then behind.isEmpty && !cs.contains '@'
    else isOpaqueHost host
  hostOk && (behind.isEmpty || isPortNumber (behind.drop 1))

def isDriveLetter : List Char → Bool
  | [a, b] => a.isAlpha && (b == ':' || b == '|')
  | _ => false

def isSlash (c : Char) : Bool := c == '/' || c == '\\'

def isFileRest (cs : List Char) : Bool :=
  match cs with
  | a :: b :: rest =>
    if isSlash a ∧ isSlash b then
      let host := rest.takeWhile (!endsAuthority true ·)
      host.isEmpty || isDriveLetter host || isHost host
    else true
  | _ => true

/-- The text is a URL on its own, without a base to resolve it against. -/
def accepts (cs : List Char) : Bool :=
  match scheme? (clean cs) with
  | none => false
  | some (scheme, rest) => match schemeType scheme with
    | .file => isFileRest rest
    | .special => isAuthority true ((rest.dropWhile isSlash).takeWhile (!endsAuthority true ·))
    | .other => match rest with
      | '/' :: '/' :: rest => isAuthority false (rest.takeWhile (!endsAuthority false ·))
      | _ => true

end OpenApiGen.AbsoluteUrl
