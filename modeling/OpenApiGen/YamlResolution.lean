import OpenApiGen.JsonReading
import OpenApiGen.YamlReading

/-! # Values of YAML documents: the core schema, anchors, and their limits -/

namespace OpenApiGen.Yaml

def coreTag (name : String) : String := "tag:yaml.org,2002:" ++ name

def isNull (text : String) : Bool := ["null", "Null", "NULL", "~"].contains text

def boolean? (text : String) : Option Bool :=
  if ["true", "True", "TRUE"].contains text then some true
  else if ["false", "False", "FALSE"].contains text then some false
  else none

def digitIn? (radix : Nat) (c : Char) : Option Nat :=
  match hexDigit? c with
  | some d => if d < radix then some d else none
  | none => none

def natural? (radix : Nat) : List Char → Option Nat
  | [] => none
  | cs => cs.foldlM (fun n c => (digitIn? radix c).map (n * radix + ·)) 0

def radixOf? : List Char → Option (Nat × List Char)
  | '0' :: 'x' :: rest => some (16, rest)
  | '0' :: 'o' :: rest => some (8, rest)
  | '0' :: 'b' :: rest => some (2, rest)
  | _ => none

def unsigned (cs : List Char) : List Char :=
  match cs with
  | '-' :: rest | '+' :: rest => rest
  | cs => cs

/-- More than one digit, a zero first. -/
def hasLeadingZero (cs : List Char) : Bool :=
  match unsigned cs with
  | '0' :: d :: rest => (d :: rest).all Char.isDigit
  | _ => false

def magnitude? (cs : List Char) : Option Nat :=
  match radixOf? cs with
  | some (radix, rest) => natural? radix rest
  | none => natural? 10 cs

def integer? (cs : List Char) : Option Int :=
  if hasLeadingZero cs then none
  else match cs with
    | '-' :: rest => (magnitude? rest).map fun n => -(n : Int)
    | '+' :: rest => (magnitude? rest).map fun n => (n : Int)
    | cs => (magnitude? cs).map fun n => (n : Int)

def fitsWord (n : Int) : Bool := -Int.pow 2 63 ≤ n && n < Int.pow 2 64

def fitsDoubleWord (n : Int) : Bool := -Int.pow 2 127 ≤ n && n < Int.pow 2 128

inductive SpecialFloat
  | infinite | notANumber
deriving DecidableEq

def special? (text : String) : Option SpecialFloat :=
  if [".inf", ".Inf", ".INF", "+.inf", "+.Inf", "+.INF", "-.inf", "-.Inf", "-.INF"].contains text
  then some .infinite
  else if [".nan", ".NaN", ".NAN"].contains text then some .notANumber
  else none

/-- Digits with a point somewhere, and an exponent. -/
def decimal? (cs : List Char) : Option (Nat × Int) := do
  let (whole, rest) := JsonText.digits cs
  let (fraction, rest) := match rest with
    | '.' :: rest => JsonText.digits rest
    | rest => ([], rest)
  let ds := whole ++ fraction
  let (exponent, rest) ← JsonText.readExponent rest
  if ds.isEmpty || !rest.isEmpty then none
  else return (JsonText.valueOfDigits ds, exponent.getD 0 - fraction.length)

/-- A finite number near the decimal, which may have a sign. -/
def float? (cs : List Char) : Option Binary64 :=
  match cs with
  | '-' :: rest => (decimal? rest).bind fun (ds, e) => Binary64.ofDecimal? true ds e
  | '+' :: rest => (decimal? rest).bind fun (ds, e) => Binary64.ofDecimal? false ds e
  | cs => (decimal? cs).bind fun (ds, e) => Binary64.ofDecimal? false ds e

/-- An integer outside of the words of 64 bits is refused, unless it is too long even for 128. -/
def integerJson? (n : Int) : Option Json :=
  if fitsWord n then some (.number (.integer n)) else none

def numberJson? (text : String) : Option Json :=
  if (special? text).isSome then some .null
  else (float? text.toList).map fun x => .number (.double x)

/-- What a plain scalar stands for. -/
def plainJson? (text : String) : Option Json :=
  if text.isEmpty || isNull text then some .null
  else match boolean? text with
    | some b => some (.boolean b)
    | none => match (integer? text.toList).filter fitsDoubleWord with
      | some n => integerJson? n
      | none =>
        if hasLeadingZero text.toList then some (.string text)
        else some ((numberJson? text).getD (.string text))

/-- Tags of the core schema decide, and those of an application are refused. -/
def scalarJson? (tag : Option String) (style : Style) (text : String) : Option Json :=
  match tag with
  | none => if style = .plain then plainJson? text else some (.string text)
  | some tag =>
    if tag.startsWith "!" then none
    else if tag == coreTag "bool" then (boolean? text).map .boolean
    else if tag == coreTag "int" then
      ((integer? text.toList).filter fitsDoubleWord).bind integerJson?
    else if tag == coreTag "float" then numberJson? text
    else if tag == coreTag "null" then (if isNull text then some .null else none)
    else some (.string text)

def isApplicationTag (p : Properties) : Bool := p.tag.any (·.startsWith "!")

/-- A document with the nodes its anchors end up at. -/
structure Document where
  root : Node
  targets : List (Nat × Node)
  events : Nat

def Document.ofNode (root : Node) : Document := ⟨root, root.anchors.reverse, root.events⟩

/-- Uses of anchors, of which a document may make a hundred per event. -/
abbrev Resolving := StateT Nat Option

def Document.follow (doc : Document) (anchor : Nat) : Resolving Node := do
  let jumps := (← get) + 1
  set jumps
  if jumps > doc.events * 100 then failure
  match doc.targets.lookup anchor with
  | some node => return node
  | none => failure

def deepest : Nat := 128

def Document.keyText (doc : Document) (key : Node) : Resolving String := do
  let key ← match key with
    | .anchored n => doc.follow n
    | key => pure key
  match key with
  | .scalar _ _ text => return text
  | _ => failure

/-- `levels` is the number of collections that may still be opened. -/
def Document.resolve (doc : Document) (fuel levels : Nat) (node : Node) : Resolving Json :=
  match fuel with
  | 0 => failure
  | fuel + 1 =>
    match node with
    | .anchored n => do doc.resolve fuel levels (← doc.follow n)
    | .scalar p style text => match scalarJson? p.tag style text with
      | some value => pure value
      | none => failure
    | .sequence p items =>
      if isApplicationTag p || levels == 0 then failure
      else do return .array (← items.mapM (doc.resolve fuel (levels - 1)))
    | .mapping p entries =>
      if isApplicationTag p || levels == 0 then failure
      else do
        let entries ← entries.mapM fun (key, value) => do
          return ((← doc.keyText key), (← doc.resolve fuel (levels - 1) value))
        return .object (KeyedList.ofList entries)

def Document.toJson? (doc : Document) : Option Json :=
  ((doc.resolve (2 * deepest + 4) deepest doc.root).run 0).map (·.1)

/-- The value of a text: no document at all is null. -/
def toJson? (text : String) : Option Json :=
  match parse? text with
  | none => none
  | some none => some .null
  | some (some root) => (Document.ofNode root).toJson?

end OpenApiGen.Yaml
