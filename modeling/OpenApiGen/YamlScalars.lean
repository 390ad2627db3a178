import OpenApiGen.YamlCursor

/-! # Scalars of YAML texts: plain, quoted, and in blocks -/

namespace OpenApiGen.Yaml

/-- Blanks on one line, or a line break with the further breaks behind it. -/
inductive Gap
  | blanks (cs : List Char)
  | breaks (first more : List Char)

/-- One line feed folds to a space; of several the first one is dropped. -/
def Gap.fold : Gap → List Char
  | .blanks cs => cs
  | .breaks first more =>
    if first = ['\n'] then (if more.isEmpty then [' '] else more) else first ++ more

/-- A tab left of `margin` at the start of a line is refused. -/
def readGap (margin : Int) (gap : Gap) : Reader Gap := do
  let rec go : Nat → Gap → Reader Gap
    | 0, _ => failure
    | fuel + 1, gap => do
      match ← peek? with
      | none => return gap
      | some c =>
        if isBlank c then
          match gap with
          | .blanks cs => do skip 1; go fuel (.blanks (cs ++ [c]))
          | .breaks .. => do
            if c == '\t' && (← column) < margin then failure
            skip 1
            go fuel gap
        else if isBreak c then do
          let b ← takeBreak
          match gap with
          | .blanks _ => go fuel (.breaks b [])
          | .breaks first more => go fuel (.breaks first (more ++ b))
        else return gap
  go ((← get).rest.length + 1) gap

def isFlowSign (c : Char) : Bool := c == ',' || c == '[' || c == ']' || c == '{' || c == '}'

/-- The characters up to the next gap or sign. Nothing is read where a colon would be glued to
a sign of an enclosing bracket. -/
def plainRun (flow : Bool) : List Char → Option (List Char)
  | [] => some []
  | c :: cs =>
    if isGap c then some []
    else if c = ':' ∧ flow ∧ cs.head?.any (fun d => isFlowSign d || d == '?') then none
    else if c = ':' ∧ endsWord cs.head? then some []
    else if flow ∧ isFlowSign c then some []
    else (plainRun flow cs).map (c :: ·)

/-- Continuation lines stand at `margin` or right of it, inside of brackets anywhere. -/
def readPlain (flow : Bool) (margin : Int) : Reader (List Char) := do
  let rec go : Nat → Bool → List Char → List Char → Reader (List Char)
    | 0, _, _, _ => failure
    | fuel + 1, crossed, acc, pending => do
      let finish : Reader (List Char) := do
        allowKeys crossed
        return acc
      if (← atMarker) || (← peek?) == some '#' then finish
      else match plainRun flow (← get).rest with
        | none => failure
        | some run => do
          skip run.length
          let text := if run.isEmpty then acc else acc ++ pending ++ run
          let crossed := crossed && run.isEmpty
          match ← peek? with
          | some c =>
            if isGap c then do
              let gap ← readGap margin (.blanks [])
              let crossed := match gap with
                | .blanks _ => crossed
                | .breaks .. => true
              if !flow && (← column) < margin then do
                allowKeys crossed
                return text
              else go fuel crossed text gap.fold
            else do
              allowKeys crossed
              return text
          | none => do
            allowKeys crossed
            return text
  go ((← get).rest.length + 1) false [] []

def hexDigit? (c : Char) : Option Nat :=
  if c.isDigit then some (c.toNat - '0'.toNat)
  else if 'a' ≤ c ∧ c ≤ 'f' then some (c.toNat - 'a'.toNat + 10)
  else if 'A' ≤ c ∧ c ≤ 'F' then some (c.toNat - 'A'.toNat + 10)
  else none

def hexValue? (cs : List Char) : Option Nat :=
  cs.foldlM (fun n c => (hexDigit? c).map (n * 16 + ·)) 0

def namedEscapes : List (Char × Nat) := [
  ('0', 0x00), ('a', 0x07), ('b', 0x08), ('t', 0x09), ('\t', 0x09), ('n', 0x0a), ('v', 0x0b),
  ('f', 0x0c), ('r', 0x0d), ('e', 0x1b), (' ', 0x20), ('"', 0x22), ('/', 0x2f), ('\\', 0x5c),
  ('N', 0x85), ('_', 0xa0), ('L', 0x2028), ('P', 0x2029)]

/-- The character behind a backslash, and how many characters write it. -/
def escapeAt? : List Char → Option (Char × Nat)
  | [] => none
  | c :: cs =>
    match namedEscapes.lookup c with
    | some n => some (Char.ofNat n, 1)
    | none => do
      let width ← [('x', 2), ('u', 4), ('U', 8)].lookup c
      let ds := cs.take width
      let n ← if ds.length = width then hexValue? ds else none
      if h : n.isValidChar then some (Char.ofNatAux n h, width + 1) else none

/-- Behind the opening quote, up to and with the closing one. -/
def readQuoted (single : Bool) : Reader (List Char) := do
  let quote := if single then '\x27' else '"'
  let rec go : Nat → List Char → Reader (List Char)
    | 0, _ => failure
    | fuel + 1, acc => do
      if ← atMarker then failure
      match (← get).rest with
      | [] => failure
      | c :: cs =>
        if c == quote then
          if single && cs.head? == some quote then do skip 2; go fuel (acc ++ [quote])
          else do skip 1; return acc
        else if isGap c then do
          let gap ← readGap 0 (.blanks [])
          go fuel (acc ++ gap.fold)
        else if !single && c == '\\' then
          if cs.head?.any isBreak then do
            skip 1
            let _ ← takeBreak
            let gap ← readGap 0 (.breaks [] [])
            go fuel (acc ++ gap.fold)
          else match escapeAt? cs with
            | none => failure
            | some (d, width) => do skip (width + 1); go fuel (acc ++ [d])
        else do skip 1; go fuel (acc ++ [c])
  let text ← go ((← get).rest.length + 1) []
  allowKeys false
  return text

/-- What becomes of the line breaks at the end of a block. -/
inductive Chomping
  | strip | clip | keep
deriving DecidableEq

def chomping? : Option Char → Option Chomping
  | some '+' => some .keep
  | some '-' => some .strip
  | _ => none

def indentDigit? : Option Char → Option Nat
  | some c => if c.isDigit then some (c.toNat - '0'.toNat) else none
  | none => none

def readBlockHeader : Reader (Chomping × Option Nat) := do
  let readChomping : Reader (Option Chomping) := do
    match chomping? (← peek?) with
    | some c => do skip 1; return some c
    | none => return none
  let readIndent : Reader (Option Nat) := do
    match indentDigit? (← peek?) with
    | some 0 => failure
    | some n => do skip 1; return some n
    | none => return none
  match ← readChomping with
  | some c => return (c, ← readIndent)
  | none => do
    let n ← readIndent
    let c ← if n.isSome then readChomping else pure none
    return (c.getD .clip, n)

/-- Indentation and empty lines before a line of a block. Without a known indentation the
deepest line seen gives it, which is at least `least`. -/
def readBlockBreaks (known : Option Nat) (least : Nat) : Reader (List Char × Nat) := do
  let rec go : Nat → Nat → List Char → Reader (List Char × Nat)
    | 0, _, _ => failure
    | fuel + 1, deepest, acc => do
      let rec indent : Nat → Reader Unit
        | 0 => return ()
        | n + 1 => do
          let col ← column
          if known.all (col < ·) && (← peek?) == some ' ' then do
            skip 1
            indent n
      indent (← get).rest.length
      let col ← column
      let deepest := max deepest col
      if known.all (col < ·) && (← peek?) == some '\t' then failure
      match ← peek? with
      | some c =>
        if isBreak c then do
          let b ← takeBreak
          go fuel deepest (acc ++ b)
        else return (acc, deepest)
      | none => return (acc, deepest)
  let (breaks, deepest) ← go ((← get).rest.length + 1) 0 []
  return (breaks, known.getD (max deepest least))

/-- A block scalar, behind its sign. `parent` is the indentation of the collection around it. In a
folded block a line feed between two lines that do not start with a blank becomes a space. -/
def readBlock (literal : Bool) (parent : Int) : Reader (List Char) := do
  let (chomping, width) ← readBlockHeader
  let _ ← takeWhile isBlank
  skipComment
  if !endsLine (← peek?) then failure
  let _ ← takeBreak
  let least := max (parent + 1) 1
  let known := width.map fun n => (if parent ≥ 0 then parent + n else n).toNat
  let (breaks, margin) ← readBlockBreaks known least.toNat
  let rec go : Nat → List Char → List Char → List Char → Bool → Reader (List Char)
    | 0, _, _, _, _ => failure
    | fuel + 1, acc, lead, breaks, leadBlank => do
      let next ← peek?
      if (← column) == margin && next.isSome then do
        let blank := next.any isBlank
        let joint :=
          if !literal && lead == ['\n'] && !leadBlank && !blank then
            (if breaks.isEmpty then [' '] else [])
          else lead
        let line ← takeWhile fun c => !isBreak c
        let lead ← takeBreak
        let (more, _) ← readBlockBreaks (some margin) 0
        go fuel (acc ++ joint ++ breaks ++ line) lead more blank
      else
        return match chomping with
          | .strip => acc
          | .clip => acc ++ lead
          | .keep => acc ++ lead ++ breaks
  let text ← go ((← get).rest.length + 1) [] [] breaks false
  allowKeys true
  return text

end OpenApiGen.Yaml
