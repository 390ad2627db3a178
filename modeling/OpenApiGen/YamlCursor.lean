/-! # Positions in YAML texts -/

namespace OpenApiGen.Yaml

def isBlank (c : Char) : Bool := c == ' ' || c == '\t'

def isBreak (c : Char) : Bool :=
  c == '\n' || c == '\r' || c == '\u0085' || c == '\u2028' || c == '\u2029'

def isGap (c : Char) : Bool := isBlank c || isBreak c

/-- Characters that may stand in a text. -/
def isAllowed (c : Char) : Bool :=
  let n := c.toNat
  n == 0x09 || n == 0x0a || n == 0x0d || (0x20 ≤ n && n ≤ 0x7e) || n == 0x85
    || (0xa0 ≤ n && n ≤ 0xfffd) || 0x10000 ≤ n

/-- What is left of a text, where it starts, and what was met before. `keyAllowed` says that a
mapping or a sequence may begin here; `anchors` gives the latest number of each anchor. -/
structure Cursor where
  rest : List Char
  line : Nat
  column : Nat
  offset : Nat
  keyAllowed : Bool
  anchors : List (String × Nat)
  handles : List (String × String)

def Cursor.start (cs : List Char) : Cursor := ⟨cs, 0, 0, 0, true, [], []⟩

abbrev Reader := StateT Cursor Option

def peek? : Reader (Option Char) := return (← get).rest.head?

def next? (n : Nat) : Reader (Option Char) := return (← get).rest[n]?

def column : Reader Nat := return (← get).column

def allowKeys (allowed : Bool) : Reader Unit := modify fun s => { s with keyAllowed := allowed }

/-- Passes over `n` characters of one line. -/
def skip (n : Nat) : Reader Unit := modify fun s =>
  { s with rest := s.rest.drop n, column := s.column + n, offset := s.offset + n }

def takeWhile (p : Char → Bool) : Reader (List Char) := do
  let taken := (← get).rest.takeWhile p
  skip taken.length
  return taken

/-- Passes over a line break and gives the character it stands for; nothing at the end. -/
def takeBreak : Reader (List Char) := do
  let s ← get
  let after (n : Nat) : Cursor :=
    { s with rest := s.rest.drop n, line := s.line + 1, column := 0, offset := s.offset + n }
  match s.rest with
  | '\r' :: '\n' :: _ => set (after 2); return ['\n']
  | c :: _ =>
    if c == '\u2028' || c == '\u2029' then do set (after 1); return [c]
    else if isBreak c then do set (after 1); return ['\n']
    else return []
  | [] => return []

def endsWord : Option Char → Bool
  | none => true
  | some c => isGap c

def endsLine : Option Char → Bool
  | none => true
  | some c => isBreak c

/-- A line starts with `---` or `...`, which end a document. -/
def atMarker : Reader Bool := do
  let s ← get
  let marks := s.rest.take 3
  return s.column == 0 && (marks == ['-', '-', '-'] || marks == ['.', '.', '.'])
    && endsWord s.rest[3]?

def skipComment : Reader Unit := do
  if (← peek?) == some '#' then
    let _ ← takeWhile fun c => !isBreak c

/-- Passes over blanks, comments and line breaks. Outside of brackets a tab cannot stand before
the first sign of a line, and a new line may begin a mapping or a sequence. -/
def skipToToken (flow : Bool) : Reader Unit := do
  let rec go : Nat → Reader Unit
    | 0 => failure
    | fuel + 1 => do
      let s ← get
      if s.column == 0 && s.rest.head? == some '\ufeff' then skip 1
      let tabs := flow || !s.keyAllowed
      let _ ← takeWhile fun c => c == ' ' || (tabs && c == '\t')
      skipComment
      match ← peek? with
      | some c =>
        if isBreak c then do
          let _ ← takeBreak
          if !flow then allowKeys true
          go fuel
        else if flow && (← atMarker) then failure
        else return ()
      | none => return ()
  go ((← get).rest.length + 1)

end OpenApiGen.Yaml
