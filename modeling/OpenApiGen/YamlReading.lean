import OpenApiGen.YamlNode
import OpenApiGen.YamlScalars

/-! # Reading YAML documents -/

namespace OpenApiGen.Yaml

def isWordChar (c : Char) : Bool := c.isAlphanum || c == '_' || c == '-'

/-- The characters of an anchor, which has to be followed by a gap or a sign. -/
def readAnchorName : Reader String := do
  let name ← takeWhile isWordChar
  let next ← peek?
  if name.isEmpty then failure
  if !(endsWord next || next.any fun c => "?:,]\x7d%@\x60".toList.contains c) then failure
  return String.ofList name

def readAnchor : Reader Nat := do
  skip 1
  let name ← readAnchorName
  let s ← get
  let number := s.anchors.length
  let known := s.anchors.any (·.1 == name)
  let anchors := if known then
      s.anchors.map fun e => if e.1 == name then (name, number) else e
    else s.anchors ++ [(name, number)]
  set { s with anchors := anchors, keyAllowed := false }
  return number

def readAlias : Reader Node := do
  skip 1
  let name ← readAnchorName
  allowKeys false
  match (← get).anchors.lookup name with
  | some number => return .anchored number
  | none => failure

def isTagChar (verbatim : Bool) (c : Char) : Bool :=
  isWordChar c || ";/?:@&=+$.%!~*\x27()".toList.contains c || (verbatim && ",[]".toList.contains c)

/-- Percent escapes stand for the bytes of a text. -/
def decodeTag? (cs : List Char) : Option String :=
  let rec bytes : List Char → Option (List UInt8)
    | [] => some []
    | '%' :: a :: b :: rest => do
      return UInt8.ofNat (← hexValue? [a, b]) :: (← bytes rest)
    | '%' :: _ => none
    | c :: rest => do return (String.singleton c).toUTF8.toList ++ (← bytes rest)
  do String.fromUTF8? (ByteArray.mk (← bytes cs).toArray)

def defaultHandles : List (String × String) := [("!", "!"), ("!!", "tag:yaml.org,2002:")]

def expandHandle (handle suffix : String) : Reader String := do
  match ((← get).handles ++ defaultHandles).lookup handle with
  | some start => return start ++ suffix
  | none => failure

def readTagText (verbatim : Bool) : Reader String := do
  match decodeTag? (← takeWhile (isTagChar verbatim)) with
  | some text => return text
  | none => failure

/-- `!<name>`, `!handle!name`, `!name` or a lone `!`. -/
def readTag (flow : Bool) : Reader String := do
  skip 1
  let tag ← if (← peek?) == some '<' then do
      skip 1
      let name ← readTagText true
      if name.isEmpty || (← peek?) != some '>' then failure
      skip 1
      pure name
    else do
      let word := ((← get).rest.takeWhile isWordChar)
      if (← next? word.length) == some '!' then do
        skip (word.length + 1)
        let name ← readTagText false
        if name.isEmpty then failure
        expandHandle ("!" ++ String.ofList word ++ "!") name
      else do
        let name ← readTagText false
        if name.isEmpty then pure "!" else expandHandle "!" name
  let next ← peek?
  if !(endsWord next || (flow && next == some ',')) then failure
  allowKeys false
  return tag

/-- At most one anchor and one tag. -/
def Properties.merge? (outer inner : Properties) : Option Properties :=
  if outer.anchor.isSome && inner.anchor.isSome then none
  else if outer.tag.isSome && inner.tag.isSome then none
  else some ⟨outer.anchor <|> inner.anchor, outer.tag <|> inner.tag⟩

def merge (outer inner : Properties) : Reader Properties :=
  match outer.merge? inner with
  | some p => pure p
  | none => failure

def readProperty? (flow : Bool) : Reader (Option Properties) := do
  match ← peek? with
  | some '&' => return some { anchor := some (← readAnchor) }
  | some '!' => return some { tag := some (← readTag flow) }
  | _ => return none

/-- Properties that stand on the current line. -/
def readProperties (flow : Bool) : Reader Properties := do
  let rec go : Nat → Properties → Reader Properties
    | 0, p => return p
    | fuel + 1, p => do
      match ← readProperty? flow with
      | none => return p
      | some q => do
        let p ← merge p q
        let _ ← takeWhile isBlank
        go fuel p
  go 3 {}

def Properties.isEmpty (p : Properties) : Bool := p.anchor.isNone && p.tag.isNone

/-- A lone `!` on a scalar says nothing. -/
def Properties.ofScalar (p : Properties) : Properties :=
  if p.tag == some "!" then { p with tag := none } else p

def scalarNode (style : Style) (text : List Char) : Node := .scalar {} style (String.ofList text)

def withProperties (p : Properties) : Node → Option Node
  | .scalar q style text => (p.merge? q).map fun p => .scalar p.ofScalar style text
  | .sequence q items => (p.merge? q).map (.sequence · items)
  | .mapping q entries => (p.merge? q).map (.mapping · entries)
  | .anchored n => if p.isEmpty then some (.anchored n) else none

def attach (p : Properties) (node : Node) : Reader Node :=
  match withProperties p node with
  | some node => pure node
  | none => failure

def startsPlain (flow : Bool) (c : Char) (next : Option Char) : Bool :=
  if c == '-' then !endsWord next
  else if c == '?' || c == ':' then !flow && !endsWord next
  else !isGap c && !",[]\x7b\x7d#&*!|>\x27\"%@\x60".toList.contains c

/-- A sign that a gap follows. Inside of brackets `?` and `:` need none. -/
def atSign (flow : Bool) (c : Char) : Reader Bool := do
  return (← peek?) == some c && (flow || endsWord (← next? 1))

/-- The limit on a key that is not marked as such: one line and this many characters. -/
def keyLimit : Nat := 1024

def keyFollows (flow allowed : Bool) (line offset : Nat) : Reader Bool := do
  let s ← get
  let behind := s.rest.dropWhile isBlank
  let colon := behind.head? == some ':' && (flow || endsWord behind[1]?)
  let length := s.offset + (s.rest.length - behind.length) - offset
  if !colon || s.line != line then return false
  if !allowed || length > keyLimit then failure
  let _ ← takeWhile isBlank
  return true

mutual

/-- A node inside of brackets. -/
def flowNode (fuel : Nat) : Reader Node :=
  match fuel with
  | 0 => failure
  | fuel + 1 => do
    let rec properties : Nat → Properties → Reader Properties
      | 0, p => return p
      | n + 1, p => do
        match ← readProperty? true with
        | none => return p
        | some q => do
          let p ← merge p q
          skipToToken true
          properties n p
    let p ← properties 3 {}
    let next ← peek?
    if !p.isEmpty && next.any (fun c => c == ',' || c == ']' || c == '}' || c == ':') then
      return Node.empty p
    attach p (← content fuel true 0)

/-- A scalar, an anchored node, or a collection in brackets. -/
def content (fuel : Nat) (flow : Bool) (margin : Int) : Reader Node :=
  match fuel with
  | 0 => failure
  | fuel + 1 => do
    match ← peek? with
    | none => failure
    | some '*' => readAlias
    | some '"' => do skip 1; return scalarNode .quoted (← readQuoted false)
    | some '\x27' => do skip 1; return scalarNode .quoted (← readQuoted true)
    | some '[' => do
      skip 1
      let items ← flowItems fuel true
      allowKeys false
      return .sequence {} items
    | some '{' => do
      skip 1
      let entries ← flowEntries fuel true
      allowKeys false
      return .mapping {} entries
    | some c =>
      if startsPlain flow c (← next? 1) then
        return scalarNode .plain (← readPlain flow margin)
      else failure

/-- Items up to the closing bracket; a comma separates them and may follow the last one. -/
def flowItems (fuel : Nat) (first : Bool) : Reader (List Node) :=
  match fuel with
  | 0 => failure
  | fuel + 1 => do
    skipToToken true
    if (← peek?) == some ']' then do skip 1; return []
    if !first then do
      if (← peek?) != some ',' then failure
      skip 1
      skipToToken true
    if (← peek?) == some ']' then do skip 1; return []
    let item ← if ← atSign true '?' then do
        let (key, value) ← flowPair fuel
        pure (.mapping {} [(key, value)])
      else do
        let s ← get
        let node ← flowNode fuel
        if ← flowKeyFollows s then
          pure (.mapping {} [(node, ← flowValue fuel)])
        else pure node
    return item :: (← flowItems fuel false)

def flowEntries (fuel : Nat) (first : Bool) : Reader (List (Node × Node)) :=
  match fuel with
  | 0 => failure
  | fuel + 1 => do
    skipToToken true
    if (← peek?) == some '}' then do skip 1; return []
    if !first then do
      if (← peek?) != some ',' then failure
      skip 1
      skipToToken true
    if (← peek?) == some '}' then do skip 1; return []
    let entry ← if ← atSign true '?' then flowPair fuel
      else do
        let s ← get
        let node ← flowNode fuel
        if ← flowKeyFollows s then pure (node, ← flowValue fuel)
        else pure (node, .empty {})
    return entry :: (← flowEntries fuel false)

/-- A pair that `?` marks. -/
def flowPair (fuel : Nat) : Reader (Node × Node) :=
  match fuel with
  | 0 => failure
  | fuel + 1 => do
    skip 1
    skipToToken true
    let key ← if (← peek?).any fun c => c == ':' || c == ',' || c == ']' || c == '}' then
        pure (Node.empty {})
      else flowNode fuel
    skipToToken true
    if (← peek?) == some ':' then return (key, ← flowValue fuel)
    else return (key, .empty {})

/-- A value behind its colon. -/
def flowValue (fuel : Nat) : Reader Node :=
  match fuel with
  | 0 => failure
  | fuel + 1 => do
    skip 1
    skipToToken true
    if (← peek?).any fun c => c == ',' || c == ']' || c == '}' then return .empty {}
    else flowNode fuel

/-- The node that began at `start` is a key: a colon follows on the same line. -/
def flowKeyFollows (start : Cursor) : Reader Bool := do
  if ← keyFollows true true start.line start.offset then return true
  skipToToken true
  if (← peek?) == some ':' then failure
  return false

end

/-- What may be a key: properties alone can stand for an empty one. -/
def keyContent (fuel : Nat) (own : Properties) (indent : Int) : Reader Node := do
  if !own.isEmpty && (← atSign false ':') then return .empty {}
  else content fuel false (indent + 1)

/-- Nothing more belongs to a collection with this indentation. -/
def atEndOf (indent : Int) : Reader Bool := do
  return (← peek?).isNone || (← atMarker) || (← column) < indent

mutual

/-- The node at the current sign, right of `indent`. `outer` are properties of earlier lines. -/
def blockNode (fuel : Nat) (indent : Int) (entries : Bool) (outer : Properties) : Reader Node :=
  match fuel with
  | 0 => failure
  | fuel + 1 => do
    let s ← get
    let own ← readProperties false
    let next ← peek?
    if !own.isEmpty && (endsLine next || next == some '#') then do
      let p ← merge outer own
      skipToToken false
      nodeOrEmpty fuel indent entries p
    else if own.isEmpty && (← atSign false '-') then do
      if !s.keyAllowed then failure
      let items ← blockItems fuel s.column
      attach outer (.sequence {} items)
    else if own.isEmpty && (← atSign false '?') then do
      if !s.keyAllowed then failure
      let entries ← blockEntries fuel s.column
      attach outer (.mapping {} entries)
    else if next == some '|' || next == some '>' then do
      let literal := next == some '|'
      skip 1
      let text ← readBlock literal indent
      attach (← merge outer own) (scalarNode (if literal then .literal else .folded) text)
    else do
      let node ← keyContent fuel own indent
      if ← keyFollows false s.keyAllowed s.line s.offset then do
        let key ← attach own node
        let value ← blockValue fuel s.column
        let rest ← blockEntries fuel s.column
        attach outer (.mapping {} ((key, value) :: rest))
      else attach (← merge outer own) node

/-- The node right of `indent`, else a sequence at `indent` where an entry of a mapping may hold
one, else an empty scalar. -/
def nodeOrEmpty (fuel : Nat) (indent : Int) (entries : Bool) (outer : Properties) : Reader Node :=
  match fuel with
  | 0 => failure
  | fuel + 1 => do
    if ← atEndOf indent then return Node.empty outer
    if (← column) == indent then
      if entries && (← atSign false '-') then do
        if !(← get).keyAllowed then failure
        let items ← entryItems fuel indent
        attach outer (.sequence {} items)
      else return Node.empty outer
    else blockNode fuel indent entries outer

/-- A value behind the colon of a key that needs no mark. -/
def blockValue (fuel : Nat) (indent : Int) : Reader Node :=
  match fuel with
  | 0 => failure
  | fuel + 1 => do
    skip 1
    allowKeys false
    skipToToken false
    nodeOrEmpty fuel indent true {}

/-- A node behind `-`, `?` or the colon of a marked key. -/
def markedNode (fuel : Nat) (indent : Int) (entries : Bool) : Reader Node :=
  match fuel with
  | 0 => failure
  | fuel + 1 => do
    if !(← get).keyAllowed then failure
    skip 1
    skipToToken false
    nodeOrEmpty fuel indent entries {}

/-- Items of a sequence whose signs stand at `indent`. -/
def blockItems (fuel : Nat) (indent : Int) : Reader (List Node) :=
  match fuel with
  | 0 => failure
  | fuel + 1 => do
    skipToToken false
    if ← atEndOf indent then return []
    if (← column) != indent || !(← atSign false '-') then failure
    let item ← markedNode fuel indent false
    return item :: (← blockItems fuel indent)

/-- Items of a sequence inside an entry of the mapping at `indent`. -/
def entryItems (fuel : Nat) (indent : Int) : Reader (List Node) :=
  match fuel with
  | 0 => failure
  | fuel + 1 => do
    skipToToken false
    if (← atEndOf indent) || (← column) != indent || !(← atSign false '-') then return []
    let item ← markedNode fuel indent false
    return item :: (← entryItems fuel indent)

def blockEntries (fuel : Nat) (indent : Int) : Reader (List (Node × Node)) :=
  match fuel with
  | 0 => failure
  | fuel + 1 => do
    skipToToken false
    if ← atEndOf indent then return []
    if (← column) != indent then failure
    let entry ← if ← atSign false '?' then do
        let key ← markedNode fuel indent true
        skipToToken false
        if !(← atEndOf indent) && (← column) == indent && (← atSign false ':') then
          pure (key, ← markedNode fuel indent true)
        else pure (key, .empty {})
      else do
        let s ← get
        let own ← readProperties false
        let node ← keyContent fuel own indent
        if ← keyFollows false s.keyAllowed s.line s.offset then do
          let key ← attach own node
          pure (key, ← blockValue fuel indent)
        else failure
    return entry :: (← blockEntries fuel indent)

end

def readVersion : Reader Unit := do
  let _ ← takeWhile isBlank
  let major ← takeWhile Char.isDigit
  if (← peek?) != some '.' then failure
  skip 1
  let minor ← takeWhile Char.isDigit
  if major != ['1'] || !(minor == ['1'] || minor == ['2']) then failure

def readHandle : Reader (String × String) := do
  let _ ← takeWhile isBlank
  if (← peek?) != some '!' then failure
  skip 1
  let word ← takeWhile isWordChar
  let closed := (← peek?) == some '!'
  if closed then skip 1
  if !closed && !word.isEmpty then failure
  let handle := "!" ++ String.ofList word ++ (if closed then "!" else "")
  if !(← peek?).any isBlank then failure
  let _ ← takeWhile isBlank
  let start ← readTagText true
  if start.isEmpty then failure
  return (handle, start)

/-- Directives up to the `---` that has to follow them. -/
def readDirectives : Reader Bool := do
  let rec go : Nat → Bool → Bool → Reader Bool
    | 0, _, _ => failure
    | fuel + 1, versioned, any => do
      skipToToken false
      if (← column) != 0 || (← peek?) != some '%' then return any
      skip 1
      let name ← takeWhile isWordChar
      if !endsWord (← peek?) then failure
      let version := name == "YAML".toList
      if version then do
        if versioned then failure
        readVersion
      else if name == "TAG".toList then do
        let entry ← readHandle
        if (← get).handles.any (·.1 == entry.1) then failure
        modify fun s => { s with handles := s.handles ++ [entry] }
      else failure
      if !endsWord (← peek?) then failure
      let _ ← takeWhile isBlank
      skipComment
      if !endsLine (← peek?) then failure
      let _ ← takeBreak
      go fuel (versioned || version) true
  go ((← get).rest.length + 1) false false

/-- The document of a text, if there is one. A second document is refused. -/
def readDocument : Reader (Option Node) := do
  let fuel := 8 * (← get).rest.length + 8
  let directives ← readDirectives
  let marked := (← atMarker) && (← peek?) == some '-'
  if directives && !marked then failure
  if !marked && (← peek?).isNone then return none
  if marked then do
    skip 3
    allowKeys false
    skipToToken false
  if !marked && (← atMarker) then failure
  let node ← if marked && ((← peek?).isNone || (← atMarker)) then pure (Node.empty {})
    else blockNode fuel (-1) false {}
  skipToToken false
  let rec ends : Nat → Reader Unit
    | 0 => failure
    | fuel + 1 => do
      if (← atMarker) && (← peek?) == some '.' then do
        skip 3
        allowKeys false
        skipToToken false
        ends fuel
      else if (← peek?).isSome then failure
  ends fuel
  return some node

/-- The tree of a text, which is an empty scalar where the text has no document. -/
def parse? (text : String) : Option (Option Node) :=
  let cs := text.toList
  if cs.all isAllowed then (readDocument.run (Cursor.start cs)).map (·.1) else none

end OpenApiGen.Yaml
