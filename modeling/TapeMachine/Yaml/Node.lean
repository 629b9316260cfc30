import TapeMachine.Yaml.Tokens

/-! The values of a YAML document as it is written, before anything is made of them. -/

namespace TapeMachine.Yaml

/-- A value in a document, with the line that it starts on. -/
inductive Node where
  /-- A scalar. Without a tag of its own it is known only as plain or as quoted. -/
  | scalar (line : Nat) (tag : Option String) (plain : Bool) (text : String)
  /-- A sequence. -/
  | sequence (line : Nat) (tag : Option String) (items : List Node)
  /-- A mapping. -/
  | mapping (line : Nat) (tag : Option String) (entries : List (Node × Node))
  /-- A name in place of a value. The text has the name at one place only, and it means a value by
  its number. -/
  | reference (line : Nat) (place : Nat) (name : String) (target : Nat)
  deriving Repr, Inhabited

namespace Node

/-- The line that a node starts on. -/
def line : Node → Nat
  | scalar line _ _ _ => line
  | sequence line _ _ => line
  | mapping line _ _ => line
  | reference line _ _ _ => line

end Node

/-- A document. -/
structure Document where
  /-- Its value. -/
  root : Node
  /-- The values that have names. One of them can hold references to itself. -/
  named : Array Node

/-- The reader of nodes between two of them. -/
structure NodeReader where
  /-- The tokens that are left. -/
  tokens : Tokens
  /-- The names with the numbers of their values, the latest first. -/
  anchors : List (String × Nat)
  /-- The values that have names, as far as they are complete. -/
  named : Array Node

/-- Reading nodes. -/
abbrev ReadNode (α : Type) := StateT NodeReader (Except Error) α

namespace ReadNode

/-- What the tags of the language itself start with. -/
def languageTags : String := "tag:yaml.org,2002:"

/-- The handles that every document knows. -/
def defaultHandles : List (String × String) := [("!", "!"), ("!!", languageTags)]

/-- The next token. -/
def peek : ReadNode Token := do
  let tokens := (← get).tokens
  match tokens.list, tokens.error? with
  | token :: _, _ => return token
  | [], some error => throw error
  | [], none => return ⟨.streamEnd, ⟨0, 0, 0⟩⟩

/-- Steps over the next token. -/
def skip : ReadNode Unit :=
  modify fun reader =>
    { reader with tokens := { reader.tokens with list := reader.tokens.list.tail } }

/-- Complains about a place. -/
def complain {α : Type} (context : Option Mark) (place : Mark) (problem : String) : ReadNode α :=
  throw (.malformed (complaintLine context place 0) problem)

/-- Whether the next token is of one of some kinds. -/
def peekIs (kinds : List TokenKind) : ReadNode Bool := do
  return kinds.contains (← peek).kind

/-- The scalar that stands where nothing is written. -/
def absent (place : Mark) : Node := .scalar (place.line + 1) none true ""

/-- A tag in its short form. -/
def shortTag (tag : String) : String :=
  if tag.startsWith languageTags then "!!" ++ (tag.drop languageTags.length).toString else tag

/-- What can stand in front of a value. -/
structure Properties where
  /-- The first place of the value. -/
  start : Mark
  /-- Its name. -/
  anchor? : Option String
  /-- Its tag. -/
  tag? : Option String

/-- The full form of a tag. -/
def resolveTag (handles : List (String × String)) (start place : Mark) (handle suffix : String) :
    ReadNode String :=
  if handle = "" then return suffix
  else match handles.find? fun (known, _) => known = handle with
  | some (_, head) => return head ++ suffix
  | none => complain (some start) place "found undefined tag handle"

/-- Reads the name and the tag in front of a value, in either order. -/
def properties (handles : List (String × String)) : ReadNode Properties := do
  let first ← peek
  let mut anchor? := none
  let mut tag? := none
  for _ in List.range 2 do
    let token ← peek
    match token.kind with
    | .anchor name =>
      if anchor?.isNone then
        anchor? := some name
        skip
    | .tag handle suffix =>
      if tag?.isNone then
        tag? := some (handle, suffix, token.start)
        skip
    | _ => pure ()
  match tag? with
  | none => return ⟨first.start, anchor?, none⟩
  | some (handle, suffix, place) =>
    let tag ← resolveTag handles first.start place handle suffix
    return ⟨first.start, anchor?, some tag⟩

/-- The tag of a value; a lone exclamation mark says nothing. -/
def Properties.ownTag (found : Properties) : Option String :=
  (found.tag?.filter (· ≠ "!")).map shortTag

/-- Gives a value a name and a number before it is read, so that it can refer to itself. -/
def claim (anchor? : Option String) (placeholder : Node) : ReadNode (Option Nat) := do
  match anchor? with
  | none => return none
  | some name =>
    let number := (← get).named.size
    modify fun reader => { reader with
      anchors := (name, number) :: reader.anchors, named := reader.named.push placeholder }
    return some number

/-- Reads a value and keeps it under its name. -/
def named (anchor? : Option String) (line : Nat) (read : ReadNode Node) : ReadNode Node := do
  let number? ← claim anchor? (.sequence line none [])
  let node ← read
  if let some number := number? then
    modify fun reader => { reader with named := reader.named.setIfInBounds number node }
  return node

/-- The reference that a name stands for. -/
def referenceTo (start : Mark) (name : String) : ReadNode Node := do
  match (← get).anchors.find? fun (known, _) => known = name with
  | some (_, target) => return .reference (start.line + 1) start.index name target
  | none => throw (.malformed none ("unknown anchor '" ++ name ++ "' referenced"))

/-- Where a value stands, which decides how it can be written. -/
inductive Place where
  /-- In a flow collection. -/
  | flow
  /-- In a block. -/
  | block
  /-- In a block mapping, where a sequence needs no indentation. -/
  | blockEntry
  deriving DecidableEq

/-- What can follow a key or a value in a block mapping. -/
def blockMappingEnds : List TokenKind := [.key, .value, .blockEnd]

/-- What can follow an item of a sequence without indentation. -/
def indentlessEnds : List TokenKind := [.blockEntry, .key, .value, .blockEnd]

/-- Steps over the comma between two members of a flow collection. -/
def flowSeparator (start : Mark) (close : TokenKind) (first : Bool) (problem : String) :
    ReadNode Unit := do
  let token ← peek
  if first || token.kind = close then return ()
  else if token.kind = .flowEntry then skip
  else complain (some start) token.start problem

/-- Complains about values inside values inside values. -/
def tooDeep {α : Type} : ReadNode α := throw (.malformed none "exceeded max depth")

mutual

/-- Reads a value. -/
def node (handles : List (String × String)) : Nat → Place → ReadNode Node
  | 0, _ => tooDeep
  | fuel + 1, place => do
    let token ← peek
    if let .reference name := token.kind then
      let found ← referenceTo token.start name
      skip
      return found
    let found ← properties handles
    let line := found.start.line + 1
    let token ← peek
    let keep := named found.anchor? line
    let block := place ≠ .flow
    match token.kind with
    | .scalar text style =>
      skip
      keep (pure (.scalar line found.ownTag (style = .plain) text))
    | .flowSequenceStart =>
      skip
      keep do return .sequence line found.ownTag (← flowItems handles fuel token.start true)
    | .flowMappingStart =>
      skip
      keep do return .mapping line found.ownTag (← flowEntries handles fuel token.start true)
    | kind =>
      if place = .blockEntry && kind = .blockEntry then
        keep do return .sequence line found.ownTag (← indentlessItems handles fuel)
      else if block && kind = .blockSequenceStart then
        skip
        keep do return .sequence line found.ownTag (← blockItems handles fuel token.start)
      else if block && kind = .blockMappingStart then
        skip
        keep do return .mapping line found.ownTag (← blockEntries handles fuel token.start)
      else if found.anchor?.isSome || found.tag?.isSome then
        keep (pure (.scalar line found.ownTag true ""))
      else complain (some found.start) token.start "did not find expected node content"

/-- Reads a value, unless a token follows that shows that there is none. -/
def nodeUnless (handles : List (String × String)) : Nat → List TokenKind → Place → ReadNode Node
  | 0, _, _ => tooDeep
  | fuel + 1, ends, place => do
    if ← peekIs ends then return absent (← peek).start
    else node handles fuel place

/-- Reads the items of a block sequence. -/
def blockItems (handles : List (String × String)) : Nat → Mark → ReadNode (List Node)
  | 0, _ => tooDeep
  | fuel + 1, start => do
    let token ← peek
    match token.kind with
    | .blockEntry =>
      skip
      let item ← nodeUnless handles fuel [.blockEntry, .blockEnd] .block
      return item :: (← blockItems handles fuel start)
    | .blockEnd =>
      skip
      return []
    | _ => complain (some start) token.start "did not find expected '-' indicator"

/-- Reads the items of a block sequence that has no indentation. -/
def indentlessItems (handles : List (String × String)) : Nat → ReadNode (List Node)
  | 0 => tooDeep
  | fuel + 1 => do
    if ← peekIs [.blockEntry] then
      skip
      let item ← nodeUnless handles fuel indentlessEnds .block
      return item :: (← indentlessItems handles fuel)
    else return []

/-- Reads the entries of a block mapping. -/
def blockEntries (handles : List (String × String)) :
    Nat → Mark → ReadNode (List (Node × Node))
  | 0, _ => tooDeep
  | fuel + 1, start => do
    let token ← peek
    match token.kind with
    | .key =>
      skip
      let key ← nodeUnless handles fuel blockMappingEnds .blockEntry
      let value ← entryValue handles fuel blockMappingEnds .blockEntry
      return (key, value) :: (← blockEntries handles fuel start)
    | .blockEnd =>
      skip
      return []
    | _ => complain (some start) token.start "did not find expected key"

/-- Reads the value of an entry behind its key. -/
def entryValue (handles : List (String × String)) : Nat → List TokenKind → Place → ReadNode Node
  | 0, _, _ => tooDeep
  | fuel + 1, ends, place => do
    if ← peekIs [.value] then
      skip
      nodeUnless handles fuel ends place
    else return absent (← peek).start

/-- Reads the items of a flow sequence; a single entry of a mapping can be one. -/
def flowItems (handles : List (String × String)) : Nat → Mark → Bool → ReadNode (List Node)
  | 0, _, _ => tooDeep
  | fuel + 1, start, first => do
    flowSeparator start .flowSequenceEnd first "did not find expected ',' or ']'"
    let token ← peek
    match token.kind with
    | .flowSequenceEnd =>
      skip
      return []
    | .key =>
      skip
      let ends := [.flowEntry, .flowSequenceEnd]
      let key ←
        if ← peekIs (.value :: ends) then do
          -- A key that is not there takes the next token with it.
          skip
          pure (absent token.start)
        else node handles fuel .flow
      let value ← entryValue handles fuel ends .flow
      let item := Node.mapping (token.start.line + 1) none [(key, value)]
      return item :: (← flowItems handles fuel start false)
    | _ =>
      let item ← node handles fuel .flow
      return item :: (← flowItems handles fuel start false)

/-- Reads the entries of a flow mapping. -/
def flowEntries (handles : List (String × String)) :
    Nat → Mark → Bool → ReadNode (List (Node × Node))
  | 0, _, _ => tooDeep
  | fuel + 1, start, first => do
    flowSeparator start .flowMappingEnd first "did not find expected ',' or '\x7d'"
    let token ← peek
    match token.kind with
    | .flowMappingEnd =>
      skip
      return []
    | .key =>
      skip
      let ends := [.flowEntry, .flowMappingEnd]
      let key ← nodeUnless handles fuel (.value :: ends) .flow
      let value ← entryValue handles fuel ends .flow
      return (key, value) :: (← flowEntries handles fuel start false)
    | _ =>
      let key ← node handles fuel .flow
      return (key, absent (← peek).start) :: (← flowEntries handles fuel start false)

end

/-- Reads the directives in front of a document, and returns the handles that they define. -/
def directives : List Token → Bool → List (String × String) → ReadNode (List (String × String))
  | [], _, handles => return handles
  | _ :: rest, versioned, handles => do
    let token ← peek
    match token.kind with
    | .versionDirective major minor =>
      if versioned then complain none token.start "found duplicate %YAML directive"
      if major ≠ 1 || minor ≠ 1 then complain none token.start "found incompatible YAML document"
      skip
      directives rest true handles
    | .tagDirective handle head =>
      if handles.any fun (known, _) => known = handle then
        complain none token.start "found duplicate %TAG directive"
      skip
      directives rest versioned ((handle, head) :: handles)
    | _ => return handles

/-- Reads the value of the first document; a text without a document has none. -/
def documentValue : ReadNode (Option Node) := do
  let tokens := (← get).tokens.list
  let fuel := 3 * tokens.length + 3
  let first ← peek
  match first.kind with
  | .streamEnd => return none
  | .versionDirective _ _ | .tagDirective _ _ | .documentStart =>
    let handles ← directives tokens false []
    let token ← peek
    if token.kind ≠ .documentStart then
      complain none token.start "did not find expected <document start>"
    skip
    let next ← peek
    match next.kind with
    | .versionDirective _ _ | .tagDirective _ _ | .documentStart | .documentEnd | .streamEnd =>
      return some (absent next.start)
    | _ => return some (← node (handles ++ defaultHandles) fuel .block)
  | _ => return some (← node defaultHandles fuel .block)

/-- Reads the first document up to the token behind its value, which shows that it is complete. -/
def document : ReadNode (Option Document) := do
  let some root ← documentValue | return none
  let _ ← peek
  return some ⟨root, (← get).named⟩

end ReadNode

/-- The first document of a text. -/
def Document.ofSource (source : Source) : Except Error (Option Document) := do
  let (document?, _) ← ReadNode.document.run ⟨tokens source, [], #[]⟩
  return document?

end TapeMachine.Yaml
