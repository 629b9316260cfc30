import TapeMachine.Config.Decoder
import TapeMachine.Text.Utf8
import TapeMachine.Yaml.Scalar

/-! A decoder of YAML for settings. -/

namespace TapeMachine.Yaml

/-- A configuration that is being filled in. -/
structure Filling where
  /-- The settings with their names. -/
  settings : List (String × Setting)
  /-- The configuration. -/
  config : Config
  /-- What did not fit, in the order found. -/
  problems : List Bytes
  /-- The values that have names. -/
  named : Array Node
  /-- The places of the references that are being followed, the innermost first. -/
  active : List Nat
  /-- How many values have been looked at. -/
  visits : Nat
  /-- How many of them were reached through a reference. -/
  followed : Nat

/-- Filling in a configuration. -/
abbrev Fill (α : Type) := StateT Filling (Except Error) α

/-- Whether references make too much of a document: nearly all values of a small one may be reached
through references, a tenth of a large one, and in between the share falls steadily. -/
def isExcessive (visits followed : Nat) : Bool :=
  let low := 400000
  let high := 4000000
  100 < followed && 1000 < visits &&
    if visits ≤ low then 99 * visits < 100 * followed
    else if high ≤ visits then visits < 10 * followed
    else
      let range := high - low
      visits * (99 * range - 89 * (visits - low)) < 100 * range * followed

namespace Fill

/-- Counts a value that is looked at. -/
def visit : Fill Unit := do
  modify fun filling => { filling with
    visits := filling.visits + 1
    followed := if filling.active = [] then filling.followed else filling.followed + 1 }
  let filling ← get
  if isExcessive filling.visits filling.followed then
    throw (.malformed none "document contains excessive aliasing")

/-- Looks at a value, or at the one that a reference stands for. -/
def withValue {α : Type} (node : Node) (use : Node → Fill α) : Fill α := do
  visit
  match node with
  | .reference _ place name target =>
    let filling ← get
    if filling.active.contains place then
      throw (.malformed none ("anchor '" ++ name ++ "' value contains itself"))
    set { filling with active := place :: filling.active }
    visit
    let result ← use (filling.named.getD target default)
    modify fun filling => { filling with active := filling.active.tail }
    return result
  | _ => use node

/-- Notes something that does not fit. -/
def note (line : Nat) (problem : Bytes) : Fill Unit :=
  modify fun filling =>
    { filling with problems :=
        filling.problems ++ [utf8 ("line " ++ decimal line ++ ": ") ++ problem] }

/-- A scalar's text in a message; a long one is cut short. -/
def excerpt (text : String) : Bytes :=
  let bytes := utf8 text
  if bytes.length > 10 then bytes.take 7 ++ utf8 "..." else bytes

/-- Notes a scalar of the wrong kind. -/
def noteScalar (line : Nat) (tag text typeName : String) : Fill Unit :=
  note line (utf8 ("cannot unmarshal " ++ tag ++ " `") ++ excerpt text ++
    utf8 ("` into " ++ typeName))

/-- Notes a collection in the wrong place. -/
def noteCollection (line : Nat) (tag typeName : String) : Fill Unit :=
  note line (utf8 ("cannot unmarshal " ++ tag ++ " into " ++ typeName))

/-- The tag that a scalar shows in messages. -/
def shownTag (tag? : Option String) (meaning : Scalar) : String := tag?.getD meaning.tag

/-- How a key is written, and what it is. -/
inductive KeyForm where
  /-- A scalar. -/
  | scalar (text : String)
  /-- Another name for a value. -/
  | reference (name : String)
  /-- A sequence. -/
  | sequence
  /-- A mapping. -/
  | mapping
  deriving DecidableEq

/-- The form of a key. -/
def keyForm : Node → KeyForm
  | .scalar _ _ _ text => .scalar text
  | .reference _ _ name _ => .reference name
  | .sequence _ _ _ => .sequence
  | .mapping _ _ _ => .mapping

/-- The text of a form in messages. -/
def KeyForm.text : KeyForm → String
  | scalar text => text
  | reference name => name
  | _ => ""

/-- Notes the keys that are defined twice, and tells whether there are any. -/
def noteRepeated : List Node → Fill Bool
  | [] => return false
  | key :: rest => do
    let again := rest.filter fun other => keyForm other = keyForm key
    for other in again do
      note other.line (utf8 "mapping key " ++ quoted (utf8 (keyForm other).text) ++
        utf8 (" already defined at line " ++ decimal key.line))
    let more ← noteRepeated rest
    return !again.isEmpty || more

/-- The name that a key gives, if it gives one. -/
def keyName (key : Node) : Fill (Option Bytes) :=
  withValue key fun
    | .scalar _ tag? plain text => do
      match ← Scalar.ofNode tag? plain text with
      | .null => return none
      | meaning => return some (meaning.toText text)
    | .sequence line _ _ => do
      noteCollection line "!!seq" "string"
      return none
    | .mapping line _ members => do
      unless ← noteRepeated (members.map Prod.fst) do noteCollection line "!!map" "string"
      return none
    | .reference _ _ _ _ => return none

/-- Changes the configuration. -/
def change (update : Config → Config) : Fill Unit :=
  modify fun filling => { filling with config := update filling.config }

/-- Gives a setting its value; nothing leaves it as it is. -/
def assign (setting : Setting) (value : Node) : Fill Unit :=
  withValue value fun
    | .scalar line tag? plain text => do
      let meaning ← Scalar.ofNode tag? plain text
      let mismatch := noteScalar line (shownTag tag? meaning) text setting.typeName
      match meaning, setting with
      | .null, _ => return ()
      | _, .text set => change (set (meaning.toText text))
      | _, .integer set =>
        match meaning.toInteger? with
        | some number => change (set number)
        | none => mismatch
      | _, .truth set =>
        match meaning.toTruth? with
        | some answer => change (set answer)
        | none => mismatch
    | .sequence line _ _ => noteCollection line "!!seq" setting.typeName
    | .mapping line _ members => do
      unless ← noteRepeated (members.map Prod.fst) do
        noteCollection line "!!map" setting.typeName
    | .reference _ _ _ _ => return ()

/-- Whether a key asks for the entries of other mappings. -/
def isMerge : Node → Bool
  | .scalar _ tag? plain text =>
    text = "<<" && (tag? = some "!!merge" || (tag? = none && plain))
  | _ => false

/-- The value of the last key that asks for the entries of other mappings. -/
def mergeSource? (members : List (Node × Node)) : Option Node :=
  (members.reverse.find? fun (key, _) => isMerge key).map Prod.snd

/-- The kinds of collections that a value of no fixed type can be. -/
inductive CollectionKind where
  /-- A sequence. -/
  | sequence
  /-- A mapping whose keys are texts. -/
  | textMapping
  /-- A mapping with any keys. -/
  | mapping
  deriving DecidableEq

/-- The name of the type of such a collection in messages. -/
def CollectionKind.typeName : CollectionKind → String
  | sequence => "[]interface \x7b\x7d"
  | textMapping => "map[string]interface \x7b\x7d"
  | mapping => "map[interface \x7b\x7d]interface \x7b\x7d"

/-- A value of no fixed type, as far as it matters for a key. -/
inductive FreeValue where
  /-- A scalar. -/
  | scalar (meaning : Scalar)
  /-- A collection. -/
  | collection (kind : CollectionKind)

/-- A key that can be compared with others. -/
def FreeValue.comparable : FreeValue → Fill Scalar
  | scalar meaning => return meaning
  | collection kind => throw (.incomparable kind.typeName)

/-- The keys that are taken; none where no entries of other mappings are being added. -/
abbrev Taken := Option (List Scalar)

/-- Complains about something other than mappings to take entries from. -/
def wantMapping {α : Type} : Fill α :=
  throw (.malformed none "map merge requires map or sequence of maps as the value")

/-- Takes entries from a mapping or a reference to one. -/
def fromMapping (add : Taken → List (Node × Node) → Fill Taken) (taken : Taken) (source : Node) :
    Fill Taken :=
  withValue source fun
    | .mapping _ _ members => add taken members
    | _ => wantMapping

/-- Takes entries from mappings, of which the first has precedence. -/
def fromMappings (add : Taken → List (Node × Node) → Fill Taken) (taken : Taken) :
    List Node → Fill Taken
  | [] => return taken
  | source :: rest => do fromMappings add (← fromMapping add taken source) rest

/-- Takes entries from what stands behind a key that asks for them. -/
def fromSource (add : Taken → List (Node × Node) → Fill Taken) (taken : Taken) :
    Node → Fill Taken
  | .sequence _ _ sources => fromMappings add taken sources
  | source => fromMapping add taken source

/-- The tag of a value, which its form tells if it has none of its own. -/
def ownTag : Node → String
  | .scalar _ tag? plain text =>
    tag?.getD (if !plain then "!!str" else if text = "<<" then "!!merge"
      else (Scalar.ofPlain true text).tag)
  | .sequence _ tag? _ => tag?.getD "!!seq"
  | .mapping _ tag? _ => tag?.getD "!!map"
  | .reference _ _ _ _ => ""

/-- Whether all keys are texts. -/
def hasTextKeys (named : Array Node) (members : List (Node × Node)) : Bool :=
  members.all fun (key, _) =>
    let value := match key with
      | .reference _ _ _ target => named.getD target default
      | _ => key
    ["!!str", "!!merge"].contains (ownTag value)

/-- Complains about values inside values inside values. -/
def tooDeep {α : Type} : Fill α := throw (.malformed none "exceeded max depth")

mutual

/-- Makes a value of no fixed type; one with keys that are defined twice is none. -/
def free : Nat → Node → Fill (Option FreeValue)
  | 0, _ => tooDeep
  | fuel + 1, node => withValue node fun
    | .scalar _ tag? plain text => do
      return some (.scalar (← Scalar.ofNode tag? plain text))
    | .sequence _ _ items => do
      for item in items do
        let _ ← free fuel item
      return some (.collection .sequence)
    | .mapping _ _ members => do
      if ← noteRepeated (members.map Prod.fst) then return none
      let kind := if hasTextKeys (← get).named members then CollectionKind.textMapping else .mapping
      let _ ← freeMapping fuel kind none members
      return some (.collection kind)
    | .reference _ _ _ _ => return none

/-- The keys of a mapping as values that can be compared. -/
def comparableKeys : Nat → List (Node × Node) → Fill (List Scalar)
  | 0, _ => tooDeep
  | _ + 1, [] => return []
  | fuel + 1, (key, _) :: rest => do
    match ← free fuel key with
    | none => comparableKeys fuel rest
    | some value => return (← value.comparable) :: (← comparableKeys fuel rest)

/-- Makes the entries of a mapping of no fixed type. -/
def freeEntries : Nat → CollectionKind → Taken → List (Node × Node) → Fill Taken
  | 0, _, _, _ => tooDeep
  | _ + 1, _, taken, [] => return taken
  | fuel + 1, kind, taken, (key, value) :: rest => do
    if isMerge key then return ← freeEntries fuel kind taken rest
    let found ←
      if kind = .textMapping then do
        pure ((← keyName key).map fun name => FreeValue.scalar (.text name))
      else free fuel key
    match found, taken with
    | none, _ => freeEntries fuel kind taken rest
    | some found, none =>
      if let .collection _ := found then throw (.malformed none "invalid map key")
      let _ ← free fuel value
      freeEntries fuel kind none rest
    | some found, some known =>
      let name ← found.comparable
      if known.contains name then freeEntries fuel kind taken rest
      else
        let _ ← free fuel value
        freeEntries fuel kind (some (name :: known)) rest

/-- Makes a mapping of no fixed type, and adds the entries of the mappings that it asks for. -/
def freeMapping : Nat → CollectionKind → Taken → List (Node × Node) → Fill Taken
  | 0, _, _, _ => tooDeep
  | fuel + 1, kind, taken, members => do
    let after ← freeEntries fuel kind taken members
    match mergeSource? members with
    | none => return after
    | some source =>
      let known ← match after with
        | some known => pure known
        | none => comparableKeys fuel members
      let merged ← fromSource (fun taken others => do
        if ← noteRepeated (others.map Prod.fst) then return taken
        freeMapping fuel kind taken others) (some known) source
      return after.bind fun _ => merged

end

/-- Gives the settings their values by a list of entries. The names that are taken are passed over
without a word; only the entries themselves, and no other mapping, may not name a setting twice. -/
def entries (taken : Taken) : List (Node × Node) → List Bytes → Fill Taken
  | [], _ => return taken
  | (key, value) :: rest, done => do
    if isMerge key then return ← entries taken rest done
    let some name ← keyName key | entries taken rest done
    if (taken.getD []).contains (.text name) then return ← entries taken rest done
    let taken := taken.map (.text name :: ·)
    match (← get).settings.find? fun (known, _) => utf8 known = name with
    | none =>
      note key.line (utf8 "field " ++ name ++ utf8 (" not found in type " ++ Config.typeName))
      entries taken rest done
    | some (_, setting) =>
      if done.contains name then
        note key.line (utf8 "field " ++ name ++
          utf8 (" already set in type " ++ Config.typeName))
        entries taken rest done
      else
        assign setting value
        entries taken rest (name :: done)

/-- Gives the settings their values by a mapping, and then by the mappings that it takes entries
from. -/
def mapping : Nat → Taken → List (Node × Node) → Fill Taken
  | 0, _, _ => tooDeep
  | fuel + 1, taken, members => do
    if ← noteRepeated (members.map Prod.fst) then return taken
    let after ← entries taken members []
    match mergeSource? members with
    | none => return after
    | some source =>
      let known ← match after with
        | some known => pure known
        | none => comparableKeys fuel members
      let merged ← fromSource (mapping fuel) (some known) source
      return after.bind fun _ => merged

/-- Fills in a configuration by the value of a document. -/
def document (fuel : Nat) (root : Node) : Fill Unit := do
  visit
  withValue root fun
    | .scalar line tag? plain text => do
      match ← Scalar.ofNode tag? plain text with
      | .null => return ()
      | meaning => noteScalar line (shownTag tag? meaning) text Config.typeName
    | .sequence line _ _ => noteCollection line "!!seq" Config.typeName
    | .mapping _ _ members => do
      let _ ← mapping fuel none members
    | .reference _ _ _ _ => return ()

end Fill

/-- Fills in a configuration by a YAML text; without a document there is nothing to fill in. -/
def fill (settings : List (String × Setting)) (config : Config) (text : Bytes) :
    Except Error (Option Config) := do
  match ← Document.ofSource (Source.ofBytes text) with
  | none => return none
  | some document =>
    -- No way down is longer than one through the whole text for each reference.
    let fuel := (text.length + 2) * (text.length + 2)
    let start : Filling := ⟨settings, config, [], document.named, [], 0, 0⟩
    let (_, filling) ← (Fill.document fuel document.root).run start
    if filling.problems = [] then return some filling.config
    else throw (.mismatched filling.problems)

/-- Decodes YAML. -/
def decode (settings : List (String × Setting)) (config : Config) (text : Bytes) :
    Config × Option DecodeError :=
  match fill settings config text with
  | .ok (some filled) => (filled, none)
  | .ok none => (config, some .ended)
  | .error error =>
    (config, some (if error.isFatal then .fatal error.message else .failed error.message))

end TapeMachine.Yaml
