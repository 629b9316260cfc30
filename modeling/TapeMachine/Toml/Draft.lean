import TapeMachine.Toml.Value

/-! A TOML document while it is being read: tables can still grow, but keys cannot change. -/

namespace TapeMachine.Toml

/-- A document while it is being read. -/
structure Draft where
  /-- What has been read so far. -/
  entries : Entries
  /-- The keys in the order in which they were written, the latest first. -/
  keys : List Key
  /-- The tables that exist only because a longer key needs them. -/
  implied : List Key
  /-- The keys of arrays. -/
  arrays : List Key

namespace Draft

/-- Nothing. -/
def empty : Draft := ⟨[], [], [], []⟩

/-- The value of a key in a table. -/
def get? (entries : Entries) (name : String) : Option Value :=
  (entries.find? fun (known, _) => known = name).map Prod.snd

/-- Gives a key in a table a value. -/
def put (entries : Entries) (name : String) (value : Value) : Entries :=
  if (get? entries name).isSome then
    entries.map fun (known, old) => (known, if known = name then value else old)
  else entries ++ [(name, value)]

/-- Changes the last of some tables. -/
def changeLast (change : Entries → Except String Entries) (items : List Entries) :
    Except String (List Entries) :=
  return items.dropLast ++ [← change (items.getLastD [])]

/-- Changes the table at a path. A table that is missing on the way is made, and an array of tables
stands for its last one. -/
def changeAt (change : Entries → Except String Entries) : Key → Entries → Except String Entries
  | [], entries => change entries
  | name :: rest, entries => do
    match (get? entries name).getD (.table []) with
    | .table inner => return put entries name (.table (← changeAt change rest inner))
    | .tables items =>
      return put entries name (.tables (← changeLast (changeAt change rest) items))
    | _ => throw ("Key '" ++ keyPartText name ++ "' has already been defined.")

/-- The tables on the way to a path that do not exist yet. -/
def missing (above : Key) : Key → Entries → List Key
  | [], _ => []
  | name :: rest, entries =>
    let here := above ++ [name]
    match get? entries name with
    | some (.table inner) => missing here rest inner
    | some (.tables items) => missing here rest (items.getLastD [])
    | some _ => []
    | none => here :: missing here rest []

/-- Gives the key at a path a value. A key that has one keeps it, and this is allowed only if it is
a table that was implied so far; an array takes the place of such a table. -/
def define (draft : Draft) (path : Key) (name : String) (value : Value) :
    Except String Draft := do
  let key := path ++ [name]
  let isImplied := draft.implied.contains key
  let entries ← changeAt (fun entries =>
    if (get? entries name).isNone then .ok (put entries name value)
    else if !isImplied then .error ("Key '" ++ keyText key ++ "' has already been defined.")
    else if draft.arrays.contains key then .ok (put entries name value)
    else .ok entries) path draft.entries
  let existed := missing [] key draft.entries = []
  return { draft with
    entries
    implied := if existed then draft.implied.filter (· ≠ key) else draft.implied }

/-- Notes that the table of a key is there only for what it holds. -/
def imply (draft : Draft) (key : Key) : Draft := { draft with implied := key :: draft.implied }

/-- Opens the table of a header; the tables above it that are missing are implied. -/
def openTable (draft : Draft) (path : Key) (name : String) : Except String Draft :=
  { draft with implied := missing [] path draft.entries ++ draft.implied }.define path name
    (.table [])

/-- Opens a further table of an array of tables. -/
def openArrayTable (draft : Draft) (path : Key) (name : String) : Except String Draft := do
  let entries ← changeAt (fun entries =>
    match get? entries name with
    | none => .ok (put entries name (.tables [[]]))
    | some (.tables items) => .ok (put entries name (.tables (items ++ [[]])))
    | some _ => .error ("Key '" ++ keyText (path ++ [name]) ++
        "' was already created and cannot be used as an array.")) path draft.entries
  return { draft with entries, implied := missing [] path draft.entries ++ draft.implied }

/-- Opens the tables between a path and the last part of a dotted key below it. -/
def openImplied (draft : Draft) (path : Key) : Key → Except String Draft
  | [] => .ok draft
  | name :: rest => do
    let opened ← (draft.imply (path ++ [name])).openTable path name
    openImplied opened (path ++ [name]) rest

/-- Notes that a key was written. -/
def note (draft : Draft) (key : Key) : Draft := { draft with keys := key :: draft.keys }

/-- Notes that a key is that of an array. -/
def noteArray (draft : Draft) (key : Key) : Draft :=
  { draft with arrays := key :: draft.arrays }

/-- Whether a value is an array. -/
def isArray : Value → Bool
  | .array => true
  | _ => false

/-- Gives the key at a path a value, and remembers whether it is an array. -/
def assign (draft : Draft) (path : Key) (name : String) (value : Value) :
    Except String Draft := do
  let defined ← draft.define path name value
  if isArray value then return defined
  else return { defined with arrays := defined.arrays.filter (· ≠ path ++ [name]) }

end Draft

end TapeMachine.Toml
