/-!
# Tables of TOML

A document fills tables line by line. How a table came about decides whether later lines may add to
it: a table is never defined twice, and dotted keys do not reach into tables that have headers.

- `Toml.Value`: texts, scalars, lists and tables. Of scalars only their presence is kept.
- `Toml.Origin`: how a table came about.
- `Toml.Entries.descend`: walks along a path and makes the tables that are missing.
- `Toml.Entries.insert`: the rule for `path.key = value`, on a line or in braces.
- `Toml.Draft`: a document with its current table; `Draft.openTable`, `Draft.insert` and
  `Draft.close` are the rules for headers, lines and the end of a document.
-/

namespace DatePartition

namespace Toml

/-- How a table came about. -/
inductive Origin where
  /-- In braces. It is complete. -/
  | inline
  /-- By its own header, or as an element of a list of tables. -/
  | header
  /-- By the header of a table inside it. -/
  | implied
  /-- By a dotted key. -/
  | dotted
deriving DecidableEq, Repr

/-- A value of a document. -/
inductive Value where
  | text (value : String)
  | scalar
  | list (items : List Value)
  /-- A list of tables with headers, of which there is at least one once it is filled. -/
  | tables (elements : List (List (String × Value)))
  | table (origin : Origin) (entries : List (String × Value))
deriving Repr, Inhabited

/-- The entries of a table, in the order in which they were made. -/
abbrev Entries := List (String × Value)

namespace Entries

/-- Gives an existing key another value in its place, or adds the key at the end. -/
def put (key : String) (value : Value) : Entries → Entries
  | [] => [(key, value)]
  | (k, v) :: es => if k = key then (k, value) :: es else (k, v) :: put key value es

/-- The entries without a key. -/
def remove (key : String) (es : Entries) : Entries := es.filter fun e => e.1 ≠ key

/-- Walks along a path of tables and changes the last one. Missing tables are made. Dotted keys may
only pass through tables without headers, and no path passes through a table in braces. -/
def descend {α : Type} (dotted : Bool) (change : Origin → Entries → Option (α × Entries)) :
    List String → Origin → Entries → Option (α × Entries)
  | [], origin, es => change origin es
  | key :: path, _, es =>
    match es.lookup key with
    | none => do
      let origin := if dotted then Origin.dotted else .implied
      let (a, inner) ← descend dotted change path origin []
      return (a, es.put key (.table origin inner))
    | some (.table origin inner) =>
      if origin = .inline ∨ dotted ∧ origin = .header then none
      else do
        let (a, inner) ← descend dotted change path origin inner
        return (a, es.put key (.table origin inner))
    | some (.tables elements) =>
      match elements.getLast? with
      | none => none
      | some inner => do
        let (a, inner) ← descend dotted change path .header inner
        return (a, es.put key (.tables (elements.dropLast ++ [inner])))
    | some _ => none

/-- Adds a new key. Below a dotted path the table must have been made by dotted keys. -/
def addNew (path : List String) (key : String) (value : Value) (origin : Origin) (es : Entries) :
    Option (Unit × Entries) :=
  if (origin = .dotted ∧ path = []) ∨ (origin ≠ .dotted ∧ path ≠ []) then none
  else if (es.lookup key).isSome then none
  else some ((), es ++ [(key, value)])

/-- The entries after `path.key = value`, on a line or in braces. -/
def insert (path : List String) (key : String) (value : Value) (es : Entries) : Option Entries :=
  (descend true (addNew path key value) path .header es).map Prod.snd

end Entries

/-- A document while it is read: the tables that are complete, and the current one. -/
structure Draft where
  root : Entries := []
  /-- The path of the current table; at the start of a document there is none. -/
  path : List String := []
  /-- The current table is an element of a list of tables. -/
  isElement : Bool := false
  current : Entries := []

namespace Draft

/-- Puts the current table in its place as an element of a list. -/
def placeElement (key : String) (current : Entries) (es : Entries) : Option (Unit × Entries) :=
  match es.lookup key with
  | none => some ((), es.put key (.tables [current]))
  | some (.tables elements) => some ((), es.put key (.tables (elements ++ [current])))
  | some _ => none

/-- Puts the current table in its place. -/
def placeTable (key : String) (current : Entries) (es : Entries) : Option (Unit × Entries) :=
  match es.lookup key with
  | none => some ((), es.put key (.table .header current))
  | some (.table .implied _) => some ((), es.put key (.table .header current))
  | some (.table .dotted _) => some ((), es.put key (.table .header current))
  | some _ => none

/-- The complete tables with the current one in its place. -/
def close (d : Draft) : Option Entries :=
  match d.path.getLast? with
  | none => some d.current
  | some key =>
    let place := if d.isElement then placeElement else placeTable
    (Entries.descend false (fun _ => place key d.current) d.path.dropLast .header d.root).map
      Prod.snd

/-- Takes a table out to be filled. It may exist already if only the headers of tables inside it
came before. -/
def takeOut (key : String) (es : Entries) : Option (Entries × Entries) :=
  match es.lookup key with
  | none => some ([], es)
  | some (.table .implied inner) => some (inner, es.remove key)
  | some _ => none

/-- Makes room for an element of a list of tables. -/
def makeRoom (key : String) (es : Entries) : Option (Entries × Entries) :=
  match es.lookup key with
  | none => some ([], es.put key (.tables []))
  | some (.tables _) => some ([], es)
  | some _ => none

/-- The draft after the header of a table, or of an element of a list of tables. -/
def openTable (isElement : Bool) (path : List String) (key : String) (d : Draft) :
    Option Draft := do
  let root ← d.close
  let start := if isElement then makeRoom else takeOut
  let (current, root) ← Entries.descend false (fun _ => start key) path .header root
  return ⟨root, path ++ [key], isElement, current⟩

/-- The draft after a line `path.key = value`. -/
def insert (path : List String) (key : String) (value : Value) (d : Draft) : Option Draft := do
  return { d with current := ← d.current.insert path key value }

end Draft

end Toml

end DatePartition
