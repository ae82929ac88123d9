import DatePartition.Json.Codec
import DatePartition.Toml.Reader

/-!
# Settings from a file

A configuration file is a TOML document with the layout and a table of column names, both of which
may be left out. Anything else in it makes the file invalid.

- `Columns.ofToml?`, `Layout.ofToml?`, `RenderOptions.ofToml?`: the settings in a document. What is
  left out keeps its default.
- `RenderOptions.parseToml?`: the same from the text of a file.
-/

namespace DatePartition

namespace Columns

/-- Column names with one more field known. -/
def Draft.put? (key : String) (value : Toml.Value) (s : Draft) : Option Draft :=
  match key, value with
  | "year", .text name => some { s with year := some name }
  | "month", .text name => some { s with month := some name }
  | "day", .text name => some { s with day := some name }
  | _, _ => none

/-- Fills the column names from the items of a list. Further items are not looked at. -/
def Draft.putItems? (s : Draft) : List String → List Toml.Value → Option Draft
  | key :: keys, value :: values => do (← s.put? key value).putItems? keys values
  | _, _ => some s

/-- The column names in a table, or in a list in the order year, month, day. -/
def ofToml? : Toml.Value → Option Columns
  | .table _ entries => do
    return (← entries.foldlM (fun s e => s.put? e.1 e.2) ({} : Draft)).overlay {}
  | .list values => do return (← ({} : Draft).putItems? ["year", "month", "day"] values).overlay {}
  | _ => none

end Columns

/-- A value without parts: the only one that a name of a layout may have as a key. -/
def Toml.Value.isEmpty : Toml.Value → Bool
  | .table _ [] => true
  | .list [] => true
  | _ => false

namespace Layout

/-- The layout with a name that has a value as a key. -/
def ofEntry? (entry : String × Toml.Value) : Option Layout :=
  if entry.2.isEmpty then names.lookup entry.1 else none

/-- The layout with a name, alone or as the only key of a table. -/
def ofToml? : Toml.Value → Option Layout
  | .text name => names.lookup name
  | .table _ [entry] => ofEntry? entry
  | _ => none

end Layout

namespace RenderOptions

/-- Settings with one more field known. -/
def Draft.put? (key : String) (value : Toml.Value) (s : Draft) : Option Draft :=
  match key with
  | "columns" => do return { s with columns := some (← Columns.ofToml? value) }
  | "layout" => do return { s with layout := some (← Layout.ofToml? value) }
  | _ => none

/-- The settings in a document. -/
def ofToml? (entries : Toml.Entries) : Option RenderOptions := do
  return (← entries.foldlM (fun s e => s.put? e.1 e.2) ({} : Draft)).overlay {}

/-- The settings in the text of a file. -/
def parseToml? (s : String) : Option RenderOptions := do ofToml? (← Toml.parse? s)

end RenderOptions

end DatePartition
