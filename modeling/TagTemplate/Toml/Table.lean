import TagTemplate.Toml.Basic

/-!
# Tables being defined

Tables are defined by headers, by dotted keys and by the paths of other tables. A table may be
defined once: a header or a dotted key may fill in a table that only a path has made so far, and
further dotted keys may go on with a table that a dotted key has filled in.
-/

namespace TagTemplate.Toml

/-- What made a table. -/
inductive Origin where
  /-- Only the path to another table. -/
  | path
  | header
  /-- A dotted key with a value in it. -/
  | dotted
  deriving Repr, DecidableEq

/-- What stands under a name while a document is read. -/
inductive Item where
  | value (v : Toml)
  | table (origin : Origin) (entries : List (String × Item))
  /-- Tables that share a header, the last one first. -/
  | tables (elements : List (List (String × Item)))

/-- Named items. -/
abbrev Entries := List (String × Item)

/-- Replaces the item under a name. -/
def replaceItem (name : String) (item : Item) (entries : Entries) : Entries :=
  entries.map fun entry => if entry.1 = name then (name, item) else entry

/-- Sets the value under a dotted key. -/
def insertDotted : List String → Toml → Entries → Option Entries
  | [], _, _ => none
  | [name], v, entries =>
    match entries.lookup name with
    | none => some (entries ++ [(name, .value v)])
    | some _ => none
  | name :: rest, v, entries =>
    match entries.lookup name with
    | none => (insertDotted rest v []).map fun sub => entries ++ [(name, .table .dotted sub)]
    | some (.table .dotted sub) =>
      (insertDotted rest v sub).map fun sub => replaceItem name (.table .dotted sub) entries
    | some (.table .path sub) =>
      let origin := if rest.length = 1 then .dotted else .path
      (insertDotted rest v sub).map fun sub => replaceItem name (.table origin sub) entries
    | some (.tables (sub :: others)) =>
      if rest.length = 1 then none
      else
        (insertDotted rest v sub).map fun sub => replaceItem name (.tables (sub :: others)) entries
    | some _ => none

/-- Sets values under dotted keys, in order. -/
def insertAllDotted (entries : Entries) (pairs : List (List String × Toml)) : Option Entries :=
  pairs.foldlM (fun entries pair => insertDotted pair.1 pair.2 entries) entries

/-- Changes the table at the end of a path; tables that are missing are made. -/
def updateAt : List String → (Entries → Option Entries) → Entries → Option Entries
  | [], f, entries => f entries
  | name :: rest, f, entries =>
    match entries.lookup name with
    | none => (updateAt rest f []).map fun sub => entries ++ [(name, .table .path sub)]
    | some (.table origin sub) =>
      (updateAt rest f sub).map fun sub => replaceItem name (.table origin sub) entries
    | some (.tables (sub :: others)) =>
      (updateAt rest f sub).map fun sub => replaceItem name (.tables (sub :: others)) entries
    | some _ => none

/-- Defines the table of a header. -/
def defineTable (name : String) (pairs : List (List String × Toml)) (entries : Entries) :
    Option Entries :=
  match entries.lookup name with
  | none => (insertAllDotted [] pairs).map fun sub => entries ++ [(name, .table .header sub)]
  | some (.table .path sub) =>
    (insertAllDotted sub pairs).map fun sub => replaceItem name (.table .header sub) entries
  | some _ => none

/-- Adds a table to those of its header. -/
def defineElement (name : String) (pairs : List (List String × Toml)) (entries : Entries) :
    Option Entries :=
  (insertAllDotted [] pairs).bind fun sub =>
    match entries.lookup name with
    | none => some (entries ++ [(name, .tables [sub])])
    | some (.tables others) => some (replaceItem name (.tables (sub :: others)) entries)
    | some _ => none

mutual

/-- The value of an item. -/
def Item.toml : Item → Toml
  | .value v => v
  | .table _ entries => .table (tomlEntries entries)
  | .tables elements => .array (tomlElements elements).reverse

/-- The values of items. -/
def tomlEntries : List (String × Item) → List (String × Toml)
  | [] => []
  | (name, item) :: entries => (name, item.toml) :: tomlEntries entries

/-- The values of tables. -/
def tomlElements : List (List (String × Item)) → List Toml
  | [] => []
  | entries :: elements => .table (tomlEntries entries) :: tomlElements elements

end

end TagTemplate.Toml
