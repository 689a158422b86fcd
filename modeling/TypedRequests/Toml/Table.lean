import TypedRequests.Toml.Basic

/-!
# Tables under construction

The lines of a document add to tables that earlier lines have begun. How a table began decides
which lines may still add to it.

* `Item` : what a key stands for while the document is read.
* `Table.define` : a key gets a value.
* `Table.openTable`, `Table.openArray` : headers.
* `Item.value` : the finished value.
-/

set_option autoImplicit false

namespace TypedRequests.TomlReader

/-- How a table began. -/
inductive Origin where
  /-- With its own header, or as the whole document. -/
  | header
  /-- On the way to the header of another table. -/
  | passage
  /-- On the way of a key with points. -/
  | dotted
deriving DecidableEq, Repr

/-- What a key stands for while the document is read. -/
inductive Item where
  /-- A value to which nothing can be added. -/
  | value (v : Toml)
  | table (origin : Origin) (entries : List (String × Item))
  /-- An array of tables, of which the last one is still open. -/
  | tables (earlier : List (List (String × Item))) (last : List (String × Item))
deriving Repr

/-- A table while the document is read. -/
structure Table where
  origin : Origin
  entries : List (String × Item)
deriving Repr

namespace Table

/-- The table of a document without lines. -/
def empty : Table :=
  ⟨.header, []⟩

/-- A change of the table at the end of a path. Tables that are missing begin on the way. A key
with points does not enter a table that has a header. -/
def change (dotted : Bool) (f : Table → Option Table) : List String → Table → Option Table
  | [], t => f t
  | k :: ks, t =>
    let put (i : Item) : Table := ⟨t.origin, Entries.put k i t.entries⟩
    match Entries.find? k t.entries with
    | none =>
      let origin := if dotted then Origin.dotted else .passage
      (change dotted f ks ⟨origin, []⟩).map fun u => put (.table u.origin u.entries)
    | some (.table origin entries) =>
      if dotted && origin == .header then none
      else (change dotted f ks ⟨origin, entries⟩).map fun u => put (.table u.origin u.entries)
    | some (.tables earlier last) =>
      (change dotted f ks ⟨.header, last⟩).map fun u => put (.tables earlier u.entries)
    | some (.value _) => none

/-- A key, which may have points, gets a value. It has none so far, and a key with points adds only
to tables that began with such a key. -/
def define (path : List String) (v : Toml) : Table → Option Table :=
  match path.getLast? with
  | none => fun _ => none
  | some k =>
    let add (t : Table) : Option Table :=
      if (t.origin == .dotted) == path.dropLast.isEmpty then none
      else
        match Entries.find? k t.entries with
        | some _ => none
        | none => some { t with entries := Entries.put k (.value v) t.entries }
    change true add path.dropLast

/-- The header of a table, which has begun at most on the way to another header. -/
def openTable (path : List String) : Table → Option Table :=
  match path.getLast? with
  | none => fun _ => none
  | some k =>
    let add (t : Table) : Option Table :=
      match Entries.find? k t.entries with
      | none => some { t with entries := Entries.put k (.table .header []) t.entries }
      | some (.table .passage entries) =>
        some { t with entries := Entries.put k (.table .header entries) t.entries }
      | some _ => none
    change false add path.dropLast

/-- The header of one more table of an array. -/
def openArray (path : List String) : Table → Option Table :=
  match path.getLast? with
  | none => fun _ => none
  | some k =>
    let add (t : Table) : Option Table :=
      match Entries.find? k t.entries with
      | none => some { t with entries := Entries.put k (.tables [] []) t.entries }
      | some (.tables earlier last) =>
        some { t with entries := Entries.put k (.tables (earlier ++ [last]) []) t.entries }
      | some _ => none
    change false add path.dropLast

end Table

/-! ## Finished values -/

mutual

/-- The finished value of an item. -/
def Item.toValue : Item → Toml
  | .value v => v
  | .table _ entries => .table (Item.toEntries entries)
  | .tables earlier last => .array (Item.toTables earlier ++ [.table (Item.toEntries last)])

/-- The finished entries of a table. -/
def Item.toEntries : List (String × Item) → List (String × Toml)
  | [] => []
  | (k, i) :: es => (k, Item.toValue i) :: Item.toEntries es

/-- The finished tables of an array. -/
def Item.toTables : List (List (String × Item)) → List Toml
  | [] => []
  | es :: ts => .table (Item.toEntries es) :: Item.toTables ts

end

/-- The finished value of a table. -/
def Table.toValue (t : Table) : Toml :=
  .table (Item.toEntries t.entries)

end TypedRequests.TomlReader
