import Lobby.Toml.Item

/-!
# Building tables

A document is put together from keys with their values, and from headers that begin tables.
Nothing may be defined twice:

* a dotted key makes the tables on its way, or goes through tables that dotted keys or deeper
  headers made, but ends in a table that dotted keys made;
* a header makes the tables on its way, or goes through any tables and through the last of several
  tables; it may begin a table that only stood on the way of another header.
-/

namespace Lobby.Toml

/-- A table that is being built. -/
structure Table where
  origin : Origin
  entries : Entries

namespace Table

/-- Can a path go on through a table?  `made` is how the path makes its tables. -/
def isOpen (made : Origin) : Origin → Bool
  | .header => made != .dotted
  | .path => true
  | .dotted => true
  | .inline => false

/-- Changes the table a path leads to, and makes the tables that are missing. -/
def within (made : Origin) (f : Table → Option Table) : List String → Table → Option Table
  | [], t => f t
  | key :: path, t =>
    match t.entries.get? key with
    | none => do
      let child ← within made f path ⟨made, []⟩
      return { t with entries := t.entries.put key (.table child.origin child.entries) }
    | some (.table origin entries) =>
      if isOpen made origin then do
        let child ← within made f path ⟨origin, entries⟩
        return { t with entries := t.entries.put key (.table child.origin child.entries) }
      else none
    | some (.tables tables) => do
      let child ← within made f path ⟨.header, tables.getLastD []⟩
      return { t with entries := t.entries.put key (.tables (tables.dropLast ++ [child.entries])) }
    | some _ => none

/-- Adds an item under a new key. -/
def add (key : String) (item : Item) (t : Table) : Option Table :=
  match t.entries.get? key with
  | none => some { t with entries := t.entries.put key item }
  | some _ => none

/-- A key with its value.  A dotted key has a path. -/
structure Line where
  path : List String
  key : String
  item : Item

/-- Adds a key with its value. -/
def addLine (t : Table) (line : Line) : Option Table :=
  within .dotted
    (fun t =>
      if (t.origin == .dotted) == line.path.isEmpty then none else t.add line.key line.item)
    line.path t

def addLines (t : Table) (lines : List Line) : Option Table := lines.foldlM addLine t

/-- The keys below a header.  A header in double brackets begins one more of several tables. -/
structure Section where
  path : List String
  key : String
  several : Bool
  lines : List Line

/-- Adds the table of a header. -/
def addSection (t : Table) (s : Section) : Option Table :=
  within .path
    (fun parent =>
      match parent.entries.get? s.key, s.several with
      | none, false => do
        let child ← addLines ⟨.header, []⟩ s.lines
        parent.add s.key (.table child.origin child.entries)
      | some (.table .path entries), false => do
        let child ← addLines ⟨.header, entries⟩ s.lines
        return { parent with
          entries := parent.entries.put s.key (.table child.origin child.entries) }
      | none, true => do
        let child ← addLines ⟨.header, []⟩ s.lines
        parent.add s.key (.tables [child.entries])
      | some (.tables tables), true => do
        let child ← addLines ⟨.header, []⟩ s.lines
        return { parent with
          entries := parent.entries.put s.key (.tables (tables ++ [child.entries])) }
      | _, _ => none)
    s.path t

/-- The table of a document: the keys in front of the first header, and then the headers. -/
def ofDocument (lines : List Line) (sections : List Section) : Option Entries := do
  let root ← addLines ⟨.header, []⟩ lines
  let t ← sections.foldlM addSection root
  return t.entries

/-- The value of keys in braces. -/
def ofInline (lines : List Line) : Option Item := do
  let t ← addLines ⟨.inline, []⟩ lines
  return .table .inline t.entries

end Table

end Lobby.Toml
