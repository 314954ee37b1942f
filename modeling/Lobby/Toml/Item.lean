/-!
# TOML items

What stands under a key of a TOML document.  Floats and moments in time are kept as they were
written.

A table remembers how it came about, because that decides whether it may still be extended: by a
header or a value of its own, by a header further down, or by a dotted key.
-/

namespace Lobby.Toml

/-- How a table came about. -/
inductive Origin where
  /-- It has a header of its own. -/
  | header
  /-- It only stands on the way to the table of another header. -/
  | path
  /-- It stands on the way of a dotted key. -/
  | dotted
  /-- It is a value in braces, to which nothing can be added. -/
  | inline
  deriving DecidableEq, Repr

inductive Item where
  | string (s : String)
  | integer (n : Int64)
  | float (text : String)
  | boolean (b : Bool)
  | moment (text : String)
  | array (items : List Item)
  | table (origin : Origin) (entries : List (String × Item))
  /-- Tables that were each begun by a header in double brackets. -/
  | tables (tables : List (List (String × Item)))

instance : Inhabited Item := ⟨.boolean false⟩

/-- The entries of a table. -/
abbrev Entries := List (String × Item)

namespace Entries

def get? (entries : Entries) (key : String) : Option Item :=
  (entries.find? fun e => e.1 == key).map (·.2)

/-- Puts an item in the place of the one under a key, or at the end. -/
def put (entries : Entries) (key : String) (item : Item) : Entries :=
  match entries with
  | [] => [(key, item)]
  | e :: rest => if e.1 == key then (key, item) :: rest else e :: put rest key item

end Entries

end Lobby.Toml
