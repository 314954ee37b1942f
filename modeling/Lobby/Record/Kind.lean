/-!
# Kinds of values

Every record names the kind of its value by one byte.  Lists and maps name the kinds of their
elements the same way, but each of them admits only four kinds: `ItemKind` lists those of a list and
`CellKind` those of a map.
-/

namespace Lobby

/-- The eleven kinds of values. -/
inductive ValueKind where
  | varint
  | string
  | blob
  | group
  | list
  | map
  | union
  | varintList
  | pair
  | triple
  | float
  deriving DecidableEq, Repr

namespace ValueKind

/-- The byte that names a kind on the wire. -/
def code : ValueKind → UInt8
  | varint => 0
  | string => 1
  | blob => 2
  | group => 3
  | list => 4
  | map => 5
  | union => 6
  | varintList => 7
  | pair => 8
  | triple => 9
  | float => 10

/-- The kind a byte names. -/
def ofCode? (code : UInt8) : Option ValueKind :=
  [varint, string, blob, group, list, map, union, varintList, pair, triple, float].find?
    (·.code = code)

/-- The name of a kind in messages. -/
def name : ValueKind → String
  | varint => "VarInt"
  | string => "String"
  | blob => "Blob"
  | group => "Group"
  | list => "List"
  | map => "Map"
  | union => "Union"
  | varintList => "VarIntList"
  | pair => "Pair"
  | triple => "Triple"
  | float => "Float"

@[simp] theorem ofCode?_code (kind : ValueKind) : ofCode? kind.code = some kind := by
  cases kind <;> rfl

theorem code_of_ofCode? {code : UInt8} {kind : ValueKind} (h : ofCode? code = some kind) :
    kind.code = code := by
  simpa using List.find?_some h

end ValueKind

/-- The kinds a list may hold. -/
inductive ItemKind where
  | varint
  | string
  | group
  | triple
  deriving DecidableEq, Repr

namespace ItemKind

def valueKind : ItemKind → ValueKind
  | varint => .varint
  | string => .string
  | group => .group
  | triple => .triple

def ofValueKind? : ValueKind → Option ItemKind
  | .varint => some varint
  | .string => some string
  | .group => some group
  | .triple => some triple
  | _ => none

@[simp] theorem ofValueKind?_valueKind (kind : ItemKind) :
    ofValueKind? kind.valueKind = some kind := by
  cases kind <;> rfl

end ItemKind

/-- The kinds a map may hold, as keys or as values. -/
inductive CellKind where
  | varint
  | string
  | group
  | float
  deriving DecidableEq, Repr

namespace CellKind

def valueKind : CellKind → ValueKind
  | varint => .varint
  | string => .string
  | group => .group
  | float => .float

def ofValueKind? : ValueKind → Option CellKind
  | .varint => some varint
  | .string => some string
  | .group => some group
  | .float => some float
  | _ => none

@[simp] theorem ofValueKind?_valueKind (kind : CellKind) :
    ofValueKind? kind.valueKind = some kind := by
  cases kind <;> rfl

end CellKind

end Lobby
