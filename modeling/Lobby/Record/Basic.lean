import Lobby.Record.Label
import Lobby.Record.DecodeError

/-!
# Records

Content is a list of records.  A record is a label with a value, and values nest: a group is a list
of records, a present union holds one record, and lists and maps may hold groups.  Lists and the two
columns of a map hold elements of one kind each, so a value can be written as it stands and only a
reader has kinds to check.

Floats are kept as their 32 bits.  `Record.agrees` compares records the way numbers compare, where a
NaN differs from itself and the two zeros are equal.
-/

namespace Lobby

/-- The discriminant that marks an absent union. -/
def unsetDiscriminant : UInt8 := 0x7f

/-- The discriminants of present unions. -/
abbrev Discriminant := { d : UInt8 // d ≠ unsetDiscriminant }

mutual

inductive Record where
  | mk (label : Label) (value : Value)

inductive Value where
  | varint (n : Int64)
  | string (s : String)
  | blob (bytes : Bytes)
  | group (g : Group)
  | list (items : Items)
  | map (keys values : Column)
  | unset
  | union (d : Discriminant) (r : Record)
  | varintList (ns : List Int64)
  | pair (a b : Int64)
  | triple (a b c : Int64)
  | float (bits : UInt32)

/-- The records of a group.  An extended group is marked so on the wire. -/
inductive Group where
  | mk (extended : Bool) (fields : List Record)

inductive Items where
  | varints (ns : List Int64)
  | strings (ss : List String)
  | groups (gs : List Group)
  | triples (ts : List (Int64 × Int64 × Int64))

/-- All keys or all values of a map. -/
inductive Column where
  | varints (ns : List Int64)
  | strings (ss : List String)
  | groups (gs : List Group)
  | floats (bits : List UInt32)

end

instance : Inhabited Value := ⟨.unset⟩
instance : Inhabited Record := ⟨.mk (.ofChars []) .unset⟩
instance : Inhabited Group := ⟨.mk false []⟩

namespace Record

def label : Record → Label
  | mk l _ => l

def value : Record → Value
  | mk _ v => v

end Record

namespace Group

def extended : Group → Bool
  | mk e _ => e

def fields : Group → List Record
  | mk _ fs => fs

end Group

namespace Items

def kind : Items → ItemKind
  | varints _ => .varint
  | strings _ => .string
  | groups _ => .group
  | triples _ => .triple

def length : Items → Nat
  | varints xs => xs.length
  | strings xs => xs.length
  | groups xs => xs.length
  | triples xs => xs.length

end Items

namespace Column

def kind : Column → CellKind
  | varints _ => .varint
  | strings _ => .string
  | groups _ => .group
  | floats _ => .float

def length : Column → Nat
  | varints xs => xs.length
  | strings xs => xs.length
  | groups xs => xs.length
  | floats xs => xs.length

/-- Checks that two columns are the keys and the values of one map. -/
def checkMap (keys values : Column) : Except DecodeError Unit :=
  if keys.length = values.length then .ok ()
  else .error (.columnLengths keys.length values.length)

end Column

namespace Value

def kind : Value → ValueKind
  | varint _ => .varint
  | string _ => .string
  | blob _ => .blob
  | group _ => .group
  | list _ => .list
  | map _ _ => .map
  | unset => .union
  | union _ _ => .union
  | varintList _ => .varintList
  | pair _ _ => .pair
  | triple _ _ _ => .triple
  | float _ => .float

/-- The map with these columns, which must be equally long. -/
def map? (keys values : Column) : Except DecodeError Value := do
  Column.checkMap keys values
  return .map keys values

/-- The present union with this discriminant, which must not be that of an absent one. -/
def union? (d : UInt8) (r : Record) : Except DecodeError Value :=
  if h : d ≠ unsetDiscriminant then .ok (.union ⟨d, h⟩ r) else .error .reservedDiscriminant

end Value

/-! ## Comparison -/

/-- Floats compare as numbers: a NaN differs from everything, and the zeros are equal. -/
def floatAgrees (a b : UInt32) : Bool := Float32.ofBits a == Float32.ofBits b

/-- Lists compare element by element. -/
def listAgrees {α : Type} (agrees : α → α → Bool) : List α → List α → Bool
  | [], [] => true
  | a :: as, b :: bs => agrees a b && listAgrees agrees as bs
  | _, _ => false

mutual

def Record.agrees : Record → Record → Bool
  | .mk l v, .mk l' v' => l == l' && Value.agrees v v'

def Value.agrees : Value → Value → Bool
  | .varint n, .varint n' => n == n'
  | .string s, .string s' => s == s'
  | .blob b, .blob b' => b == b'
  | .group g, .group g' => Group.agrees g g'
  | .list xs, .list xs' => Items.agrees xs xs'
  | .map ks vs, .map ks' vs' => Column.agrees ks ks' && Column.agrees vs vs'
  | .unset, .unset => true
  | .union d r, .union d' r' => d == d' && Record.agrees r r'
  | .varintList ns, .varintList ns' => ns == ns'
  | .pair a b, .pair a' b' => a == a' && b == b'
  | .triple a b c, .triple a' b' c' => a == a' && b == b' && c == c'
  | .float x, .float x' => floatAgrees x x'
  | _, _ => false

def Group.agrees : Group → Group → Bool
  | .mk e fs, .mk e' fs' => e == e' && Record.allAgree fs fs'

def Items.agrees : Items → Items → Bool
  | .varints xs, .varints xs' => xs == xs'
  | .strings xs, .strings xs' => xs == xs'
  | .groups xs, .groups xs' => Group.allAgree xs xs'
  | .triples xs, .triples xs' => xs == xs'
  | _, _ => false

def Column.agrees : Column → Column → Bool
  | .varints xs, .varints xs' => xs == xs'
  | .strings xs, .strings xs' => xs == xs'
  | .groups xs, .groups xs' => Group.allAgree xs xs'
  | .floats xs, .floats xs' => listAgrees floatAgrees xs xs'
  | _, _ => false

def Record.allAgree : List Record → List Record → Bool
  | [], [] => true
  | r :: rs, r' :: rs' => Record.agrees r r' && Record.allAgree rs rs'
  | _, _ => false

def Group.allAgree : List Group → List Group → Bool
  | [], [] => true
  | g :: gs, g' :: gs' => Group.agrees g g' && Group.allAgree gs gs'
  | _, _ => false

end

end Lobby
