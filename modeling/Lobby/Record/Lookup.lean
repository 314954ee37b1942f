import Lobby.Record.Basic
import Lobby.SortedMap

/-!
# Looking into records

A value is taken apart by the accessor of its kind, which gives nothing for any other kind.  A label
names the first record that carries it, in some content or in a group.
-/

namespace Lobby

namespace Value

def toVarint? : Value → Option Int64
  | varint n => some n
  | _ => none

def toString? : Value → Option String
  | string s => some s
  | _ => none

def toBlob? : Value → Option Bytes
  | blob b => some b
  | _ => none

def toGroup? : Value → Option Group
  | group g => some g
  | _ => none

def toItems? : Value → Option Items
  | list items => some items
  | _ => none

def toColumns? : Value → Option (Column × Column)
  | map keys values => some (keys, values)
  | _ => none

/-- A union, which may be absent. -/
def toUnion? : Value → Option (Option (Discriminant × Record))
  | unset => some none
  | union d r => some (some (d, r))
  | _ => none

def toPair? : Value → Option (Int64 × Int64)
  | pair a b => some (a, b)
  | _ => none

def toTriple? : Value → Option (Int64 × Int64 × Int64)
  | triple a b c => some (a, b, c)
  | _ => none

def toFloat? : Value → Option UInt32
  | float bits => some bits
  | _ => none

/-- A map from texts to texts.  Of rows with one key the last counts. -/
def attributesOf? : Column → Column → Option Attributes
  | .strings keys, .strings values => some (.ofList (keys.zip values))
  | _, _ => none

def toAttributes? (v : Value) : Option Attributes :=
  v.toColumns?.bind fun (keys, values) => attributesOf? keys values

/-- The map with these rows, in key order. -/
def ofAttributes (a : Attributes) : Value := .map (.strings a.keys) (.strings a.values)

end Value

/-- What a packet carries. -/
abbrev Content := List Record

namespace Content

/-- The first record with a label. -/
def field? (content : Content) (label : Label) : Option Record :=
  content.find? fun r => r.label = label

def varint? (content : Content) (label : Label) : Option Int64 :=
  (content.field? label).bind fun r => r.value.toVarint?

def string? (content : Content) (label : Label) : Option String :=
  (content.field? label).bind fun r => r.value.toString?

def group? (content : Content) (label : Label) : Option Group :=
  (content.field? label).bind fun r => r.value.toGroup?

def items? (content : Content) (label : Label) : Option Items :=
  (content.field? label).bind fun r => r.value.toItems?

def attributes? (content : Content) (label : Label) : Option Attributes :=
  (content.field? label).bind fun r => r.value.toAttributes?

end Content

/-! ## Records that a program builds -/

namespace Record

def varint (l : Label) (n : Int64) : Record := .mk l (.varint n)

/-- A record of a number that 64 bits hold with room to spare. -/
def nat (l : Label) (n : Nat) : Record := .mk l (.varint (Int64.ofNat n))

def string (l : Label) (s : String) : Record := .mk l (.string s)

def blob (l : Label) (b : Bytes) : Record := .mk l (.blob b)

def group (l : Label) (fields : Content) : Record := .mk l (.group (.mk false fields))

def list (l : Label) (items : Items) : Record := .mk l (.list items)

def attributes (l : Label) (a : Attributes) : Record := .mk l (.ofAttributes a)

def union (l : Label) (d : Discriminant) (r : Record) : Record := .mk l (.union d r)

def unset (l : Label) : Record := .mk l .unset

def varintList (l : Label) (ns : List Int64) : Record := .mk l (.varintList ns)

end Record

/-! ## Counting -/

mutual

/-- The number of records in a tree of records, those inside list and map groups included. -/
def Record.count : Record → Nat
  | .mk _ v => Value.count v + 1

def Value.count : Value → Nat
  | .group g => Group.count g
  | .list items => Items.count items
  | .map keys values => Column.count keys + Column.count values
  | .union _ r => Record.count r
  | _ => 0

def Group.count : Group → Nat
  | .mk _ fields => Record.countAll fields

def Items.count : Items → Nat
  | .groups gs => Group.countAll gs
  | _ => 0

def Column.count : Column → Nat
  | .groups gs => Group.countAll gs
  | _ => 0

def Record.countAll : List Record → Nat
  | [] => 0
  | r :: rs => Record.count r + Record.countAll rs

def Group.countAll : List Group → Nat
  | [] => 0
  | g :: gs => Group.count g + Group.countAll gs

end

end Lobby
