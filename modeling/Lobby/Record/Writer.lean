import Lobby.Record.Basic
import Lobby.Record.Varint

/-!
# Writing records

`Record.write r rest` is the bytes of `r` followed by `rest`; carrying the bytes that follow makes
writing linear, and makes "reading what was written" a statement about any continuation.

A record is its tag, the code of its kind and its payload.  Lengths and counts are varints.  A text
is written with its length and a closing zero byte, both counted.  A group is its records between an
optional mark and a closing zero byte.  A map is written row by row.
-/

namespace Lobby

/-- The byte that closes a group. -/
def groupEnd : UInt8 := 0x00

/-- The byte that marks a group as extended. -/
def groupMark : UInt8 := 0x02

namespace Writer

/-- A length or a count. -/
def length (n : Nat) (rest : Bytes) : Bytes := Varint.write (Int64.ofNat n) rest

def string (s : String) (rest : Bytes) : Bytes :=
  let bytes := Bytes.ofString s
  length (bytes.length + 1) (bytes ++ 0 :: rest)

def blob (bytes : Bytes) (rest : Bytes) : Bytes := length bytes.length (bytes ++ rest)

def triple (t : Int64 × Int64 × Int64) (rest : Bytes) : Bytes :=
  Varint.write t.1 (Varint.write t.2.1 (Varint.write t.2.2 rest))

def float (bits : UInt32) (rest : Bytes) : Bytes := Bytes.ofNat32 bits.toNat ++ rest

/-- One thing after the other. -/
def all {α : Type} (write : α → Bytes → Bytes) (xs : List α) (rest : Bytes) : Bytes :=
  xs.foldr write rest

/-- The rows of two columns, each a key and its value. -/
def rows (keys values : List (Bytes → Bytes)) (rest : Bytes) : Bytes :=
  all (fun (row : (Bytes → Bytes) × (Bytes → Bytes)) rest => row.1 (row.2 rest))
    (keys.zip values) rest

end Writer

mutual

def Record.write : Record → Bytes → Bytes
  | .mk label value, rest =>
    let tag := label.tag
    tag.1 :: tag.2.1 :: tag.2.2 :: value.kind.code :: Value.write value rest

def Value.write : Value → Bytes → Bytes
  | .varint n, rest => Varint.write n rest
  | .string s, rest => Writer.string s rest
  | .blob bytes, rest => Writer.blob bytes rest
  | .group g, rest => Group.write g rest
  | .list items, rest =>
    items.kind.valueKind.code :: Writer.length items.length (Items.write items rest)
  | .map keys values, rest =>
    keys.kind.valueKind.code :: values.kind.valueKind.code ::
      Writer.length keys.length (Writer.rows (Column.cells keys) (Column.cells values) rest)
  | .unset, rest => unsetDiscriminant :: rest
  | .union d r, rest => d.val :: Record.write r rest
  | .varintList ns, rest => Writer.length ns.length (Writer.all Varint.write ns rest)
  | .pair a b, rest => Varint.write a (Varint.write b rest)
  | .triple a b c, rest => Writer.triple (a, b, c) rest
  | .float bits, rest => Writer.float bits rest

def Group.write : Group → Bytes → Bytes
  | .mk extended fields, rest =>
    let body := Record.writeAll fields (groupEnd :: rest)
    if extended then groupMark :: body else body

/-- The elements of a list, without their count. -/
def Items.write : Items → Bytes → Bytes
  | .varints ns, rest => Writer.all Varint.write ns rest
  | .strings ss, rest => Writer.all Writer.string ss rest
  | .groups gs, rest => Group.writeAll gs rest
  | .triples ts, rest => Writer.all Writer.triple ts rest

/-- How each cell of a column is written. -/
def Column.cells : Column → List (Bytes → Bytes)
  | .varints ns => ns.map Varint.write
  | .strings ss => ss.map Writer.string
  | .groups gs => Group.cells gs
  | .floats bits => bits.map Writer.float

def Record.writeAll : List Record → Bytes → Bytes
  | [], rest => rest
  | r :: rs, rest => Record.write r (Record.writeAll rs rest)

def Group.writeAll : List Group → Bytes → Bytes
  | [], rest => rest
  | g :: gs, rest => Group.write g (Group.writeAll gs rest)

def Group.cells : List Group → List (Bytes → Bytes)
  | [] => []
  | g :: gs => Group.write g :: Group.cells gs

end

/-- The bytes of some content. -/
def encodeAll (records : List Record) : Bytes := Record.writeAll records []

end Lobby
