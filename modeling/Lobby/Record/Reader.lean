import Lobby.Record.Writer

/-!
# Reading records

A reader takes a value off the front of the bytes and leaves the rest, or refuses with a cause.
Reading is total: a list reads as many elements as it claims to hold and ends with the bytes, and a
group ends at its closing byte or with the bytes.

Nesting is bounded.  `Reader.record n` reads records with at most `n` levels of groups and present
unions inside one another, by recursion on `n`.
-/

namespace Lobby

/-- The number of levels groups and present unions may be nested. -/
def maxDepth : Nat := 128

/-- What takes an `α` off the front of the bytes. -/
abbrev Reader (α : Type) := StateT Bytes (Except DecodeError) α

namespace Reader

def fail {α : Type} (cause : DecodeError) : Reader α := fun _ => .error cause

def byte : Reader UInt8
  | [] => .error .unexpectedEnd
  | b :: rest => .ok (b, rest)

/-- The next `n` bytes. -/
def take (n : Nat) : Reader Bytes := fun bytes =>
  let front := bytes.take n
  if front.length < n then .error .unexpectedEnd else .ok (front, bytes.drop n)

def varint : Reader Int64 := Varint.read

/-- A length or a count. -/
def length : Reader Nat := do
  let n ← varint
  if n.toInt < 0 then fail (.invalidLength n) else return n.toInt.toNat

/-- A length, the bytes of a text and one more byte, whatever it is.  The length counts that byte;
a length of zero is an empty text. -/
def string : Reader String := do
  let n ← length
  if n = 0 then return ""
  let bytes ← take n
  match Bytes.toString? bytes.dropLast with
  | some s => return s
  | none => fail .invalidUtf8

def blob : Reader Bytes := do take (← length)

def triple : Reader (Int64 × Int64 × Int64) := do
  let a ← varint
  let b ← varint
  let c ← varint
  return (a, b, c)

def float : Reader UInt32
  | a :: b :: c :: d :: rest => .ok (UInt32.ofNat (Bytes.toNat32 a b c d), rest)
  | _ => .error .unexpectedEnd

/-- `n` values one after the other. -/
def times {α : Type} (read : Reader α) (n : Nat) : Reader (List α) := go n []
where
  go : Nat → List α → Bytes → Except DecodeError (List α × Bytes)
    | 0, done, bytes => .ok (done.reverse, bytes)
    | n + 1, done, bytes =>
      match read bytes with
      | .error cause => .error cause
      | .ok (a, rest) => go n (a :: done) rest

/-! ## Kinds -/

def valueKind : Reader ValueKind := do
  let code ← byte
  match ValueKind.ofCode? code with
  | some kind => return kind
  | none => fail (.unknownKind code)

def itemKind (kind : ValueKind) : Reader ItemKind :=
  match ItemKind.ofValueKind? kind with
  | some kind => pure kind
  | none => fail (.unsupportedElement kind)

def cellKind (kind : ValueKind) : Reader CellKind :=
  match CellKind.ofValueKind? kind with
  | some kind => pure kind
  | none => fail (.unsupportedElement kind)

end Reader

/-- What a cell of a kind holds. -/
abbrev CellKind.Cell : CellKind → Type
  | .varint => Int64
  | .string => String
  | .group => Group
  | .float => UInt32

/-- The column with these cells. -/
def CellKind.column : (kind : CellKind) → List kind.Cell → Column
  | .varint, cells => .varints cells
  | .string, cells => .strings cells
  | .group, cells => .groups cells
  | .float, cells => .floats cells

namespace Reader

/-! ## Values

The readers below are given how to read what is nested one level deeper: `group` for a group and
`record` for the record of a union. -/

def items (group : Reader Group) : Reader Items := do
  let kind ← valueKind
  let count ← length
  match ← itemKind kind with
  | .varint => return .varints (← times varint count)
  | .string => return .strings (← times string count)
  | .group => return .groups (← times group count)
  | .triple => return .triples (← times triple count)

def cell (group : Reader Group) : (kind : CellKind) → Reader kind.Cell
  | .varint => varint
  | .string => string
  | .group => group
  | .float => float

/-- The columns of a map, read row by row. -/
def columns (group : Reader Group) : Reader (Column × Column) := do
  let keyKind ← valueKind
  let valueKind ← valueKind
  let count ← length
  let keyKind ← cellKind keyKind
  let valueKind ← cellKind valueKind
  let row : Reader (keyKind.Cell × valueKind.Cell) := do
    let key ← cell group keyKind
    let value ← cell group valueKind
    return (key, value)
  let rows ← times row count
  return (keyKind.column (rows.map (·.1)), valueKind.column (rows.map (·.2)))

def union (record : Reader Record) : Reader Value := do
  let d ← byte
  if h : d ≠ unsetDiscriminant then return .union ⟨d, h⟩ (← record) else return .unset

/-- A value of a kind. -/
def value (group : Reader Group) (record : Reader Record) : ValueKind → Reader Value
  | .varint => return .varint (← varint)
  | .string => return .string (← string)
  | .blob => return .blob (← blob)
  | .group => return .group (← group)
  | .list => return .list (← items group)
  | .map => do
    let (keys, values) ← columns group
    return .map keys values
  | .union => union record
  | .varintList => do
    let count ← length
    return .varintList (← times varint count)
  | .pair => do
    let a ← varint
    let b ← varint
    return .pair a b
  | .triple => do
    let (a, b, c) ← triple
    return .triple a b c
  | .float => return .float (← float)

/-- The tag and the kind of a record, four bytes that must all be there. -/
def header : Reader (Label × ValueKind)
  | a :: b :: c :: code :: rest =>
    match ValueKind.ofCode? code with
    | some kind => .ok ((Label.ofTag a b c, kind), rest)
    | none => .error (.unknownKind code)
  | _ => .error .unexpectedEnd

/-- A record whose nested parts are read by `group` and `record`. -/
def recordOver (group : Reader Group) (record : Reader Record) : Reader Record := do
  let (label, kind) ← header
  return .mk label (← value group record kind)

/-- The records of a group up to its closing byte, each read by `record`.  A mark may stand before
any record.  A record takes at least one byte, so the bytes themselves bound the number of turns. -/
def groupOver (record : Reader Record) : Reader Group := fun bytes => go bytes false [] bytes
where
  go : Bytes → Bool → List Record → Bytes → Except DecodeError (Group × Bytes)
    | _, _, _, [] => .error .unexpectedEnd
    | [], _, _, _ => .error .unexpectedEnd
    | _ :: turns, extended, done, b :: rest =>
      if b = groupEnd then .ok (.mk extended done.reverse, rest)
      else if b = groupMark then go turns true done rest
      else
        match record (b :: rest) with
        | .error cause => .error cause
        | .ok (r, rest) => go turns extended (r :: done) rest

/-- A record with at most `n` levels of nesting inside it. -/
def record : (n : Nat) → Reader Record
  | 0 => recordOver (fail (.tooDeep maxDepth)) (fail (.tooDeep maxDepth))
  | n + 1 => recordOver (groupOver (record n)) (record n)

end Reader

/-- Reads one record off the front. -/
def readRecord : Reader Record := Reader.record maxDepth

/-- Reads records until the bytes end.  Each takes at least one byte. -/
def decodeAll (bytes : Bytes) : Except DecodeError (List Record) := go bytes [] bytes
where
  go : Bytes → List Record → Bytes → Except DecodeError (List Record)
    | _, done, [] => .ok done.reverse
    | [], _, _ :: _ => .error .unexpectedEnd
    | _ :: turns, done, b :: rest =>
      match readRecord (b :: rest) with
      | .error cause => .error cause
      | .ok (r, rest) => go turns (r :: done) rest

end Lobby
