import Lobby.Decimal.Float
import Lobby.Record.Lookup
import Lobby.Text.Quoted

/-!
# Records as text

The text of a record for messages: every value under the name of its kind, structures with named
fields in braces.
-/

namespace Lobby

namespace Text

/-- Texts in brackets. -/
def listed (texts : List String) : String := "[" ++ ", ".intercalate texts ++ "]"

/-- A named structure with named fields. -/
def structured (name : String) (fields : List (String × String)) : String :=
  name ++ " \x7b " ++ ", ".intercalate (fields.map fun (k, v) => k ++ ": " ++ v) ++ " \x7d"

/-- A name applied to arguments. -/
def applied (name : String) (arguments : List String) : String :=
  name ++ "(" ++ ", ".intercalate arguments ++ ")"

end Text

namespace Label

def describe (l : Label) : String := Text.applied "Label" [Text.quote l.text]

end Label

/-- The text of a number in a message. -/
def describeInt (n : Int64) : String := toString n.toInt

def describeTriple (t : Int64 × Int64 × Int64) : String :=
  Text.applied "" [describeInt t.1, describeInt t.2.1, describeInt t.2.2]

mutual

def Record.describe : Record → String
  | .mk label value =>
    Text.structured "Tdf" [("label", label.describe), ("value", Value.describe value)]

def Value.describe : Value → String
  | .varint n => Text.applied "VarInt" [describeInt n]
  | .string s => Text.applied "String" [Text.quote s]
  | .blob bytes => Text.applied "Blob" [Text.listed (bytes.map fun b => toString b.toNat)]
  | .group g => Text.applied "Group" [Group.describe g]
  | .list items => Text.applied "List" [Items.describe items]
  | .map keys values =>
    Text.applied "Map"
      [Text.structured "TdfMap"
        [("keys", Column.describe keys), ("values", Column.describe values)]]
  | .unset => Text.applied "Union" ["None"]
  | .union d r =>
    Text.applied "Union"
      [Text.applied "Some"
        [Text.structured "TdfUnion"
          [("discriminant", toString d.val.toNat), ("value", Record.describe r)]]]
  | .varintList ns => Text.applied "VarIntList" [Text.listed (ns.map describeInt)]
  | .pair a b => Text.applied "Pair" [describeInt a, describeInt b]
  | .triple a b c => Text.applied "Triple" [describeInt a, describeInt b, describeInt c]
  | .float bits => Text.applied "Float" [Decimal.floatText bits]

def Group.describe : Group → String
  | .mk extended fields =>
    Text.structured "TdfGroup"
      [("extended", toString extended), ("fields", Text.listed (Record.describeAll fields))]

def Items.describe : Items → String
  | .varints ns => Text.applied "VarInt" [Text.listed (ns.map describeInt)]
  | .strings ss => Text.applied "String" [Text.listed (ss.map Text.quote)]
  | .groups gs => Text.applied "Group" [Text.listed (Group.describeAll gs)]
  | .triples ts => Text.applied "Triple" [Text.listed (ts.map describeTriple)]

def Column.describe : Column → String
  | .varints ns => Text.applied "VarInt" [Text.listed (ns.map describeInt)]
  | .strings ss => Text.applied "String" [Text.listed (ss.map Text.quote)]
  | .groups gs => Text.applied "Group" [Text.listed (Group.describeAll gs)]
  | .floats bits => Text.applied "Float" [Text.listed (bits.map Decimal.floatText)]

def Record.describeAll : List Record → List String
  | [] => []
  | r :: rs => Record.describe r :: Record.describeAll rs

def Group.describeAll : List Group → List String
  | [] => []
  | g :: gs => Group.describe g :: Group.describeAll gs

end

/-- A cause in the text of a packet: its name, with what it is about. -/
def DecodeError.describe (cause : DecodeError) : String :=
  match cause with
  | unknownKind code => Text.applied cause.name [toString code.toNat]
  | unsupportedElement kind => Text.applied cause.name [kind.name]
  | invalidLength length => Text.applied cause.name [describeInt length]
  | tooDeep limit => Text.applied cause.name [toString limit]
  | columnLengths keys values => Text.applied cause.name [toString keys, toString values]
  | _ => cause.name

end Lobby
