import Lobby.Record.Kind

/-!
# Why content is refused

Content is refused for a cause, and each cause has one text.  The last two causes concern values
that a program builds rather than reads.
-/

namespace Lobby

inductive DecodeError where
  /-- The bytes end inside a record. -/
  | unexpectedEnd
  /-- No kind of value has this code. -/
  | unknownKind (code : UInt8)
  /-- A list or a map cannot hold values of this kind. -/
  | unsupportedElement (kind : ValueKind)
  | invalidUtf8
  /-- A number does not fit into 64 bits. -/
  | overflow
  | invalidLength (length : Int64)
  /-- Groups and unions are nested deeper than `limit` levels. -/
  | tooDeep (limit : Nat)
  /-- A present union would carry the discriminant of an absent one. -/
  | reservedDiscriminant
  /-- The two columns of a map differ in length. -/
  | columnLengths (keys values : Nat)
  deriving DecidableEq, Repr

namespace DecodeError

/-- The name of a cause in reports. -/
def name : DecodeError → String
  | unexpectedEnd => "UnexpectedEof"
  | unknownKind _ => "UnknownType"
  | unsupportedElement _ => "UnsupportedElementType"
  | invalidUtf8 => "InvalidUtf8"
  | overflow => "VarIntOverflow"
  | invalidLength _ => "InvalidLength"
  | tooDeep _ => "DepthExceeded"
  | reservedDiscriminant => "ReservedUnionDiscriminant"
  | columnLengths _ _ => "ColumnLengthMismatch"

def message : DecodeError → String
  | unexpectedEnd => "unexpected end of buffer"
  | unknownKind code => s!"unknown type code {code.toNat}"
  | unsupportedElement kind => s!"{kind.name} cannot be used as a collection element"
  | invalidUtf8 => "string is not valid UTF-8"
  | overflow => "varint exceeds 64 bits"
  | invalidLength length => s!"invalid length {length.toInt}"
  | tooDeep limit => s!"nesting deeper than {limit} levels"
  | reservedDiscriminant => "union discriminant 0x7f is reserved for an absent value"
  | columnLengths keys values =>
    s!"map columns differ in length ({keys} keys, {values} values)"

end DecodeError

end Lobby
