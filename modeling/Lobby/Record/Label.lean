import Lobby.Bytes

/-!
# Labels and tags

A label names a record by four symbols out of sixty-four, the characters from blank to underscore.
On the wire its symbols are the four base-64 digits of a three-byte tag.  Labels given by a
program are one to four capital letters and digits, padded with blanks; labels read off the wire
are any four symbols.

Labels are ordered symbol by symbol, which is the order of their padded texts and of their tags.
-/

namespace Lobby

/-- Four symbols, each the distance of its character from blank. -/
structure Label where
  first : Fin 64
  second : Fin 64
  third : Fin 64
  fourth : Fin 64
  deriving DecidableEq, Repr

namespace Label

/-- The symbol of a character between blank and underscore. -/
def symbol (c : Char) : Fin 64 := Fin.ofNat 64 (c.toNat - 32)

/-- The character of a symbol. -/
def character (s : Fin 64) : Char := Char.ofNat (s.val + 32)

def symbols (l : Label) : List (Fin 64) := [l.first, l.second, l.third, l.fourth]

/-- The label whose symbols start with these characters, blanks after them. -/
def ofChars (cs : List Char) : Label where
  first := symbol (cs.getD 0 ' ')
  second := symbol (cs.getD 1 ' ')
  third := symbol (cs.getD 2 ' ')
  fourth := symbol (cs.getD 3 ' ')

/-- The four characters of a label, padding included. -/
def padded (l : Label) : List Char := l.symbols.map character

/-- The text of a label, without the blanks at its end. -/
def text (l : Label) : String :=
  String.ofList (l.padded.reverse.dropWhile (· = ' ')).reverse

/-! ## Labels given by a program -/

/-- Capital letters and digits. -/
def isNameChar (c : Char) : Bool := c.isUpper || c.isDigit

/-- The label named by one to four capital letters and digits. -/
def parse? (name : String) : Option Label :=
  if 1 ≤ name.utf8ByteSize ∧ name.utf8ByteSize ≤ 4 ∧ name.toList.all isNameChar then
    some (ofChars name.toList)
  else none

/-- Why a name is no label. -/
inductive Fault where
  | length
  | character
  deriving DecidableEq, Repr

def Fault.message : Fault → String
  | length => "label must be 1 to 4 characters"
  | character => "label characters must be A-Z or 0-9"

/-- Checks the length in bytes first, and then the characters. -/
def check (name : String) : Except Fault Label :=
  if name.utf8ByteSize = 0 ∨ 4 < name.utf8ByteSize then .error .length
  else if name.toList.all isNameChar then .ok (ofChars name.toList)
  else .error .character

/-! ## Tags -/

/-- The tag as a number: the symbols are its base-64 digits. -/
def packed (l : Label) : Nat :=
  ((l.first.val * 64 + l.second.val) * 64 + l.third.val) * 64 + l.fourth.val

/-- The three bytes of a label, high byte first. -/
def tag (l : Label) : UInt8 × UInt8 × UInt8 :=
  (UInt8.ofNat (l.packed / 0x10000), UInt8.ofNat (l.packed / 0x100), UInt8.ofNat l.packed)

/-- The label whose tag is the low twenty-four bits of a number. -/
def ofPacked (n : Nat) : Label where
  first := Fin.ofNat 64 (n / (64 * 64 * 64))
  second := Fin.ofNat 64 (n / (64 * 64))
  third := Fin.ofNat 64 (n / 64)
  fourth := Fin.ofNat 64 n

/-- The label of a tag.  Every tag has one. -/
def ofTag (a b c : UInt8) : Label :=
  ofPacked (a.toNat * 0x10000 + b.toNat * 0x100 + c.toNat)

/-! ## Order -/

instance : LT Label := ⟨fun l m => l.symbols < m.symbols⟩

instance (l m : Label) : Decidable (l < m) := inferInstanceAs (Decidable (l.symbols < m.symbols))

/-- The labels in ascending order. -/
def sort (labels : List Label) : List Label := labels.mergeSort fun l m => !decide (m < l)

end Label

end Lobby
