import Lobby.Address
import Lobby.Text.Case

/-!
# Host names

A host is called by a name, words with periods between them, or by its address.  Besides the usual
notation an IPv4 address may have fewer than four parts, the last of which then fills the bytes that
are left, and a part may be octal or hexadecimal: `127.1`, `0177.0.0.1` and `2130706433` all are
`127.0.0.1`.  The interface of a link-local IPv6 address may follow it, as in `fe80::1%lo`.

A host without a network knows only its own name, and nobody answers for the others.
-/

namespace Lobby.HostName

/-- Why a name stands for no host. -/
inductive Fault where
  /-- It holds the character with code zero. -/
  | zeroCharacter
  /-- No host can have the name. -/
  | malformed
  /-- Nobody answers for the name. -/
  | unanswered
  deriving DecidableEq, Repr

/-- The parts of a text between periods. -/
def parts : List Char → List (List Char)
  | [] => [[]]
  | c :: rest =>
    if c = '.' then [] :: parts rest
    else
      match parts rest with
      | part :: more => (c :: part) :: more
      | [] => [[c]]

/-! ## Addresses -/

def isOctalDigit (c : Char) : Bool := '0' ≤ c && c ≤ '7'

/-- A number, hexadecimal after `0x`, octal after another `0`, and else decimal. -/
def number? : List Char → Option Nat
  | '0' :: 'x' :: ds | '0' :: 'X' :: ds => ofDigits? 16 Address.isHexDigit ds
  | '0' :: ds => ofDigits? 8 isOctalDigit ('0' :: ds)
  | ds => ofDigits? 10 Char.isDigit ds
where
  ofDigits? (base : Nat) (isDigit : Char → Bool) (ds : List Char) : Option Nat :=
    if !ds.isEmpty && ds.all isDigit then some (Address.numeral base ds) else none

/-- The IPv4 address whose four bytes are a number, the most significant one first. -/
def ofNumber (n : Nat) : Host :=
  .v4 (UInt8.ofNat (n / 0x1000000)) (UInt8.ofNat (n / 0x10000)) (UInt8.ofNat (n / 0x100))
    (UInt8.ofNat n)

/-- The IPv4 address with some bytes in front, and a number in the bytes that are left. -/
def fill? (front : List Nat) (last : Nat) : Option Host :=
  let room := Nat.pow 256 (4 - front.length)
  if front.all (· < 256) ∧ last < room then
    some (ofNumber (front.foldl (fun n byte => n * 256 + byte) 0 * room + last))
  else none

/-- An IPv4 address of up to four numbers. -/
def v4? (cs : List Char) : Option Host := do
  let ns ← (parts cs).mapM number?
  if ns.length ≤ 4 then fill? ns.dropLast (ns.getLastD 0) else none

/-- Does an IPv6 address belong to one link, so that an interface may be named with it? -/
def isOfOneLink (groups : List UInt16) : Bool :=
  let n := (groups.headD 0).toNat
  n / 0x40 = 0xfe80 / 0x40 || (n / 0x100 = 0xff && (n % 0x10 = 1 || n % 0x10 = 2))

/-- The number of an interface.  The first one is `lo`. -/
def zone? (groups : List UInt16) (cs : List Char) : Option UInt32 :=
  if isOfOneLink groups ∧ cs = ['l', 'o'] then some 1
  else
    match Address.decimal? UInt32.size cs with
    | some (n, []) => some (UInt32.ofNat n)
    | _ => none

/-- An IPv6 address, with or without an interface. -/
def v6? (cs : List Char) : Option Host :=
  match Address.v6? cs with
  | some (groups, []) => some (.v6 groups 0)
  | some (groups, '%' :: zone) => (zone? groups zone).map (.v6 groups)
  | _ => none

/-! ## Names -/

/-- The host that a name is known to stand for: only this one has a name. -/
def known? (cs : List Char) : Option Host :=
  if Text.sameUpToCase (String.ofList cs) "localhost" then some (.v4 127 0 0 1) else none

def isNameChar (c : Char) : Bool := c.isAlphanum || c = '-' || c = '_'

/-- Can a word stand between the periods of a name? -/
def isWord (cs : List Char) : Bool :=
  !cs.isEmpty && decide (cs.length ≤ 63) && cs.all isNameChar

/-- The name without the period that may end it. -/
def withoutEnd (cs : List Char) : List Char :=
  if cs.getLast? = some '.' then cs.dropLast else cs

/-- Can a host have this name?  A single period stands for the root of all names. -/
def isName (cs : List Char) : Bool :=
  cs = ['.'] ||
    (decide ((withoutEnd cs).length ≤ 253) && cs.head? ≠ some '-' &&
      (parts (withoutEnd cs)).all isWord)

/-- The host a name stands for. -/
def resolve (cs : List Char) : Except Fault Host :=
  if cs.contains '\x00' then .error .zeroCharacter
  else
    match v4? cs <|> v6? cs <|> known? cs with
    | some host => .ok host
    | none => .error (if isName cs then .unanswered else .malformed)

end Lobby.HostName
