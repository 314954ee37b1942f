/-!
# Socket addresses

An IP address with a port, in the usual notation: `1.2.3.4:80`, `[2001:db8::1]:80`, and
`[fe80::1%2]:80` with the scope of a link-local address.  The text of an IPv6 address is the
shortest one: no leading zeros, and the first longest run of two or more zero groups left out.
-/

namespace Lobby

/-- The address of a host.  An IPv6 address is its eight groups. -/
inductive Host where
  | v4 (a b c d : UInt8)
  | v6 (groups : List UInt16) (scope : UInt32)
  deriving DecidableEq, Repr

structure Address where
  host : Host
  port : UInt16
  deriving DecidableEq, Repr

namespace Address

/-! ## Text -/

def dotted (a b c d : UInt8) : String :=
  ".".intercalate ([a, b, c, d].map fun n => toString n.toNat)

def groupText (n : UInt16) : String := String.ofList (Nat.toDigits 16 n.toNat)

def groupsText (groups : List UInt16) : String := ":".intercalate (groups.map groupText)

/-- The number of zero groups a list starts with. -/
def zeroRun : List UInt16 → Nat
  | [] => 0
  | n :: rest => if n = 0 then zeroRun rest + 1 else 0

/-- The start and the length of the first longest run of zero groups. -/
def longestZeroRun (groups : List UInt16) : Nat × Nat :=
  (List.range groups.length).foldl
    (fun best start =>
      let length := zeroRun (groups.drop start)
      if best.2 < length then (start, length) else best)
    (0, 0)

def v6Text : List UInt16 → String
  | [0, 0, 0, 0, 0, 0xffff, high, low] =>
    "::ffff:" ++ dotted (UInt8.ofNat (high.toNat / 256)) (UInt8.ofNat high.toNat)
      (UInt8.ofNat (low.toNat / 256)) (UInt8.ofNat low.toNat)
  | groups =>
    let (start, length) := longestZeroRun groups
    if 1 < length then
      groupsText (groups.take start) ++ "::" ++ groupsText (groups.drop (start + length))
    else groupsText groups

def text (a : Address) : String :=
  let port := toString a.port.toNat
  match a.host with
  | .v4 w x y z => dotted w x y z ++ ":" ++ port
  | .v6 groups scope =>
    let scope := if scope = 0 then "" else "%" ++ toString scope.toNat
    "[" ++ v6Text groups ++ scope ++ "]:" ++ port

/-! ## Reading -/

/-- The digits a text starts with, and what follows them. -/
def digits (isDigit : Char → Bool) (cs : List Char) : List Char × List Char :=
  (cs.takeWhile isDigit, cs.dropWhile isDigit)

def hexValue (c : Char) : Nat :=
  if c.isDigit then c.toNat - 48 else c.toLower.toNat - 87

def isHexDigit (c : Char) : Bool :=
  c.isDigit || ('a' ≤ c && c ≤ 'f') || ('A' ≤ c && c ≤ 'F')

def numeral (base : Nat) (ds : List Char) : Nat := ds.foldl (fun n d => n * base + hexValue d) 0

/-- A decimal number below a limit. -/
def decimal? (limit : Nat) (cs : List Char) : Option (Nat × List Char) :=
  let (ds, rest) := digits Char.isDigit cs
  let n := numeral 10 ds
  if ds.isEmpty ∨ limit ≤ n then none else some (n, rest)

/-- One of the four numbers of an IPv4 address: at most three digits, and no zero in front. -/
def octet? (cs : List Char) : Option (UInt8 × List Char) :=
  let (ds, rest) := digits Char.isDigit cs
  let n := numeral 10 ds
  if ds.isEmpty ∨ 3 < ds.length ∨ 255 < n ∨ (1 < ds.length ∧ ds.head? = some '0') then none
  else some (UInt8.ofNat n, rest)

def expect? (c : Char) : List Char → Option (List Char)
  | d :: rest => if c = d then some rest else none
  | [] => none

def v4? (cs : List Char) : Option ((UInt8 × UInt8 × UInt8 × UInt8) × List Char) := do
  let (a, cs) ← octet? cs
  let (b, cs) ← octet? (← expect? '.' cs)
  let (c, cs) ← octet? (← expect? '.' cs)
  let (d, cs) ← octet? (← expect? '.' cs)
  return ((a, b, c, d), cs)

/-- One group: one to four hexadecimal digits. -/
def group? (cs : List Char) : Option (UInt16 × List Char) :=
  let (ds, rest) := digits isHexDigit cs
  if ds.isEmpty ∨ 4 < ds.length then none else some (UInt16.ofNat (numeral 16 ds), rest)

/-- Reads up to `limit` groups with colons between them.  The last two of them may be written as
an IPv4 address, and the flag says whether they are.  Stops in front of a colon that no group
follows. -/
def groups (first : Bool) : (limit : Nat) → List Char → List UInt16 × Bool × List Char
  | 0, cs => ([], false, cs)
  | limit + 1, cs =>
    let here := if first then some cs else expect? ':' cs
    match here with
    | none => ([], false, cs)
    | some start =>
      match if 1 ≤ limit then v4? start else none with
      | some ((a, b, c, d), rest) =>
        ([UInt16.ofNat (a.toNat * 256 + b.toNat), UInt16.ofNat (c.toNat * 256 + d.toNat)], true,
          rest)
      | none =>
        match group? start with
        | none => ([], false, cs)
        | some (g, rest) =>
          let (gs, dotted, rest) := groups false limit rest
          (g :: gs, dotted, rest)

/-- Eight groups, or fewer around a pair of colons that stands for one or more zero groups. -/
def v6? (cs : List Char) : Option (List UInt16 × List Char) :=
  let (front, dotted, rest) := groups true 8 cs
  if front.length = 8 then some (front, rest)
  else
    match dotted, rest with
    | false, ':' :: ':' :: rest =>
      let (back, _, rest) := groups true (7 - front.length) rest
      some (front ++ List.replicate (8 - front.length - back.length) 0 ++ back, rest)
    | _, _ => none

def scope? : List Char → Option (Nat × List Char)
  | '%' :: rest => decimal? UInt32.size rest
  | rest => some (0, rest)

def port? (cs : List Char) : Option UInt16 := do
  let (n, rest) ← decimal? UInt16.size (← expect? ':' cs)
  if rest.isEmpty then return UInt16.ofNat n else none

/-- The address a text denotes. -/
def ofString? (s : String) : Option Address :=
  match s.toList with
  | '[' :: rest => do
    let (gs, rest) ← v6? rest
    let (scope, rest) ← scope? rest
    let port ← port? (← expect? ']' rest)
    return ⟨.v6 gs (UInt32.ofNat scope), port⟩
  | cs => do
    let ((a, b, c, d), rest) ← v4? cs
    let port ← port? rest
    return ⟨.v4 a b c d, port⟩

end Address

end Lobby
