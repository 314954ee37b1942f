import Lobby.Record.Lookup

/-!
# Required fields

A field that a request cannot do without.  If it is missing, of another kind or out of range, the
label says which one it was.
-/

namespace Lobby.Content

def requireVarint (content : Content) (label : Label) : Except Label Int64 :=
  match content.varint? label with
  | some n => .ok n
  | none => .error label

def requireString (content : Content) (label : Label) : Except Label String :=
  match content.string? label with
  | some s => .ok s
  | none => .error label

def requireGroup (content : Content) (label : Label) : Except Label Group :=
  match content.group? label with
  | some g => .ok g
  | none => .error label

def requireAttributes (content : Content) (label : Label) : Except Label Attributes :=
  match content.attributes? label with
  | some a => .ok a
  | none => .error label

/-- A number from zero up to, but not including, a limit. -/
def requireBelow (limit : Nat) (content : Content) (label : Label) : Except Label Nat := do
  let n ← content.requireVarint label
  if 0 ≤ n.toInt ∧ n.toInt < limit then return n.toInt.toNat else .error label

def requireUInt32 (content : Content) (label : Label) : Except Label UInt32 := do
  return UInt32.ofNat (← content.requireBelow UInt32.size label)

def requireUInt16 (content : Content) (label : Label) : Except Label UInt16 := do
  return UInt16.ofNat (← content.requireBelow UInt16.size label)

end Lobby.Content
