/-!
# Byte strings

Everything on the wire is a list of bytes.  Multi-byte numbers are big-endian, and text travels as
its UTF-8 bytes.
-/

namespace Lobby

abbrev Bytes := List UInt8

namespace Bytes

/-- The low sixteen bits of `n`, high byte first. -/
def ofNat16 (n : Nat) : Bytes := [UInt8.ofNat (n / 0x100), UInt8.ofNat n]

/-- The low thirty-two bits of `n`, high byte first. -/
def ofNat32 (n : Nat) : Bytes :=
  [UInt8.ofNat (n / 0x1000000), UInt8.ofNat (n / 0x10000), UInt8.ofNat (n / 0x100), UInt8.ofNat n]

/-- The number two bytes spell, high byte first. -/
def toNat16 (high low : UInt8) : Nat := high.toNat * 0x100 + low.toNat

/-- The number four bytes spell, high byte first. -/
def toNat32 (a b c d : UInt8) : Nat :=
  a.toNat * 0x1000000 + b.toNat * 0x10000 + c.toNat * 0x100 + d.toNat

/-- The UTF-8 bytes of a text. -/
def ofString (s : String) : Bytes := s.toUTF8.data.toList

/-- The text whose UTF-8 bytes these are, if there is one. -/
def toString? (bytes : Bytes) : Option String := String.fromUTF8? ⟨bytes.toArray⟩

theorem toNat16_ofNat (n : Nat) :
    toNat16 (UInt8.ofNat (n / 0x100)) (UInt8.ofNat n) = n % 0x10000 := by
  simp only [toNat16, UInt8.toNat_ofNat']
  omega

theorem toNat32_ofNat (n : Nat) :
    toNat32 (UInt8.ofNat (n / 0x1000000)) (UInt8.ofNat (n / 0x10000)) (UInt8.ofNat (n / 0x100))
      (UInt8.ofNat n) = n % 0x100000000 := by
  simp only [toNat32, UInt8.toNat_ofNat']
  omega

theorem toNat16_lt (high low : UInt8) : toNat16 high low < 0x10000 := by
  have := high.toNat_lt
  have := low.toNat_lt
  simp only [toNat16]
  omega

/-- **Text survives the trip through its bytes.** -/
@[simp] theorem toString?_ofString (s : String) : toString? (ofString s) = some s := by
  have h : (⟨(ofString s).toArray⟩ : ByteArray) = s.toUTF8 := by
    simp [ofString]
  rw [toString?, h]
  simp [String.fromUTF8?, s.isValidUTF8, String.fromUTF8]

/-- Only the bytes of a text read as that text. -/
theorem eq_ofString_of_toString? {bytes : Bytes} {s : String} (h : toString? bytes = some s) :
    bytes = ofString s := by
  rw [toString?, String.fromUTF8?] at h
  split at h
  · cases h
    simp [ofString, String.fromUTF8]
  · cases h

end Bytes

end Lobby
