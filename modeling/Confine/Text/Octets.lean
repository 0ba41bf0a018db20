import Confine.Text.Utf8
/-!
# Byte strings as text

The shell works on bytes, not characters: the length of `é` is two, and a name may
hold any byte. Its strings are kept as `String`s in which every character stands for
one byte (characters 0 to 255). This module converts between that form, raw bytes,
and ordinary UTF-8 text.
-/

namespace Confine.Text.Octets

/-- A byte string from raw bytes. -/
def ofBytes (bs : List UInt8) : String := String.ofList (bs.map fun b => Char.ofNat b.toNat)

/-- The bytes of a byte string. -/
def toBytes (s : String) : List UInt8 := s.toList.map fun c => c.toNat.toUInt8

/-- The byte string of a text's UTF-8 encoding. -/
def ofText (s : String) : String := ofBytes (Utf8.encode s)

/-- The text a byte string's bytes decode to, ill-formed sequences replaced. -/
def toText (s : String) : String := Utf8.decodeLossy (toBytes s)

theorem toBytes_ofBytes (bs : List UInt8) : toBytes (ofBytes bs) = bs := by
  simp only [toBytes, ofBytes, String.toList_ofList, List.map_map]
  conv => rhs; rw [← List.map_id bs]
  apply List.map_congr_left
  intro b _
  simp only [Function.comp, id]
  have hb : b.toNat < 256 := b.toNat_lt
  have hv : (Char.ofNat b.toNat).toNat = b.toNat := by
    have hc : b.toUInt32.isValidChar := by
      show b.toUInt32.toNat < 0xd800 ∨ (0xdfff < b.toUInt32.toNat ∧ b.toUInt32.toNat < 0x110000)
      rw [UInt8.toNat_toUInt32]
      omega
    have same : Char.toNat ⟨b.toUInt32, hc⟩ = b.toNat := UInt8.toNat_toUInt32 b
    have key : Char.ofNat b.toNat = ⟨b.toUInt32, hc⟩ := by
      have h := Char.ofNat_toNat ⟨b.toUInt32, hc⟩
      rwa [same] at h
    rw [key]
    exact same
  rw [hv]
  exact UInt8.ofNat_toNat

end Confine.Text.Octets
