import DomainPolicy.Text.Utf8

/-!
# Bytes as characters

* In Latin-1 each byte is the character of its number: `Latin1.decode` reads bytes so, and `Latin1.encode` writes the
  first 256 characters so.
-/

namespace DomainPolicy.Latin1

def decode (bs : Bytes) : String := String.ofList (bs.map fun b => Char.ofNat b.toNat)

/-- The bytes of a string of the first 256 characters. -/
def encode (s : String) : Bytes := s.toList.map fun c => c.toNat.toUInt8

theorem toNat_ofNat_of_lt {n : Nat} (h : n < 256) : (Char.ofNat n).toNat = n := by
  rw [Char.ofNat, dif_pos (show n.isValidChar from Or.inl (by omega))]
  rfl

theorem encode_decode (bs : Bytes) : encode (decode bs) = bs := by
  simp only [encode, decode, String.toList_ofList, List.map_map]
  refine (List.map_congr_left fun b _ => ?_).trans (List.map_id bs)
  simp [toNat_ofNat_of_lt b.toNat_lt]

end DomainPolicy.Latin1
