import Mathlib.Data.Char
import Mathlib.Order.Basic
/-!
Bytes of texts. ASCII has one byte for each character, so texts in ASCII are ordered as their bytes
are.
-/

namespace Docket.Text

def bytes (s : String) : List UInt8 := s.toUTF8.data.toList

def IsAscii (cs : List Char) : Prop := ∀ c ∈ cs, c.toNat < 128

variable {c d : Char} {cs ds : List Char} {s t : String}

theorem utf8EncodeChar_ascii (h : c.toNat < 128) :
    String.utf8EncodeChar c = [UInt8.ofNat c.toNat] := by
  simp [String.utf8EncodeChar]
  omega

theorem toNat_ascii (h : c.toNat < 128) : (UInt8.ofNat c.toNat).toNat = c.toNat := by
  rw [UInt8.toNat_ofNat', Nat.mod_eq_of_lt (by omega)]

theorem ascii_lt_iff (hc : c.toNat < 128) (hd : d.toNat < 128) :
    UInt8.ofNat c.toNat < UInt8.ofNat d.toNat ↔ c < d := by
  rw [UInt8.lt_iff_toNat_lt, toNat_ascii hc, toNat_ascii hd]
  exact gt_iff_lt

theorem ascii_inj (hc : c.toNat < 128) (hd : d.toNat < 128) :
    UInt8.ofNat c.toNat = UInt8.ofNat d.toNat ↔ c = d := by
  rw [← UInt8.toNat_inj, toNat_ascii hc, toNat_ascii hd]
  exact Char.toNat_inj

theorem IsAscii.flatMap_utf8EncodeChar (h : IsAscii cs) :
    cs.flatMap String.utf8EncodeChar = cs.map fun c => UInt8.ofNat c.toNat := by
  induction cs with
  | nil => rfl
  | cons c cs ih =>
    obtain ⟨hc, hcs⟩ := List.forall_mem_cons.1 h
    rw [List.flatMap_cons, List.map_cons, utf8EncodeChar_ascii hc, ih hcs]
    rfl

theorem IsAscii.map_lt_iff (hcs : IsAscii cs) (hds : IsAscii ds) :
    (cs.map fun c => UInt8.ofNat c.toNat) < (ds.map fun c => UInt8.ofNat c.toNat) ↔ cs < ds := by
  induction cs generalizing ds with
  | nil => cases ds <;> simp
  | cons c cs ih =>
    cases ds with
    | nil => simp
    | cons d ds =>
      obtain ⟨hc, hcs⟩ := List.forall_mem_cons.1 hcs
      obtain ⟨hd, hds⟩ := List.forall_mem_cons.1 hds
      rw [List.map_cons, List.map_cons, List.cons_lt_cons_iff, List.cons_lt_cons_iff,
        ascii_lt_iff hc hd, ascii_inj hc hd, ih hcs hds]

theorem IsAscii.bytes_eq (h : IsAscii s.toList) :
    bytes s = s.toList.map fun c => UInt8.ofNat c.toNat := by
  rw [bytes, String.toUTF8_eq_toByteArray, ← String.utf8Encode_toList, List.utf8Encode,
    List.data_toByteArray, h.flatMap_utf8EncodeChar]

theorem IsAscii.bytes_lt_iff (hs : IsAscii s.toList) (ht : IsAscii t.toList) :
    bytes s < bytes t ↔ s.toList < t.toList := by
  rw [hs.bytes_eq, ht.bytes_eq, hs.map_lt_iff ht]

end Docket.Text
