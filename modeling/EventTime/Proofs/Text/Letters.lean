import EventTime.Proofs.Text.Lines
import EventTime.Text.Caseless

-- Texts that differ in nothing but the case of ASCII letters, as characters and as bytes.
namespace EventTime.Text

-- One character twice, or a capital letter of ASCII and its small letter.
def SameLetter (c d : Char) : Prop :=
  c = d ∨ (65 ≤ c.toNat ∧ c.toNat ≤ 90 ∧ d.toNat = c.toNat + 32) ∨
    (65 ≤ d.toNat ∧ d.toNat ≤ 90 ∧ c.toNat = d.toNat + 32)

theorem toUpper_eq_toUpper_iff (c d : Char) : c.toUpper = d.toUpper ↔ SameLetter c d := by
  simp only [← Char.toNat_inj, toNat_toUpper, SameLetter]
  split <;> split <;> omega

-- Texts of one length, with the same letter at every place.
def Alike (left right : String) : Prop :=
  left.length = right.length ∧ ∀ (place : Nat) (c d : Char),
    left.toList[place]? = some c → right.toList[place]? = some d → SameLetter c d

theorem map_toUpper_eq_iff_alike (left right : String) :
    left.toList.map Char.toUpper = right.toList.map Char.toUpper ↔ Alike left right := by
  rw [Alike, ← String.length_toList, ← String.length_toList]
  simp only [← toUpper_eq_toUpper_iff]
  constructor
  · intro hmap
    refine ⟨by simpa using congrArg List.length hmap, ?_⟩
    intro place c d hc hd
    have hplace := congrArg (·[place]?) hmap
    simpa [hc, hd] using hplace
  · rintro ⟨hlength, hplaces⟩
    apply List.ext_getElem
    · simpa using hlength
    · intro place hleft hright
      rw [List.getElem_map, List.getElem_map]
      exact hplaces place _ _ (List.getElem?_eq_getElem _) (List.getElem?_eq_getElem _)

theorem sameLetters_iff_alike (left right : String) :
    sameLetters left.toList right.toList = true ↔ Alike left right := by
  rw [sameLetters_iff, map_toUpper_eq_iff_alike]

instance (left right : String) : Decidable (Alike left right) :=
  decidable_of_iff _ (sameLetters_iff_alike left right)

theorem Alike.symm {left right : String} (halike : Alike left right) : Alike right left := by
  rw [← map_toUpper_eq_iff_alike] at halike ⊢
  exact halike.symm

theorem Alike.trans {left middle right : String} (hleft : Alike left middle)
    (hright : Alike middle right) : Alike left right := by
  rw [← map_toUpper_eq_iff_alike] at hleft hright ⊢
  exact hleft.trans hright

section Bytes

-- A small letter of ASCII becomes its capital. Bytes of other characters stay as they are.
def upperByte (byte : UInt8) : UInt8 :=
  if 97 ≤ byte.toNat ∧ byte.toNat ≤ 122 then byte - 32 else byte

theorem toNat_upperByte (byte : UInt8) :
    (upperByte byte).toNat =
      if 97 ≤ byte.toNat ∧ byte.toNat ≤ 122 then byte.toNat - 32 else byte.toNat := by
  have hshift : (32 : UInt8).toNat = 32 := rfl
  unfold upperByte
  split
  · rw [UInt8.toNat_sub, hshift]
    omega
  · rfl

theorem utf8Size_eq_one {c : Char} (hascii : c.toNat < 128) : c.utf8Size = 1 := by
  have hcode : c.val.toNat = c.toNat := rfl
  rw [Char.utf8Size_eq_one_iff, UInt32.le_iff_toNat_le, hcode]
  exact Nat.le_of_lt_succ hascii

theorem utf8EncodeChar_toUpper (c : Char) :
    String.utf8EncodeChar c.toUpper = (String.utf8EncodeChar c).map upperByte := by
  have hupper := toNat_toUpper c
  by_cases hascii : c.toNat < 128
  · have hbyte : ∀ d : Char, d.toNat < 128 → d.val.toUInt8.toNat = d.toNat := by
      intro d hd
      have hcode : d.val.toNat = d.toNat := rfl
      rw [UInt32.toNat_toUInt8, hcode]
      omega
    have hsmall : c.toUpper.toNat < 128 := by
      rw [hupper]
      split <;> omega
    rw [String.utf8EncodeChar_eq_singleton (utf8Size_eq_one hascii),
      String.utf8EncodeChar_eq_singleton (utf8Size_eq_one hsmall), List.map_singleton,
      List.singleton_inj, ← UInt8.toNat_inj, toNat_upperByte, hbyte c hascii, hbyte _ hsmall,
      hupper]
  · -- such a character has no other case, and none of its bytes is a letter
    have hsame : c.toUpper = c := by
      rw [← Char.toNat_inj, hupper, if_neg (by omega)]
    have hbytes : (String.utf8EncodeChar c).map upperByte = String.utf8EncodeChar c := by
      conv_rhs => rw [← List.map_id (String.utf8EncodeChar c)]
      apply List.map_congr_left
      intro byte hbyte
      by_cases hlarge : byte.toNat < 128
      · exact absurd (Lines.toNat_eq_of_mem_utf8EncodeChar c byte hlarge hbyte) (by omega)
      · rw [id_eq, ← UInt8.toNat_inj, toNat_upperByte, if_neg (by omega)]
    rw [hsame, hbytes]

theorem map_upperByte_encode (text : String) :
    (Lines.encode text).map upperByte =
      Lines.encode (String.ofList (text.toList.map Char.toUpper)) := by
  simp only [Lines.encode_eq_flatMap, String.toList_ofList, List.map_flatMap, List.flatMap_map,
    utf8EncodeChar_toUpper]

theorem map_upperByte_encode_eq_iff (left right : String) :
    (Lines.encode left).map upperByte = (Lines.encode right).map upperByte ↔
      Alike left right := by
  rw [map_upperByte_encode, map_upperByte_encode, ← map_toUpper_eq_iff_alike]
  constructor
  · intro hbytes
    have htexts := congrArg Lines.decode? hbytes
    simpa [Lines.decode?_encode, String.ofList_inj] using htexts
  · intro hmap
    rw [hmap]

end Bytes

end EventTime.Text
