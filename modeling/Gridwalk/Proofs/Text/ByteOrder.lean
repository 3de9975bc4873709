import Mathlib

/-!
# The order of bytes

Texts are ordered by their characters. This is also the order of the bytes that encode them
(`bytes_lt_bytes_iff`): a character that comes later either has a greater leading byte, or it has
as many bytes and a greater one where they first differ.

The bytes of a character are a leading byte and up to three trailing ones of six bits each, so a
code of `k + 1` bytes is a code of `k` bytes for the number without its last six bits, and a
trailing byte for these (`Ascending.trail`).
-/

namespace Gridwalk.Text

/-- The bytes that encode a text. -/
def bytes (s : String) : List UInt8 := s.toByteArray.data.toList

/-! ## Codes of numbers -/

/-- The codes of numbers below `top` are in the order of the numbers, whatever stands behind
them. -/
def Ascending (code : Nat → List UInt8) (top : Nat) : Prop :=
  ∀ v w cs ds, v < w → w < top → code v ++ cs < code w ++ ds

theorem cons_lt_cons_of_lt {a b : Nat} (h : a < b) (hb : b < 256) (cs ds : List UInt8) :
    UInt8.ofNat a :: cs < UInt8.ofNat b :: ds := by
  refine List.cons_lt_cons_iff.2 (.inl ?_)
  rw [UInt8.lt_iff_toNat_lt, UInt8.toNat_ofNat_of_lt' (h.trans hb), UInt8.toNat_ofNat_of_lt' hb]
  exact h

/-- A leading byte holds the number above a base. -/
theorem ascending_lead (top base : Nat) (h : top + base ≤ 256) :
    Ascending (fun v => [UInt8.ofNat (v % top + base)]) top := by
  intro v w cs ds hlt hw
  apply cons_lt_cons_of_lt
  · rw [Nat.mod_eq_of_lt (hlt.trans hw), Nat.mod_eq_of_lt hw]
    omega
  · rw [Nat.mod_eq_of_lt hw]
    omega

/-- A trailing byte holds six more bits of the number. -/
theorem Ascending.trail {code : Nat → List UInt8} {top : Nat} (h : Ascending code top) :
    Ascending (fun v => code (v / 64) ++ [UInt8.ofNat (v % 64 + 128)]) (top * 64) := by
  intro v w cs ds hlt hw
  simp only [List.append_assoc, List.singleton_append]
  rcases (Nat.div_le_div_right hlt.le : v / 64 ≤ w / 64).lt_or_eq with hdiv | hdiv
  · exact h _ _ _ _ hdiv (Nat.div_lt_of_lt_mul (Nat.mul_comm top 64 ▸ hw))
  · rw [hdiv]
    exact List.append_left_lt (cons_lt_cons_of_lt (by omega) (by omega) cs ds)

/-! ## Characters -/

theorem encode_append_lt {c d : Char} (h : c < d) (cs ds : List UInt8) :
    String.utf8EncodeChar c ++ cs < String.utf8EncodeChar d ++ ds := by
  have hlt : c.val.toNat < d.val.toNat := h
  have hmax : d.val.toNat < 0x110000 := by
    rcases d.valid with h | ⟨-, h⟩
    · exact Nat.lt_trans h (by decide)
    · exact h
  have two := (ascending_lead 32 192 (by decide)).trail
  have three := (ascending_lead 16 224 (by decide)).trail.trail
  have four := (ascending_lead 8 240 (by decide)).trail.trail.trail
  simp only [Nat.div_div_eq_div_mul, List.cons_append, List.nil_append] at two three four
  unfold String.utf8EncodeChar
  generalize c.val.toNat = v at *
  generalize d.val.toNat = w at *
  dsimp only
  split_ifs
  -- A greater number does not take fewer bytes, and with more bytes the leading one is greater.
  any_goals omega
  iterate 4 exact cons_lt_cons_of_lt (by omega) (by omega) _ _
  · exact two v w cs ds hlt (by omega)
  iterate 2 exact cons_lt_cons_of_lt (by omega) (by omega) _ _
  · exact three v w cs ds hlt (by omega)
  · exact cons_lt_cons_of_lt (by omega) (by omega) _ _
  · exact four v w cs ds hlt (by omega)

/-! ## Texts -/

theorem bytes_eq_flatMap (s : String) : bytes s = s.toList.flatMap String.utf8EncodeChar := by
  rw [bytes, ← String.utf8Encode_toList, List.utf8Encode, List.toList_data_toByteArray]

theorem flatMap_encode_lt {cs ds : List Char} (h : cs < ds) :
    cs.flatMap String.utf8EncodeChar < ds.flatMap String.utf8EncodeChar := by
  induction cs generalizing ds with
  | nil =>
    cases ds with
    | nil => cases h
    | cons d ds =>
      obtain ⟨b, bs, hd⟩ := List.exists_cons_of_ne_nil (String.utf8EncodeChar_ne_nil (c := d))
      rw [List.flatMap_cons, hd]
      exact List.nil_lt_cons b _
  | cons c cs ih =>
    cases ds with
    | nil => cases h
    | cons d ds =>
      rw [List.flatMap_cons, List.flatMap_cons]
      rcases List.cons_lt_cons_iff.1 h with hlt | ⟨rfl, hlt⟩
      · exact encode_append_lt hlt _ _
      · exact List.append_left_lt (ih hlt)

/-- Texts are in the order of their bytes. -/
theorem bytes_lt_bytes_iff {s t : String} : bytes s < bytes t ↔ s < t := by
  have hmono {s t : String} (h : s < t) : bytes s < bytes t := by
    rw [bytes_eq_flatMap, bytes_eq_flatMap]
    exact flatMap_encode_lt h
  refine ⟨fun h => ?_, hmono⟩
  rcases lt_trichotomy s t with hlt | rfl | hgt
  · exact hlt
  · exact absurd h (List.lt_irrefl _)
  · exact absurd (hmono hgt) (List.lt_asymm h)

end Gridwalk.Text
