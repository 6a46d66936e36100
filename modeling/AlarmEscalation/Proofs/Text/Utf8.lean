import AlarmEscalation.Text.Utf8
import Mathlib.Data.String.Basic
import Mathlib.Tactic.SplitIfs

/-! # The order of texts is that of their bytes

Texts are compared character by character here. Whoever compares their UTF-8 forms byte by byte
comes to the same order: of two characters the greater one has the greater form, and no form is the
beginning of another one. -/
namespace AlarmEscalation.Text.Utf8

theorem toList_loop (bytes : ByteArray) (i : Nat) (before : List UInt8) :
    ByteArray.toList.loop bytes i before = before.reverse ++ bytes.data.toList.drop i := by
  fun_induction ByteArray.toList.loop bytes i before with
  | case1 i before h ih =>
    have hi : i < bytes.data.toList.length := h
    rw [ih, List.drop_eq_getElem_cons hi]
    simp [ByteArray.get!, h]
  | case2 i before h =>
    have hi : bytes.data.toList.length ≤ i := Nat.le_of_not_lt h
    rw [List.drop_eq_nil_of_le hi, List.append_nil]

theorem encode_eq (text : String) : encode text = text.toList.flatMap String.utf8EncodeChar := by
  rw [encode, String.toUTF8, ← String.utf8Encode_toList, ByteArray.toList, toList_loop]
  simp [List.utf8Encode]

/-- Where the first bytes agree the others decide. -/
theorem ofNat_cons_lt {a b : Nat} {l l' : List UInt8} (hb : b < 256) (hle : a ≤ b)
    (h : a = b → l < l') : UInt8.ofNat a :: l < UInt8.ofNat b :: l' := by
  rw [List.cons_lt_cons_iff]
  rcases Nat.lt_or_eq_of_le hle with hlt | rfl
  · left
    rw [UInt8.lt_iff_toNat_lt, UInt8.toNat_ofNat', UInt8.toNat_ofNat']
    omega
  · exact .inr ⟨rfl, h rfl⟩

theorem encodeChar_lt {c d : Char} (h : c < d) (l l' : List UInt8) :
    String.utf8EncodeChar c ++ l < String.utf8EncodeChar d ++ l' := by
  have hlt : c.val.toNat < d.val.toNat := h
  have hmax : d.val.toNat < 0x110000 := by
    rcases d.valid with hd | ⟨-, hd⟩
    · exact Nat.lt_trans hd (by decide)
    · exact hd
  unfold String.utf8EncodeChar
  generalize c.val.toNat = m at hlt
  generalize d.val.toNat = n at hlt hmax
  dsimp only
  -- Forms of different lengths differ in their first bytes, those of one length digit by digit.
  split_ifs <;> simp only [List.cons_append, List.nil_append] <;>
    repeat refine ofNat_cons_lt (by omega) (by omega) fun _ => ?_
  all_goals omega

theorem flatMap_lt {a b : List Char} (h : a < b) :
    a.flatMap String.utf8EncodeChar < b.flatMap String.utf8EncodeChar := by
  induction h with
  | @nil c rest =>
    obtain ⟨b, bytes, hform⟩ := List.exists_cons_of_ne_nil (String.utf8EncodeChar_ne_nil (c := c))
    rw [List.flatMap_cons, hform]
    exact List.nil_lt_cons _ _
  | @cons c a b _ ih =>
    rw [List.flatMap_cons, List.flatMap_cons]
    exact List.append_left_lt ih
  | rel hlt =>
    rw [List.flatMap_cons, List.flatMap_cons]
    exact encodeChar_lt hlt _ _

/-- The bytes are in the order of the characters. -/
theorem encode_lt_iff (a b : String) : encode a < encode b ↔ a < b := by
  have hmono : ∀ {s t : String}, s < t → encode s < encode t := by
    intro s t hst
    rw [encode_eq, encode_eq]
    exact flatMap_lt (String.lt_iff_toList_lt.mp hst)
  refine ⟨fun hbytes => ?_, hmono⟩
  rcases lt_trichotomy a b with hlt | rfl | hgt
  · exact hlt
  · exact absurd hbytes (List.lt_irrefl _)
  · exact absurd hbytes (List.lt_asymm (hmono hgt))

end AlarmEscalation.Text.Utf8
