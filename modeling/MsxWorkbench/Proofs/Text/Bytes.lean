import MsxWorkbench.Proofs.Text.Ascii
import MsxWorkbench.Text.Encoding
/-
# Texts in bytes

Well-formed UTF-8 is read as the text that it was written from (`decodeUtf8?_eq_some_iff`), and Latin-1 as the text
of one character for each byte (`decodeLatin1_latin1Bytes`). Bytes from 0x80 on tell the two apart: Latin-1 has one of
them for each character beyond ASCII and UTF-8 at least two. So bytes that are Latin-1 of one text and UTF-8 of another
come from texts with different numbers of such characters, unless both texts are plain (`isAscii_of_encodeUtf8`).
-/
namespace MsxWorkbench.Text

/-! ## UTF-8 -/

theorem toByteArray_encodeUtf8 (s : List Char) : ByteArray.mk (encodeUtf8 s).toArray = s.utf8Encode := by
  rw [encodeUtf8, List.utf8Encode]
  exact ByteArray.ext List.data_toByteArray.symm

theorem decodeUtf8?_eq_some_iff {bytes : List UInt8} {s : List Char} :
    decodeUtf8? bytes = some s ↔ encodeUtf8 s = bytes := by
  constructor
  · intro h
    obtain ⟨chars, hchars, rfl⟩ := Option.map_eq_some_iff.1 h
    have hbytes := ByteArray.utf8Encode_get_utf8Decode? (b := ByteArray.mk bytes.toArray) (h := by rw [hchars]; rfl)
    simp only [hchars, Option.get_some] at hbytes
    rw [← toByteArray_encodeUtf8] at hbytes
    simpa using hbytes
  · rintro rfl
    rw [decodeUtf8?, toByteArray_encodeUtf8, List.utf8Decode?_utf8Encode]
    rfl

/-! ## Latin-1 -/

/-- All characters are in Latin-1. -/
def IsLatin1 (s : List Char) : Prop := ∀ c ∈ s, c.toNat < 0x100

/-- The bytes of a text in Latin-1. -/
def latin1Bytes (s : List Char) : List UInt8 := s.map fun c => UInt8.ofNat c.toNat

theorem toNat_byte {n : Nat} (h : n < 0x100) : (UInt8.ofNat n).toNat = n := UInt8.toNat_ofNat_of_lt h

theorem decodeLatin1_latin1Bytes {s : List Char} (h : IsLatin1 s) : decodeLatin1 (latin1Bytes s) = s := by
  have hchar : ∀ c ∈ s, Char.ofNat (UInt8.ofNat c.toNat).toNat = id c := by
    intro c hc
    rw [toNat_byte (h c hc), Char.ofNat_toNat, id]
  rw [decodeLatin1, latin1Bytes, List.map_map]
  exact (List.map_congr_left hchar).trans (List.map_id s)

theorem IsAscii.isLatin1 {s : List Char} (h : IsAscii s) : IsLatin1 s := fun c hc => Nat.lt_trans (h c hc) (by decide)

theorem encodeUtf8_of_isAscii {s : List Char} (h : IsAscii s) : encodeUtf8 s = latin1Bytes s := by
  induction s with
  | nil => rfl
  | cons c s ih =>
    have hc : c.val.toNat ≤ 0x7f := Nat.le_of_lt_succ (h c List.mem_cons_self)
    have ih := ih fun d hd => h d (List.mem_cons_of_mem _ hd)
    rw [encodeUtf8] at ih
    rw [encodeUtf8, List.flatMap_cons, ih, String.utf8EncodeChar, if_pos hc]
    rfl

/-! ## Bytes from 0x80 on -/

/-- A byte that is no ASCII character. -/
def isHigh (b : UInt8) : Bool := 0x80 ≤ b.toNat

/-- A character that is not in ASCII. -/
def isAccented (c : Char) : Bool := 0x80 ≤ c.toNat

theorem isAscii_iff {s : List Char} : IsAscii s ↔ s.countP isAccented = 0 := by
  rw [List.countP_eq_zero]
  refine forall₂_congr fun c _ => ?_
  simp [isAccented]

theorem countP_isHigh_latin1Bytes {s : List Char} (h : IsLatin1 s) :
    (latin1Bytes s).countP isHigh = s.countP isAccented := by
  rw [latin1Bytes, List.countP_map]
  refine List.countP_congr fun c hc => ?_
  simp [isHigh, isAccented, toNat_byte (h c hc)]

theorem isHigh_ofNat {n : Nat} (hlow : 0x80 ≤ n) (hlt : n < 0x100) : isHigh (UInt8.ofNat n) = true := by
  rw [isHigh, toNat_byte hlt]
  exact decide_eq_true hlow

theorem isHigh_of_mem_utf8EncodeChar {c : Char} (h : isAccented c = true) {b : UInt8}
    (hb : b ∈ String.utf8EncodeChar c) : isHigh b = true := by
  have hc : 0x80 ≤ c.val.toNat := of_decide_eq_true h
  rw [String.utf8EncodeChar, if_neg (by omega)] at hb
  split at hb
  · simp only [List.mem_cons, List.not_mem_nil, or_false] at hb
    rcases hb with rfl | rfl
    all_goals exact isHigh_ofNat (by omega) (by omega)
  · split at hb
    · simp only [List.mem_cons, List.not_mem_nil, or_false] at hb
      rcases hb with rfl | rfl | rfl
      all_goals exact isHigh_ofNat (by omega) (by omega)
    · simp only [List.mem_cons, List.not_mem_nil, or_false] at hb
      rcases hb with rfl | rfl | rfl | rfl
      all_goals exact isHigh_ofNat (by omega) (by omega)

theorem two_le_length_utf8EncodeChar {c : Char} (h : isAccented c = true) : 2 ≤ (String.utf8EncodeChar c).length := by
  have hc : 0x80 ≤ c.val.toNat := of_decide_eq_true h
  rw [String.utf8EncodeChar, if_neg (by omega)]
  split
  · simp
  · split <;> simp

/-- UTF-8 has at least two bytes from 0x80 on for each character beyond ASCII. -/
theorem countP_isHigh_encodeUtf8 (s : List Char) : 2 * s.countP isAccented ≤ (encodeUtf8 s).countP isHigh := by
  induction s with
  | nil => exact Nat.le_refl 0
  | cons c s ih =>
    rw [encodeUtf8] at ih ⊢
    rw [List.flatMap_cons, List.countP_append]
    by_cases hc : isAccented c = true
    · have hall : (String.utf8EncodeChar c).countP isHigh = (String.utf8EncodeChar c).length :=
        List.countP_eq_length.2 fun b hb => isHigh_of_mem_utf8EncodeChar hc hb
      have htwo := two_le_length_utf8EncodeChar hc
      rw [List.countP_cons_of_pos hc]
      omega
    · rw [List.countP_cons_of_neg hc]
      omega

/-- Bytes that are UTF-8 of one text and Latin-1 of another with as many characters beyond ASCII have none. -/
theorem isAscii_of_encodeUtf8 {s v : List Char} (hs : IsLatin1 s) (h : encodeUtf8 v = latin1Bytes s)
    (hcount : v.countP isAccented = s.countP isAccented) : IsAscii v := by
  have hutf8 := countP_isHigh_encodeUtf8 v
  rw [h, countP_isHigh_latin1Bytes hs] at hutf8
  exact isAscii_iff.2 (by omega)

/-- Bytes that are UTF-8 of a plain text are Latin-1 of that text only. -/
theorem eq_of_encodeUtf8 {s v : List Char} (hs : IsLatin1 s) (h : encodeUtf8 v = latin1Bytes s) (hv : IsAscii v) :
    v = s := by
  rw [encodeUtf8_of_isAscii hv] at h
  rw [← decodeLatin1_latin1Bytes hv.isLatin1, h, decodeLatin1_latin1Bytes hs]

end MsxWorkbench.Text
