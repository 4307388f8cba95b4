import MsxWorkbench.Picture.Layout
/-
# Packed patterns

A sequence of bytes has many packed forms, because a run of 0x00 or 0xFF may be cut into pieces (`Packs`).
Unpacking is stopped by its counter, by the room that is left and by the end of the file. On a packed form the
first two last at least as long as the third (`Packs.unpack_eq`), so every packed form is unpacked to the bytes it was
made from (`decodeLayout_packed`).
-/
namespace MsxWorkbench.Picture

@[simp] theorem unpackByte_packByte (b : UInt8) : unpackByte (packByte b) = b := UInt8.add_sub_cancel b 0x99

/-- Unpacking stops when there is no more room. -/
theorem length_unpack_le (counter room : Nat) (packed : List UInt8) : (unpack counter room packed).length ≤ room := by
  fun_induction unpack counter room packed with
  | case1 => exact Nat.zero_le _
  | case2 => exact Nat.zero_le _
  | case3 => exact Nat.zero_le _
  | case4 => exact Nat.zero_le _
  | case5 counter room raw value hcounted count rest n ih =>
    have hn : n ≤ room + 1 := Nat.min_le_right _ _
    rw [List.length_append, List.length_replicate]
    omega
  | case6 counter room raw rest value hcounted ih =>
    rw [List.length_cons]
    omega

/-! ## Packed forms -/

/-- The second sequence is a packed form of the first: a byte that is not counted is packed alone, and a run of a
counted one is cut into pieces, each packed with its length. -/
inductive Packs : List UInt8 → List UInt8 → Prop
  | nil : Packs [] []
  | plain {v : UInt8} {bytes packed : List UInt8} : isCounted v = false → Packs bytes packed →
      Packs (v :: bytes) (packByte v :: packed)
  | piece {v count : UInt8} {bytes packed : List UInt8} : isCounted v = true → 0 < count → Packs bytes packed →
      Packs (List.replicate count.toNat v ++ bytes) (packByte v :: count :: packed)

namespace Packs

variable {bytes packed : List UInt8}

/-- A packed form takes at most two bytes for each byte. -/
theorem length_le (h : Packs bytes packed) : packed.length ≤ 2 * bytes.length := by
  induction h with
  | nil => simp
  | plain _ _ ih =>
    simp only [List.length_cons]
    omega
  | @piece v count _ _ _ hcount _ ih =>
    have hpos : 0 < count.toNat := UInt8.lt_iff_toNat_lt.1 hcount
    simp only [List.length_cons, List.length_append, List.length_replicate]
    omega

/-- Neither the counter nor the room stops the unpacking of a packed form before its end: a token takes one from the
counter and at least one byte of the form, and from the room as many bytes as it stands for. -/
theorem unpack_eq (h : Packs bytes packed) : ∀ {counter room : Nat}, packed.length ≤ counter →
    bytes.length ≤ room → unpack counter room packed = bytes := by
  induction h with
  | nil =>
    intro counter room _ _
    cases counter <;> cases room <;> simp [unpack]
  | plain hv _ ih =>
    intro counter room hcounter hroom
    rw [List.length_cons] at hcounter hroom
    obtain ⟨counter, rfl⟩ := Nat.exists_eq_add_one.2 (Nat.zero_lt_of_lt hcounter)
    obtain ⟨room, rfl⟩ := Nat.exists_eq_add_one.2 (Nat.zero_lt_of_lt hroom)
    simp only [unpack, unpackByte_packByte, hv, Bool.false_eq_true, if_false]
    rw [ih (Nat.le_of_succ_le_succ hcounter) (Nat.le_of_succ_le_succ hroom)]
  | @piece v count bytes packed hv hcount _ ih =>
    intro counter room hcounter hroom
    have hpos : 0 < count.toNat := UInt8.lt_iff_toNat_lt.1 hcount
    simp only [List.length_cons, List.length_append, List.length_replicate] at hcounter hroom
    obtain ⟨counter, rfl⟩ : ∃ n, counter = n + 1 := Nat.exists_eq_add_one.2 (by omega)
    obtain ⟨room, rfl⟩ : ∃ n, room = n + 1 := Nat.exists_eq_add_one.2 (by omega)
    have hfits : min count.toNat (room + 1) = count.toNat := Nat.min_eq_left (by omega)
    simp only [unpack, unpackByte_packByte, hv, if_true, hfits]
    rw [ih (by omega) (by omega)]

end Packs

/-! ## Layout files -/

/-- A layout file with packed bytes: three bytes, the address of the last packed byte, low half first, two more bytes
and the packed bytes, the first of which has the address 0x9200. -/
def layoutFile (first : UInt8 × UInt8 × UInt8) (second : UInt8 × UInt8) (packed : List UInt8) : List UInt8 :=
  let last := 0x9200 + packed.length - 1
  [first.1, first.2.1, first.2.2, UInt8.ofNat (last % 256), UInt8.ofNat (last / 256), second.1, second.2] ++ packed

theorem packedCount_halves {last : Nat} (h : last < 0x10000) :
    packedCount (UInt8.ofNat (last % 256)) (UInt8.ofNat (last / 256)) = last + 1 - 0x9200 := by
  have hlow : (UInt8.ofNat (last % 256)).toNat = last % 256 :=
    UInt8.toNat_ofNat_of_lt (show last % 256 < 256 by omega)
  have hhigh : (UInt8.ofNat (last / 256)).toNat = last / 256 :=
    UInt8.toNat_ofNat_of_lt (show last / 256 < 256 by omega)
  unfold packedCount
  omega

/-- **Unpacking undoes packing.** A layout file with a packed form of at most as many bytes as a screen has patterns
holds these bytes, filled up with zeros. -/
theorem decodeLayout_packed {bytes packed : List UInt8} (h : Packs bytes packed) (hlength : bytes.length ≤ patternBytes)
    (first : UInt8 × UInt8 × UInt8) (second : UInt8 × UInt8) :
    decodeLayout (layoutFile first second packed) =
      .ok (bytes ++ List.replicate (patternBytes - bytes.length) 0) := by
  have hpacked : packed.length ≤ 0x3000 := by
    have hle := h.length_le
    unfold patternBytes at hlength
    omega
  have hlast : 0x9200 + packed.length - 1 < 0x10000 := by omega
  have hcount : packed.length ≤ 0x9200 + packed.length - 1 + 1 - 0x9200 := by omega
  simp only [layoutFile, List.cons_append, List.nil_append, decodeLayout, List.drop_succ_cons, List.drop_zero]
  rw [packedCount_halves hlast, h.unpack_eq hcount hlength]

/-- A run of three zeros in two pieces, a byte that is not counted and a run of 0xFF. -/
theorem decodeLayout_packed_pieces :
    decodeLayout [0, 0, 0, 6, 0x92, 0, 0, 0x99, 2, 0x99, 1, 0xDA, 0x98, 255] =
      .ok ([0, 0, 0, 0x41] ++ List.replicate 255 0xFF ++ List.replicate 5885 0) := by
  have hrun : Packs (List.replicate 255 0xFF ++ []) [0x98, 255] :=
    @Packs.piece 0xFF 255 _ _ rfl (by decide) .nil
  have hpacks : Packs ([0, 0, 0, 0x41] ++ (List.replicate 255 0xFF ++ [])) [0x99, 2, 0x99, 1, 0xDA, 0x98, 255] :=
    @Packs.piece 0 2 _ _ rfl (by decide) (@Packs.piece 0 1 _ _ rfl (by decide) (@Packs.plain 0x41 _ _ rfl hrun))
  have hlength : ([0, 0, 0, 0x41] ++ (List.replicate 255 (0xFF : UInt8) ++ [])).length = 259 := by
    rw [List.append_nil, List.length_append, List.length_replicate]
    rfl
  have hdecoded := decodeLayout_packed hpacks (by rw [hlength]; decide) (0, 0, 0) (0, 0)
  rw [hlength, List.append_nil] at hdecoded
  exact hdecoded

end MsxWorkbench.Picture
