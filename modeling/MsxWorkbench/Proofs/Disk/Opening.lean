import MsxWorkbench.Proofs.Disk.Chain
/-
# Which disks can be opened

Opening a disk reads six fields of its boot sector, of which the last ends with byte 23, and then the entries of the
directory, wherever the fields say that it lies. The fields are read just if the image has 24 bytes
(`readFields_bootLayout`). The entries end at one that starts with a zero or at the number that the boot sector gives, and
reading them fails if the image ends first (`readEntries_eq_iff`). An entry that the end of the image cuts short is still
read.
-/
namespace MsxWorkbench.Disk

variable {image : Array UInt8} {start : Nat}

/-! ## The boot sector -/

/-- The number of a byte of an image; zero behind its end. -/
def byteAt (image : Array UInt8) (i : Nat) : Nat := (image.getD i 0).toNat

/-- The number of a word of an image, low byte first. -/
def wordAt (image : Array UInt8) (i : Nat) : Nat := byteAt image i + 256 * byteAt image (i + 1)

/-- The geometry that the boot sector of an image gives. -/
def bootGeometry (image : Array UInt8) : Geometry where
  sectorsPerCluster := byteAt image 0x0D
  reservedSectors := wordAt image 0x0E
  fatCount := byteAt image 0x10
  rootEntries := wordAt image 0x11
  totalSectors := wordAt image 0x13
  sectorsPerFat := wordAt image 0x16

theorem readAt_of_le (h : image.size ≤ start) (count : Nat) : readAt image start count = [] := by
  rw [← List.length_eq_zero_iff, length_readAt]
  omega

theorem readAt_succ (h : start < image.size) (count : Nat) :
    readAt image start (count + 1) = image.getD start 0 :: readAt image (start + 1) count := by
  rw [readAt_eq, readAt_eq, List.drop_eq_getElem_cons (by simpa using h), List.take_succ_cons]
  simp [h]

theorem readField_byte (image : Array UInt8) (start : Nat) :
    readField image start 1 = if start < image.size then .ok (byteAt image start) else .error .beyondEnd := by
  rw [readField, if_pos rfl]
  by_cases h : start < image.size
  · simp [h, byteAt]
  · simp [h]

theorem readField_word (image : Array UInt8) (start : Nat) :
    readField image start 2 = if start + 1 < image.size then .ok (wordAt image start) else .error .shortWord := by
  rw [readField, if_neg (by decide)]
  by_cases hfirst : start < image.size
  · rw [readAt_succ hfirst]
    by_cases hsecond : start + 1 < image.size
    · rw [readAt_succ hsecond, readAt_eq, List.take_zero, if_pos hsecond]
      rfl
    · rw [readAt_of_le (Nat.le_of_not_lt hsecond), if_neg hsecond]
      rfl
  · rw [readAt_of_le (Nat.le_of_not_lt hfirst), if_neg (by omega)]
    rfl

/-- An image with all fields has the geometry that they give. -/
theorem readFields_bootLayout (h : 24 ≤ image.size) :
    ∃ fields, readFields image bootLayout = (fields, none) ∧ Geometry.ofFields? fields = some (bootGeometry image) := by
  simp (disch := omega) only [bootLayout, readFields, readField_byte, readField_word, if_pos]
  exact ⟨_, rfl, rfl⟩

/-- Fields that were all read lie inside the image. -/
theorem of_readFields {layout : List (Field × Nat × Nat)} (h : (readFields image layout).2 = none) :
    ∀ f ∈ layout, ∃ n, readField image f.2.1 f.2.2 = .ok n := by
  induction layout with
  | nil => intro f hf; cases hf
  | cons first layout ih =>
    obtain ⟨field, start, width⟩ := first
    rw [readFields] at h
    cases hfirst : readField image start width with
    | error e => rw [hfirst] at h; cases h
    | ok n =>
      rw [hfirst] at h
      exact List.forall_mem_cons.2 ⟨⟨n, hfirst⟩, ih h⟩

theorem readFields_bootLayout_iff : (readFields image bootLayout).2 = none ↔ 24 ≤ image.size := by
  constructor
  · intro h
    obtain ⟨n, hlast⟩ := of_readFields h (.sectorsPerFat, 0x16, 2) (by decide)
    rw [readField_word] at hlast
    split at hlast
    · assumption
    · cases hlast
  · intro h
    obtain ⟨fields, hfields, -⟩ := readFields_bootLayout h
    rw [hfields]

/-! ## The directory -/

/-- There are `n` entries from a place on: all of them start inside the image and not with a zero, and behind them there
is the limit or an entry that starts with a zero. -/
structure EntriesEnd (image : Array UInt8) (start limit n : Nat) : Prop where
  le : n ≤ limit
  used : ∀ i < n, start + 32 * i < image.size ∧ byteAt image (start + 32 * i) ≠ 0
  ends : n = limit ∨ start + 32 * n < image.size ∧ byteAt image (start + 32 * n) = 0

/-- The first `n` entries from a place on, each as long as the image goes. -/
def entrySlices (image : Array UInt8) (start n : Nat) : List Entry :=
  (List.range n).map fun i => readAt image (start + 32 * i) 32

theorem entrySlices_succ (image : Array UInt8) (start n : Nat) :
    entrySlices image start (n + 1) = readAt image start 32 :: entrySlices image (start + 32) n := by
  have hshift : ∀ i, start + 32 * (i + 1) = start + 32 + 32 * i := fun i => by omega
  simp [entrySlices, List.range_succ_eq_map, Function.comp_def, hshift]

theorem entriesEnd_succ {limit n : Nat} : EntriesEnd image start (limit + 1) (n + 1) ↔
    start < image.size ∧ byteAt image start ≠ 0 ∧ EntriesEnd image (start + 32) limit n := by
  have hshift : ∀ i, start + 32 * (i + 1) = start + 32 + 32 * i := fun i => by omega
  constructor
  · rintro ⟨hle, hused, hends⟩
    obtain ⟨hin, hne⟩ := hused 0 (Nat.succ_pos n)
    rw [hshift] at hends
    refine ⟨hin, hne, Nat.le_of_succ_le_succ hle, fun i hi => ?_, ?_⟩
    · rw [← hshift]
      exact hused (i + 1) (Nat.succ_lt_succ hi)
    · rwa [Nat.add_right_cancel_iff] at hends
  · rintro ⟨hin, hne, hle, hused, hends⟩
    refine ⟨Nat.succ_le_succ hle, fun i hi => ?_, ?_⟩
    · cases i with
      | zero => exact ⟨hin, hne⟩
      | succ i =>
        rw [hshift]
        exact hused i (Nat.lt_of_succ_lt_succ hi)
    · rwa [Nat.add_right_cancel_iff, hshift]

theorem entriesEnd_zero {limit : Nat} : EntriesEnd image start limit 0 ↔
    limit = 0 ∨ start < image.size ∧ byteAt image start = 0 := by
  constructor
  · intro h
    exact h.ends.imp_left Eq.symm
  · intro h
    exact ⟨Nat.zero_le _, fun i hi => absurd hi (Nat.not_lt_zero i), h.imp_left Eq.symm⟩

/-- What reading one more entry does: it fails behind the image, ends at a zero, and else goes on with the next entry. -/
theorem readEntries_succ_iff {limit : Nat} {entries : List Entry} :
    readEntries image (limit + 1) start = (entries, none) ↔ start < image.size ∧ (byteAt image start = 0 ∧ entries = [] ∨
      byteAt image start ≠ 0 ∧ ∃ more, readEntries image limit (start + 32) = (more, none) ∧
        entries = readAt image start 32 :: more) := by
  have hzero : image.getD start 0 = 0 ↔ byteAt image start = 0 := UInt8.toNat_inj.symm
  rw [readEntries]
  by_cases hin : start < image.size
  · rw [readAt_succ hin]
    by_cases hbyte : byteAt image start = 0
    · simp only [hin, hbyte, hzero, if_true, Prod.mk.injEq, true_and, and_true, not_true, false_and, or_false, ne_eq]
      exact eq_comm
    · simp only [hin, hbyte, hzero, if_false, Prod.mk.injEq, true_and, false_and, false_or, not_false_iff, ne_eq]
      constructor
      · rintro ⟨rfl, hnone⟩
        exact ⟨_, Prod.ext rfl hnone, rfl⟩
      · rintro ⟨more, hmore, rfl⟩
        rw [hmore]
        exact ⟨rfl, rfl⟩
  · rw [readAt_of_le (Nat.le_of_not_lt hin)]
    simp [hin]

/-- The entries are read just if they end, and then they are those in front of the end. -/
theorem readEntries_eq_iff {limit : Nat} {entries : List Entry} : readEntries image limit start = (entries, none) ↔
    ∃ n, EntriesEnd image start limit n ∧ entries = entrySlices image start n := by
  induction limit generalizing start entries with
  | zero =>
    constructor
    · intro h
      cases h
      exact ⟨0, entriesEnd_zero.2 (Or.inl rfl), rfl⟩
    · rintro ⟨n, hends, rfl⟩
      obtain rfl : n = 0 := Nat.le_zero.1 hends.le
      rfl
  | succ limit ih =>
    rw [readEntries_succ_iff]
    constructor
    · rintro ⟨hin, ⟨hzero, rfl⟩ | ⟨hne, more, hmore, rfl⟩⟩
      · exact ⟨0, entriesEnd_zero.2 (Or.inr ⟨hin, hzero⟩), rfl⟩
      · obtain ⟨n, hends, rfl⟩ := ih.1 hmore
        exact ⟨n + 1, entriesEnd_succ.2 ⟨hin, hne, hends⟩, (entrySlices_succ image start n).symm⟩
    · rintro ⟨n, hends, rfl⟩
      cases n with
      | zero =>
        obtain hlimit | ⟨hin, hzero⟩ := entriesEnd_zero.1 hends
        · cases hlimit
        · exact ⟨hin, Or.inl ⟨hzero, rfl⟩⟩
      | succ n =>
        obtain ⟨hin, hne, hmore⟩ := entriesEnd_succ.1 hends
        exact ⟨hin, Or.inr ⟨hne, _, ih.2 ⟨n, hmore, rfl⟩, entrySlices_succ image start n⟩⟩

/-! ## Opening -/

/-- The directory of an image ends behind `n` entries, by the geometry that the boot sector gives. -/
def DirectoryEnds (image : Array UInt8) (n : Nat) : Prop :=
  EntriesEnd image (bootGeometry image).directoryOffset (bootGeometry image).rootEntries n

/-- The first `n` entries of the directory of an image. -/
def directoryEntries (image : Array UInt8) (n : Nat) : List Entry :=
  entrySlices image (bootGeometry image).directoryOffset n

namespace Volume

theorem size_of_openDisk {v : Volume} (h : v.openDisk.2 = none) : 24 ≤ v.image.size := by
  rw [← readFields_bootLayout_iff]
  rw [openDisk] at h
  cases hfields : readFields v.image bootLayout with
  | mk fields e? =>
    rw [hfields] at h
    cases e? with
    | none => rfl
    | some e => cases h

theorem openDisk_of_size {v : Volume} (h : 24 ≤ v.image.size) :
    (v.openDisk.1.entries, v.openDisk.2) =
      readEntries v.image (bootGeometry v.image).rootEntries (bootGeometry v.image).directoryOffset := by
  obtain ⟨fields, hfields, hgeometry⟩ := readFields_bootLayout h
  rw [openDisk, hfields]
  dsimp only
  rw [hgeometry]

/-- **A disk is opened** just if its image has the 24 bytes of the fields and its directory ends inside it: at an entry
that starts with a zero or at the number of entries that the boot sector gives. Its entries are then those in front of the
end, of 32 bytes each, or fewer where the image ends. -/
theorem openDisk_succeeds_iff (v : Volume) :
    (v.openDisk.2 = none ↔ 24 ≤ v.image.size ∧ ∃ n, DirectoryEnds v.image n) ∧
      ∀ n, v.openDisk.2 = none → DirectoryEnds v.image n → v.openDisk.1.entries = directoryEntries v.image n := by
  refine ⟨⟨fun hopen => ?_, ?_⟩, fun n hopen hends => ?_⟩
  · have hsize := size_of_openDisk hopen
    have hread := openDisk_of_size hsize
    rw [hopen] at hread
    obtain ⟨n, hends, -⟩ := readEntries_eq_iff.1 hread.symm
    exact ⟨hsize, n, hends⟩
  · rintro ⟨hsize, n, hends⟩
    have hread := openDisk_of_size hsize
    rw [readEntries_eq_iff.2 ⟨n, hends, rfl⟩] at hread
    exact congrArg Prod.snd hread
  · have hread := openDisk_of_size (size_of_openDisk hopen)
    rw [readEntries_eq_iff.2 ⟨n, hends, rfl⟩] at hread
    exact congrArg Prod.fst hread

/-- A disk that is all boot sector and ends with its fields. The directory is to have one entry and starts there too. -/
def shortDisk : Volume where
  image := #[65, 66, 32, 32, 32, 32, 32, 32, 32, 32, 32, 0, 0, 1, 0, 0, 0, 1, 0, 0, 0, 0, 1, 0]

/-- It is opened, with an entry of 24 bytes. -/
theorem openDisk_succeeds_iff_short : DirectoryEnds shortDisk.image 1 ∧ shortDisk.openDisk.2 = none ∧
    shortDisk.openDisk.1.entries = [shortDisk.image.toList] := by
  have hends : DirectoryEnds shortDisk.image 1 := ⟨by decide, by decide, Or.inl (by decide)⟩
  obtain ⟨hiff, hentries⟩ := openDisk_succeeds_iff shortDisk
  have hopen : shortDisk.openDisk.2 = none := hiff.2 ⟨by decide, 1, hends⟩
  exact ⟨hends, hopen, (hentries 1 hopen hends).trans (by decide)⟩

end Volume

end MsxWorkbench.Disk
