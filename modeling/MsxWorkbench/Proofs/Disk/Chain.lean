import MsxWorkbench.Proofs.Disk.Copying
/-
# Chains of clusters

A file lies in clusters that the table links. `Covers` says that a chain of them is long enough for the size of
the file, and no longer than it has to be, and that the image has the bytes. Then the extraction writes the
file (`extract_chain`). An extraction that reports success has written all of the file exactly when such a
chain is there or the file is empty (`extract_size_iff`); otherwise it has written less.
-/
namespace MsxWorkbench.Disk

/-! ## Bytes of an image -/

theorem readAt_eq (image : Array UInt8) (start count : Nat) :
    readAt image start count = (image.toList.drop start).take count := by
  simp [readAt]

theorem take_readAt (image : Array UInt8) (start count n : Nat) :
    (readAt image start count).take n = readAt image start (min n count) := by
  rw [readAt_eq, readAt_eq, List.take_take]

theorem length_readAt (image : Array UInt8) (start count : Nat) :
    (readAt image start count).length = min count (image.size - start) := by
  simp [readAt_eq]

/-- A reading is full if and only if the image does not end before. -/
theorem length_readAt_eq_iff {image : Array UInt8} {start count : Nat} (hcount : count ≠ 0) :
    (readAt image start count).length = count ↔ start + count ≤ image.size := by
  rw [length_readAt]
  omega

namespace Volume

variable {v : Volume} {g : Geometry}

/-! ## Chains -/

/-- The bytes of a cluster, as many as the image has. -/
def cluster (v : Volume) (g : Geometry) (c : Nat) : List UInt8 := readAt v.image (g.clusterStart c) g.clusterBytes

/-- A chain of clusters from the first one on is just long enough for `size` bytes: the table links the
clusters and has an entry for the last one, too, and the image has all bytes that are needed. -/
structure Covers (v : Volume) (g : Geometry) (first size : Nat) (chain : List Nat) : Prop where
  first : chain.head? = some first
  data : ∀ c ∈ chain, isDataCluster c = true
  linked : chain.IsChain fun (c next : Nat) => v.fatEntry c = .ok next
  last : ∀ c, chain.getLast? = some c → ∃ next, v.fatEntry c = .ok next
  needed : (chain.length - 1) * g.clusterBytes < size
  enough : size ≤ chain.length * g.clusterBytes
  inside : ∀ i c, chain[i]? = some c →
    g.clusterStart c + min g.clusterBytes (size - i * g.clusterBytes) ≤ v.image.size

theorem covers_single_iff {first size c : Nat} : v.Covers g first size [c] ↔
    c = first ∧ isDataCluster c = true ∧ (∃ next, v.fatEntry c = .ok next) ∧ 0 < size ∧ size ≤ g.clusterBytes ∧
      g.clusterStart c + size ≤ v.image.size := by
  constructor
  · intro h
    have hneeded := h.needed
    have henough := h.enough
    have hinside := h.inside 0 c rfl
    simp only [List.length_singleton, Nat.one_mul, Nat.zero_mul, Nat.sub_zero] at hneeded henough hinside
    rw [Nat.min_eq_right henough] at hinside
    exact ⟨Option.some.inj h.first, h.data c List.mem_cons_self, h.last c rfl, by omega, henough, hinside⟩
  · rintro ⟨rfl, hdata, hlast, hpos, henough, hinside⟩
    refine ⟨rfl, by simpa using hdata, .singleton _, by simpa using hlast, by simpa using hpos, by simpa using henough, ?_⟩
    intro i d hd
    obtain ⟨rfl, rfl⟩ : i = 0 ∧ d = c := by
      cases i with
      | zero => exact ⟨rfl, (Option.some.inj hd).symm⟩
      | succ i => cases hd
    simpa [Nat.min_eq_right henough] using hinside

theorem covers_cons_iff {first size c next : Nat} {rest : List Nat} : v.Covers g first size (c :: next :: rest) ↔
    c = first ∧ isDataCluster c = true ∧ v.fatEntry c = .ok next ∧ g.clusterBytes < size ∧
      g.clusterStart c + g.clusterBytes ≤ v.image.size ∧
      v.Covers g next (size - g.clusterBytes) (next :: rest) := by
  have hsub : ∀ i, size - g.clusterBytes - i * g.clusterBytes = size - (i + 1) * g.clusterBytes := by
    intro i
    rw [Nat.succ_mul]
    omega
  constructor
  · intro h
    have hneeded := h.needed
    have henough := h.enough
    have hinside := h.inside 0 c rfl
    simp only [List.length_cons, Nat.add_sub_cancel, Nat.succ_mul] at hneeded henough
    have hlt : g.clusterBytes < size := by omega
    rw [Nat.zero_mul, Nat.sub_zero, Nat.min_eq_left hlt.le] at hinside
    obtain ⟨hlink, hlinked⟩ := List.isChain_cons_cons.1 h.linked
    refine ⟨Option.some.inj h.first, h.data c List.mem_cons_self, hlink, hlt, hinside, rfl,
      fun d hd => h.data d (List.mem_cons_of_mem _ hd), hlinked, fun d hd => h.last d ?_, ?_, ?_, fun i d hd => ?_⟩
    · rw [List.getLast?_cons_cons, hd]
    · simp only [List.length_cons, Nat.add_sub_cancel]
      omega
    · simp only [List.length_cons, Nat.succ_mul]
      omega
    · rw [hsub]
      exact h.inside (i + 1) d hd
  · rintro ⟨rfl, hdata, hlink, hlt, hinside, h⟩
    have hneeded := h.needed
    have henough := h.enough
    simp only [List.length_cons, Nat.add_sub_cancel, Nat.succ_mul] at hneeded henough
    refine ⟨rfl, ?_, List.isChain_cons_cons.2 ⟨hlink, h.linked⟩, fun d hd => h.last d ?_, ?_, ?_, fun i d hd => ?_⟩
    · intro d hd
      rcases List.mem_cons.1 hd with rfl | hd
      · exact hdata
      · exact h.data d hd
    · rw [List.getLast?_cons_cons] at hd
      exact hd
    · simp only [List.length_cons, Nat.add_sub_cancel, Nat.succ_mul]
      omega
    · simp only [List.length_cons, Nat.succ_mul]
      omega
    · cases i with
      | zero =>
        cases hd
        rw [Nat.zero_mul, Nat.sub_zero, Nat.min_eq_left hlt.le]
        exact hinside
      | succ i =>
        rw [← hsub]
        exact h.inside i d hd

theorem Covers.clusterBytes_pos {first size : Nat} {chain : List Nat} (h : v.Covers g first size chain) :
    0 < g.clusterBytes := by
  by_contra hzero
  have hneeded := h.needed
  have henough := h.enough
  rw [Nat.eq_zero_of_not_pos hzero] at hneeded henough
  omega

theorem Covers.length_le {first size : Nat} {chain : List Nat} (h : v.Covers g first size chain) :
    chain.length ≤ size := by
  have hneeded := h.needed
  have hle : (chain.length - 1) * 1 ≤ (chain.length - 1) * g.clusterBytes := Nat.mul_le_mul_left _ h.clusterBytes_pos
  omega

theorem Covers.isDataCluster_first {first size : Nat} {chain : List Nat} (h : v.Covers g first size chain) :
    isDataCluster first = true := h.data first (List.mem_of_head? h.first)

/-- A chain from a cluster on is a part of it and, if more bytes are left, a chain from the next one on. -/
theorem exists_covers_iff {first size next : Nat} (hsize : size ≠ 0) (hdata : isDataCluster first = true)
    (hnext : v.fatEntry first = .ok next) : (∃ chain, v.Covers g first size chain) ↔
      0 < g.clusterBytes ∧ g.clusterStart first + min size g.clusterBytes ≤ v.image.size ∧
        (size - g.clusterBytes = 0 ∨ ∃ chain, v.Covers g next (size - g.clusterBytes) chain) := by
  constructor
  · rintro ⟨chain, h⟩
    refine ⟨h.clusterBytes_pos, ?_⟩
    match chain, h with
    | [], h => cases h.first
    | [c], h =>
      obtain ⟨rfl, -, -, -, henough, hinside⟩ := covers_single_iff.1 h
      exact ⟨by rwa [Nat.min_eq_left henough], .inl (by omega)⟩
    | c :: d :: rest, h =>
      obtain ⟨rfl, -, hlink, hlt, hinside, hrest⟩ := covers_cons_iff.1 h
      obtain rfl : next = d := Except.ok.inj (hnext.symm.trans hlink)
      exact ⟨by rwa [Nat.min_eq_right hlt.le], .inr ⟨_, hrest⟩⟩
  · rintro ⟨hpos, hinside, hleft | ⟨chain, h⟩⟩
    · have henough : size ≤ g.clusterBytes := by omega
      rw [Nat.min_eq_left henough] at hinside
      exact ⟨[first], covers_single_iff.2 ⟨rfl, hdata, ⟨next, hnext⟩, by omega, henough, hinside⟩⟩
    · match chain, h with
      | [], h => cases h.first
      | d :: rest, h =>
        obtain rfl : d = next := Option.some.inj h.first
        have hneeded := h.needed
        have hlt : g.clusterBytes < size := by omega
        rw [Nat.min_eq_right hlt.le] at hinside
        exact ⟨first :: d :: rest, covers_cons_iff.2 ⟨rfl, hdata, hnext, hlt, hinside, h⟩⟩

/-! ## Copying along a chain -/

/-- The loop copies the clusters of a chain, the last one as far as it is needed. -/
theorem Covers.copy_eq {chain : List Nat} : ∀ {first size fuel : Nat} {written : Array UInt8},
    v.Covers g first size chain → chain.length < fuel →
      v.copy g fuel ⟨size, first, written⟩ =
        .complete (written ++ ((chain.flatMap (v.cluster g)).take size).toArray) := by
  induction chain with
  | nil => intro first size fuel written h; cases h.first
  | cons c rest ih =>
    intro first size fuel written h hfuel
    obtain ⟨fuel, rfl⟩ : ∃ n, fuel = n + 1 := ⟨fuel - 1, by omega⟩
    cases rest with
    | nil =>
      obtain ⟨rfl, hdata, ⟨next, hnext⟩, hpos, henough, -⟩ := covers_single_iff.1 h
      have hpos' : 0 < fuel := by simpa using hfuel
      obtain ⟨fuel, rfl⟩ : ∃ n, fuel = n + 1 := ⟨fuel - 1, by omega⟩
      rw [copy, copyStep_of_ok (c := ⟨size, c, written⟩) (Nat.ne_of_gt hpos) hdata hnext]
      simp only [copy, copied, part, Nat.min_eq_left henough, Nat.sub_self]
      rw [copyStep_of_over (.inl rfl)]
      simp [cluster, take_readAt, Nat.min_eq_left henough]
    | cons next rest =>
      obtain ⟨rfl, hdata, hnext, hlt, hinside, hrest⟩ := covers_cons_iff.1 h
      have hlength : (v.cluster g c).length = g.clusterBytes :=
        (length_readAt_eq_iff (Nat.ne_of_gt h.clusterBytes_pos)).2 hinside
      rw [copy, copyStep_of_ok (c := ⟨size, c, written⟩) (Nat.ne_of_gt (Nat.zero_lt_of_lt hlt)) hdata hnext]
      simp only [copied, part, Nat.min_eq_right hlt.le]
      have htake : ((c :: next :: rest).flatMap (v.cluster g)).take size =
          v.cluster g c ++ ((next :: rest).flatMap (v.cluster g)).take (size - g.clusterBytes) := by
        rw [List.flatMap_cons, List.take_append, hlength, List.take_of_length_le (by omega)]
      rw [ih hrest (by simpa using hfuel), htake]
      simp [cluster]

/-- What a loop that finishes has written: at most the bytes that were left, and all of them exactly when a
chain covers them. -/
theorem of_copy_complete {fuel : Nat} : ∀ {c : Copying} {written : Array UInt8}, v.copy g fuel c = .complete written →
    ∃ new : List UInt8, written = c.written ++ new.toArray ∧ new.length ≤ c.left ∧
      (new.length = c.left ↔ c.left = 0 ∨ ∃ chain, v.Covers g c.cluster c.left chain) := by
  induction fuel with
  | zero => intro c written h; cases h
  | succ fuel ih =>
    intro c written h
    rw [copy] at h
    rcases copyStep_cases v g c with ⟨hover, hstep⟩ | ⟨hleft, hdata, ⟨x, -, hstep⟩ | ⟨next, hnext, hstep⟩⟩
    · rw [hstep] at h
      cases h
      refine ⟨[], by simp, by simp, fun hzero => .inl hzero.symm, ?_⟩
      rintro (hzero | ⟨chain, hchain⟩)
      · exact hzero.symm
      · rw [hchain.isDataCluster_first] at hover
        exact (by simpa using hover : c.left = 0).symm
    · rw [hstep] at h; cases h
    · rw [hstep] at h
      obtain ⟨new, hwritten, hle, hall⟩ := ih h
      have hpart : (v.part g c).length ≤ min c.left g.clusterBytes := by
        rw [part, length_readAt]
        exact Nat.min_le_left _ _
      simp only [copied] at hwritten hle hall
      refine ⟨v.part g c ++ new, ?_, ?_, ?_⟩
      · rw [hwritten]
        simp
      · rw [List.length_append]
        omega
      · -- both the part and the rest have to be full
        have hsplit : (v.part g c ++ new).length = c.left ↔ (v.part g c).length = min c.left g.clusterBytes ∧
            new.length = c.left - min c.left g.clusterBytes := by
          rw [List.length_append]
          omega
        rw [hsplit, hall, exists_covers_iff hleft hdata hnext]
        have hsub : c.left - min c.left g.clusterBytes = c.left - g.clusterBytes := by omega
        rw [hsub]
        by_cases hlength : g.clusterBytes = 0
        · simp only [hlength, hleft, Nat.sub_zero, false_or, Nat.lt_irrefl, false_and, iff_false, not_and]
          rintro - ⟨chain, hchain⟩
          exact Nat.ne_of_gt hchain.clusterBytes_pos hlength
        · rw [part, length_readAt_eq_iff (by omega)]
          simp [hleft, Nat.pos_of_ne_zero hlength]

end Volume

/-! ## Extracted files -/

/-- The entry that is found on a disk that was opened is listed with its size. -/
theorem Volume.shows_of_find? {v : Volume} (hhead : ∀ e ∈ v.entries, e.head? ≠ some 0) {name : List Char} {e : Entry}
    (hfind : v.find? name = some e) {size : Nat} (hsize : e.longWord 28 = .ok size) :
    ∃ r, e.Shows r ∧ r.size = size := by
  have hname : e.fileName?.isSome = true := by
    have hnamed := List.find?_some hfind
    cases hfile : e.fileName? with
    | none => simp [hfile] at hnamed
    | some text => rfl
  have hlisted := Entry.isListed_of_fileName? (hhead e (List.mem_of_find?_eq_some hfind)) hname
  obtain ⟨time, htime⟩ := Entry.word_of_longWord hsize (show 22 ≤ 30 by decide)
  obtain ⟨date, hdate⟩ := Entry.word_of_longWord hsize (show 24 ≤ 30 by decide)
  obtain ⟨text, htext⟩ := Option.isSome_iff_exists.1 hname
  have hrecord : e.record = .ok (some ⟨text, size, dateText date, timeText time⟩) := by
    rw [Entry.isListed, Bool.and_eq_true, Bool.not_eq_true'] at hlisted
    rw [Entry.record, if_neg (by simp [hlisted.1]), htext]
    simp only [hsize, htime, hdate]
    rfl
  exact ⟨_, ⟨hrecord, htext, hsize⟩, rfl⟩

section
variable {disk v : Volume}

/-- On a disk that was opened, the extraction of a file whose chain covers its size succeeds, whatever the
entry of the last cluster is, and gives the bytes of the clusters up to that size. The extraction of an empty
file gives an empty one. -/
theorem extract_chain (hopen : disk.openDisk = (v, none)) :
    ∃ g, v.geometry? = some g ∧ ∀ name e first size, v.find? name = some e → e.word 26 = .ok first →
      e.longWord 28 = .ok size →
        (size = 0 → v.extract name = .complete #[]) ∧
        ∀ chain, v.Covers g first size chain →
          v.extract name = .complete ((chain.flatMap (v.cluster g)).take size).toArray ∧
            ((chain.flatMap (v.cluster g)).take size).length = size := by
  obtain ⟨⟨g, hg, -⟩, -⟩ := Volume.of_openDisk hopen
  refine ⟨g, hg, fun name e first size hfind hfirst hsize => ?_⟩
  have hstart : v.Starts name ⟨size, first, #[]⟩ := ⟨⟨e, hfind, hfirst, hsize⟩, rfl⟩
  have hextract := hstart.extract_eq hg
  constructor
  · rintro rfl
    rw [hextract, Volume.copy, Volume.copyStep_of_over (.inl rfl)]
  · intro chain hchain
    have hcopy : v.copy g (size + 4097) ⟨size, first, #[]⟩ =
        .complete (#[] ++ ((chain.flatMap (v.cluster g)).take size).toArray) :=
      hchain.copy_eq (by have := hchain.length_le; omega)
    obtain ⟨new, hnew, -, hall⟩ := Volume.of_copy_complete hcopy
    have hbytes : (chain.flatMap (v.cluster g)).take size = new := by simpa using hnew
    exact ⟨by simpa using hextract.trans hcopy, hbytes ▸ hall.2 (.inr ⟨chain, hchain⟩)⟩

/-- A file of one whole cluster and two bytes. -/
def linkedFile : List UInt8 := List.replicate 512 7 ++ [8, 9]

/-- A disk with this file in two clusters of one sector. The table leads from the first one to the second, behind whose
part of the file there is another byte. -/
def linkedDisk : Volume where
  image := ([0, 0, 0, 3, 0xF0, 0xFF, 0, 0, 0, 0, 0, 0, 0, 1, 0, 0, 1, 1, 0, 0, 0, 0, 1, 0] ++ List.replicate 488 0 ++
    [65, 66, 32, 32, 32, 32, 32, 32, 32, 32, 32, 0, 0, 0, 0, 0, 0, 0, 0, 0, 0, 0, 0, 0, 0, 0, 2, 0, 2, 2, 0, 0] ++
    linkedFile ++ [10]).toArray

/-- An entry of a table that is a part of an image, with the parts taken as lists: these can be computed. -/
theorem Volume.fatEntry_of_extract {image : Array UInt8} {start stop : Nat} {c : Int} {n : Nat}
    (hfat : v.fat = some (image.extract start stop))
    (hword : (word? ((image.toList.extract start stop).extract (place (min stop image.size - start) (Fat.wordIndex c))
      (place (min stop image.size - start) (Fat.wordIndex c + 2)))).map (fun w =>
        if Int.fmod c 2 = 1 then w / 16 else w % 4096) = some n) : v.fatEntry c = .ok n := by
  have hentry : Fat.entry? (image.extract start stop) c = some n := by
    rw [Fat.entry?, Fat.wordBytes, Array.toList_extract, Array.toList_extract, Array.size_extract]
    exact hword
  rw [fatEntry, hfat]
  dsimp only
  rw [hentry]

theorem openDisk_linkedDisk : linkedDisk.openDisk.2 = none ∧
    Volume.geometry? linkedDisk.openDisk.1 = some ⟨1, 0, 1, 1, 0, 1⟩ ∧ linkedDisk.image.size = 1059 ∧
    ((linkedDisk.openDisk.1.find? "AB".toList).map fun e => (e.word 26, e.longWord 28)) = some (.ok 2, .ok 514) := by
  decide +kernel

/-- The whole first cluster is extracted, and of the second one as much as the file has. -/
theorem extract_chain_linked : ∃ v, linkedDisk.openDisk = (v, none) ∧ v.fatEntry (2 : Nat) = .ok 3 ∧
    v.fatEntry (3 : Nat) = .ok 0xFFF ∧ v.extract "AB".toList = .complete linkedFile.toArray := by
  obtain ⟨hnone, hgeometry, hsize, hentry⟩ := openDisk_linkedDisk
  generalize hopen : linkedDisk.openDisk = opened at hnone hgeometry hentry ⊢
  obtain ⟨v, fault⟩ := opened
  obtain rfl : fault = none := hnone
  obtain ⟨⟨g, hg, himage, hfat⟩, -⟩ := Volume.of_openDisk hopen
  obtain ⟨g', hg', hextract⟩ := extract_chain hopen
  obtain rfl := Option.some.inj (hg.symm.trans hgeometry)
  obtain rfl := Option.some.inj (hg'.symm.trans hg)
  have hlink : v.fatEntry (2 : Nat) = .ok 3 := Volume.fatEntry_of_extract hfat (by decide +kernel)
  have hlast : v.fatEntry (3 : Nat) = .ok 0xFFF := Volume.fatEntry_of_extract hfat (by decide +kernel)
  have hbytes : ([2, 3].flatMap (v.cluster ⟨1, 0, 1, 1, 0, 1⟩)).take 514 = linkedFile := by
    simp only [List.flatMap_cons, List.flatMap_nil, Volume.cluster, readAt_eq, himage]
    decide +kernel
  obtain ⟨e, hfind, hwords⟩ := Option.map_eq_some_iff.1 hentry
  obtain ⟨hfirst, hlength⟩ := Prod.mk.inj hwords
  have hcovers : v.Covers ⟨1, 0, 1, 1, 0, 1⟩ 2 514 [2, 3] :=
    Volume.covers_cons_iff.2 ⟨rfl, rfl, hlink, by decide, by rw [himage, hsize]; decide,
      Volume.covers_single_iff.2 ⟨rfl, rfl, ⟨_, hlast⟩, by decide, by decide, by rw [himage, hsize]; decide⟩⟩
  have hcomplete := ((hextract _ e 2 514 hfind hfirst hlength).2 _ hcovers).1
  rw [hbytes] at hcomplete
  exact ⟨v, rfl, hlink, hlast, hcomplete⟩

/-- A disk with one file of four bytes in a cluster of one sector, of which the image has only `data`. The table
leads from it to another cluster. -/
def oneFileDisk (data : List UInt8) : Volume where
  image := ([65, 66, 32, 32, 32, 32, 32, 32, 32, 32, 32, 0, 0, 1, 0, 0, 0, 1, 0, 0, 0, 0, 1, 0, 0, 0, 2, 0, 4, 0, 0, 0] ++
    data).toArray

/-- On a disk that was opened, an extraction that succeeds writes at most as many bytes as the listing shows
for the file. It writes all of them if and only if the file is empty or a chain covers its size. -/
theorem extract_size_iff (hopen : disk.openDisk = (v, none)) :
    ∃ g, v.geometry? = some g ∧ ∀ name written, v.extract name = .complete written →
      ∃ e r first, v.find? name = some e ∧ e.Shows r ∧ e.word 26 = .ok first ∧ written.size ≤ r.size ∧
        (written.size = r.size ↔ r.size = 0 ∨ ∃ chain, v.Covers g first r.size chain) := by
  obtain ⟨⟨g, hg, -⟩, hhead⟩ := Volume.of_openDisk hopen
  refine ⟨g, hg, fun name written hcomplete => ?_⟩
  rcases v.extract_cases name with hmissing | ⟨x, hunreadable⟩ | ⟨start, hstart⟩
  · rw [hmissing] at hcomplete; cases hcomplete
  · rw [hunreadable] at hcomplete; cases hcomplete
  · rw [hstart.extract_eq hg] at hcomplete
    obtain ⟨⟨e, hfind, hfirst, hsize⟩, hwritten⟩ := hstart
    obtain ⟨r, hshows, hr⟩ := Volume.shows_of_find? hhead hfind hsize
    obtain ⟨new, rfl, hle, hall⟩ := Volume.of_copy_complete hcomplete
    refine ⟨e, r, start.cluster, hfind, hshows, hfirst, ?_⟩
    simpa [hwritten, hr] using And.intro hle hall

/-- All four bytes of the file are written, so a chain covers them. -/
theorem extract_size_iff_full :
    let v := (oneFileDisk [1, 2, 3, 4]).openDisk.1
    v.extract "AB".toList = .complete #[1, 2, 3, 4] ∧ ∃ g e first chain, v.geometry? = some g ∧
      v.find? "AB".toList = some e ∧ e.longWord 28 = .ok 4 ∧ e.word 26 = .ok first ∧ v.Covers g first 4 chain := by
  intro v
  have hopen : (oneFileDisk [1, 2, 3, 4]).openDisk = (v, none) := Prod.ext rfl rfl
  have hcomplete : v.extract "AB".toList = .complete #[1, 2, 3, 4] := by decide +kernel
  obtain ⟨g, hg, hsize⟩ := extract_size_iff hopen
  obtain ⟨e, r, first, hfind, hshows, hfirst, -, hall⟩ := hsize _ _ hcomplete
  have hfour : e.longWord 28 = .ok 4 := by
    cases hfind
    rfl
  have hr : r.size = 4 := Except.ok.inj (hshows.size.symm.trans hfour)
  rw [hr] at hall
  obtain hzero | ⟨chain, hchain⟩ := hall.1 rfl
  · cases hzero
  · exact ⟨hcomplete, g, e, first, chain, hg, hfind, hfour, hfirst, hchain⟩

/-- The image ends inside the file. Only two of the four bytes that the listing shows are written, and the
extraction succeeds. -/
theorem extract_truncated :
    let v := (oneFileDisk [1, 2]).openDisk.1
    (oneFileDisk [1, 2]).openDisk.2 = none ∧ v.list = .ok [⟨"AB".toList, 4, "00/00/1980", "00:00:02"⟩] ∧
      v.extract "AB".toList = .complete #[1, 2] :=
  ⟨rfl, rfl, rfl⟩

end

end MsxWorkbench.Disk
