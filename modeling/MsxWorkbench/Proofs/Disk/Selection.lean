import Mathlib.Data.List.Find
import Mathlib.Data.List.Forall2
import MsxWorkbench.Disk.Volume
/-
# The file that is extracted

Listing a disk and extracting from it go through the directory in ways of their own: a listing leaves out
entries by their first byte, an extraction only those whose names are not ASCII. On a disk that was opened
both see the same entries (`Volume.find?_eq`). So an extraction takes the first file of the listing that
has the name, and there is none only if no file has it (`extract_follows_list`).
-/
namespace MsxWorkbench.Disk

/-! ## Listed entries -/

/-- Whether an entry is in use and has a name that can be shown. -/
def Entry.isListed (e : Entry) : Bool := !e.isUnused && e.fileName?.isSome

/-- The entries that a listing shows. -/
def Volume.listed (v : Volume) : List Entry := v.entries.filter Entry.isListed

theorem Entry.record_of_not_listed {e : Entry} (h : e.isListed = false) : e.record = .ok none := by
  rw [isListed, Bool.and_eq_false_iff, Bool.not_eq_false'] at h
  rw [record]
  rcases h with h | h
  · rw [if_pos h]
  · split
    · rfl
    · rw [Option.isSome_eq_false_iff, Option.isNone_iff_eq_none] at h
      rw [h]

/-- A listed entry has the name and the size of its record. -/
theorem Entry.of_record {e : Entry} (h : e.isListed = true) {o : Option FileRecord} (hrecord : e.record = .ok o) :
    ∃ r, o = some r ∧ e.fileName? = some r.name ∧ e.longWord 28 = .ok r.size := by
  rw [isListed, Bool.and_eq_true, Bool.not_eq_true'] at h
  obtain ⟨name, hname⟩ := Option.isSome_iff_exists.1 h.2
  rw [record, if_neg (by simp [h.1]), hname] at hrecord
  cases hsize : e.longWord 28 with
  | error x => rw [hsize] at hrecord; cases hrecord
  | ok size =>
    cases htime : e.word 22 with
    | error x => rw [hsize, htime] at hrecord; cases hrecord
    | ok time =>
      cases hdate : e.word 24 with
      | error x => rw [hsize, htime, hdate] at hrecord; cases hrecord
      | ok date =>
        rw [hsize, htime, hdate] at hrecord
        cases hrecord
        exact ⟨_, rfl, hname, rfl⟩

/-- The entry is listed as the record and has its name and size. -/
structure Entry.Shows (e : Entry) (r : FileRecord) : Prop where
  record : e.record = .ok (some r)
  name : e.fileName? = some r.name
  size : e.longWord 28 = .ok r.size

theorem forall₂_listEntries {entries : List Entry} {records : List FileRecord}
    (h : listEntries entries = .ok records) : List.Forall₂ Entry.Shows (entries.filter Entry.isListed) records := by
  induction entries generalizing records with
  | nil =>
    cases h
    exact .nil
  | cons e entries ih =>
    rw [listEntries] at h
    cases hrecord : e.record with
    | error x => rw [hrecord] at h; cases h
    | ok o =>
      cases hrest : listEntries entries with
      | error x => rw [hrecord, hrest] at h; cases h
      | ok rest =>
        rw [hrecord, hrest] at h
        cases h
        cases hlisted : e.isListed with
        | false =>
          rw [Entry.record_of_not_listed hlisted] at hrecord
          cases hrecord
          rw [List.filter_cons_of_neg (by simp [hlisted])]
          exact ih hrest
        | true =>
          obtain ⟨r, rfl, hname, hsize⟩ := Entry.of_record hlisted hrecord
          rw [List.filter_cons_of_pos hlisted]
          exact .cons ⟨hrecord, hname, hsize⟩ (ih hrest)

/-! ## An opened disk -/

/-- The entries that are read do not start with a zero. -/
theorem head?_of_mem_readEntries {image : Array UInt8} {count start : Nat} :
    ∀ e ∈ (readEntries image count start).1, e.head? ≠ some 0 := by
  induction count generalizing start with
  | zero => intro e he; cases he
  | succ count ih =>
    rw [readEntries]
    split
    · intro e he; cases he
    · rename_i b rest hread
      split
      · intro e he; cases he
      · rename_i hb
        intro e he
        rcases List.mem_cons.1 he with rfl | he
        · exact fun h => hb (Option.some.inj h)
        · exact ih e he

theorem fst_readFields {image : Array UInt8} {layout : List (Field × Nat × Nat)} {fields : List (Field × Nat)}
    (h : readFields image layout = (fields, none)) : fields.map Prod.fst = layout.map Prod.fst := by
  induction layout generalizing fields with
  | nil =>
    cases h
    rfl
  | cons entry layout ih =>
    obtain ⟨field, start, width⟩ := entry
    rw [readFields] at h
    split at h
    · cases h
    · rename_i n hn
      cases hrest : readFields image layout with
      | mk rest e? =>
        rw [hrest] at h
        cases h
        rw [List.map_cons, List.map_cons, ih hrest]

/-- All fields of the boot sector give a geometry. -/
theorem exists_geometry {image : Array UInt8} {fields : List (Field × Nat)}
    (h : readFields image bootLayout = (fields, none)) : ∃ g, Geometry.ofFields? fields = some g := by
  have hfound : ∀ field, ∃ n, fields.lookup field = some n := by
    intro field
    have hmem : field ∈ fields.map Prod.fst := by
      rw [fst_readFields h]
      cases field <;> decide
    obtain ⟨p, hp, rfl⟩ := List.mem_map.1 hmem
    exact Option.isSome_iff_exists.1 (List.lookup_isSome_iff.2 ⟨p, hp, beq_self_eq_true _⟩)
  obtain ⟨a, ha⟩ := hfound .sectorsPerCluster
  obtain ⟨b, hb⟩ := hfound .reservedSectors
  obtain ⟨c, hc⟩ := hfound .fatCount
  obtain ⟨d, hd⟩ := hfound .rootEntries
  obtain ⟨e, he⟩ := hfound .totalSectors
  obtain ⟨f, hf⟩ := hfound .sectorsPerFat
  exact ⟨⟨a, b, c, d, e, f⟩, by rw [Geometry.ofFields?, ha, hb, hc, hd, he, hf]; rfl⟩

/-- What opening a disk establishes: the geometry is known, the table has been read from its place, and no entry starts
with a zero. -/
theorem Volume.of_openDisk {disk v : Volume} (h : disk.openDisk = (v, none)) :
    (∃ g, v.geometry? = some g ∧ v.image = disk.image ∧ v.fat = some (disk.image.extract (sectorSize * g.reservedSectors)
      (sectorSize * g.reservedSectors + sectorSize * g.sectorsPerFat))) ∧ ∀ e ∈ v.entries, e.head? ≠ some 0 := by
  rw [openDisk] at h
  cases hfields : readFields disk.image bootLayout with
  | mk fields e? =>
    rw [hfields] at h
    cases e? with
    | some x => cases h
    | none =>
      obtain ⟨g, hg⟩ := exists_geometry hfields
      simp only [hg, Prod.mk.injEq] at h
      rw [← h.1]
      exact ⟨⟨g, hg, rfl, rfl⟩, head?_of_mem_readEntries⟩

/-! ## The entry that is found -/

/-- An entry that is not in use and does not start with a zero is of a deleted file, and 0xE5 is not
ASCII. -/
theorem Entry.isListed_of_fileName? {e : Entry} (hhead : e.head? ≠ some 0) (hname : e.fileName?.isSome = true) :
    e.isListed = true := by
  rw [isListed, hname, Bool.and_true, Bool.not_eq_true', isUnused, Bool.or_eq_false_iff,
    decide_eq_false_iff_not, decide_eq_false_iff_not]
  refine ⟨fun hdeleted => ?_, hhead⟩
  obtain ⟨rest, rfl⟩ : ∃ rest, e = 0xE5 :: rest := by
    cases e with
    | nil => cases hdeleted
    | cons b rest => exact ⟨rest, by rw [Option.some.inj hdeleted]⟩
  have hascii : ascii? (Entry.bytes (0xE5 :: rest) 0 8) = none := rfl
  rw [fileName?, hascii] at hname
  cases hname

/-- Whether a text is the given name without regard to case. -/
def isNamed (name text : List Char) : Bool := Text.upper text == Text.upper name

theorem isNamed_iff {name text : List Char} : isNamed name text = true ↔ Text.upper text = Text.upper name :=
  beq_iff_eq

/-- The entry that is found by name is the first with it among those that a listing shows. -/
theorem Volume.find?_eq {v : Volume} (hhead : ∀ e ∈ v.entries, e.head? ≠ some 0) (name : List Char) :
    v.find? name = v.listed.find? fun e => e.fileName?.any (isNamed name) := by
  rw [find?, listed, List.find?_filter]
  refine List.find?_congr fun e he => ?_
  cases hname : e.fileName? with
  | none => simp
  | some text =>
    rw [Entry.isListed_of_fileName? (hhead e he) (by rw [hname]; rfl)]
    simp [isNamed, beq_eq_decide]

/-- An entry that is long enough for a size has every word. -/
theorem Entry.word_of_longWord {e : Entry} {size start : Nat} (h : e.longWord 28 = .ok size) (hstart : start ≤ 30) :
    ∃ n, e.word start = .ok n := by
  have hfour : (e.bytes 28 4).length = 4 := by
    rw [longWord] at h
    split at h
    · rename_i n hn
      rw [longWord?.eq_def] at hn
      split at hn
      · rename_i hbytes
        rw [hbytes]
        rfl
      · cases hn
    · cases h
  have htwo : (e.bytes start 2).length = 2 := by
    rw [bytes, List.length_take, List.length_drop] at hfour ⊢
    omega
  obtain ⟨low, high, hword⟩ := List.length_eq_two.1 htwo
  exact ⟨_, by rw [word, hword]; rfl⟩

theorem Volume.copy_ne_missing (v : Volume) (g : Geometry) (fuel : Nat) (c : Copying) :
    v.copy g fuel c ≠ .missing := by
  induction fuel generalizing c with
  | zero => exact fun h => nomatch h
  | succ fuel ih =>
    rw [copy]
    split
    · exact fun h => nomatch h
    · exact fun h => nomatch h
    · exact ih _

/-- The extraction by a name copies from the first cluster of the entry that is listed at a place, and as
many bytes as its record there shows. -/
def Volume.Extracts (v : Volume) (name : List Char) (i : Nat) (r : FileRecord) : Prop :=
  ∃ e g first, v.listed[i]? = some e ∧ e.Shows r ∧ e.word 26 = .ok first ∧ v.geometry? = some g ∧
    v.extract name = v.copy g (r.size + 4097) ⟨r.size, first, #[]⟩

theorem Volume.extracts_of_find? {v : Volume} {name : List Char} {i : Nat} {e : Entry} {r : FileRecord}
    (hgeometry : ∃ g, v.geometry? = some g) (hlisted : v.listed[i]? = some e) (hshows : e.Shows r)
    (hfind : v.find? name = some e) : v.Extracts name i r := by
  obtain ⟨g, hg⟩ := hgeometry
  obtain ⟨first, hfirst⟩ := Entry.word_of_longWord hshows.size (show 26 ≤ 30 by decide)
  refine ⟨e, g, first, hlisted, hshows, hfirst, hg, ?_⟩
  rw [extract, hfind, hg]
  simp only [hfirst, hshows.size]

section
variable {disk v : Volume} {records : List FileRecord}

/-- The first record with a name tells the entry that is extracted. -/
theorem Volume.extracts_of_first (hopen : disk.openDisk = (v, none)) (hlist : v.list = .ok records)
    {name : List Char} {i : Nat} {r : FileRecord} (hr : records[i]? = some r)
    (hname : Text.upper r.name = Text.upper name)
    (hfirst : ∀ r' ∈ records.take i, Text.upper r'.name ≠ Text.upper name) :
    v.Extracts name i r := by
  obtain ⟨⟨g, hgeometry, -⟩, hhead⟩ := Volume.of_openDisk hopen
  obtain ⟨hlength, hget⟩ := List.forall₂_iff_get.1 (forall₂_listEntries hlist)
  obtain ⟨hi, hri⟩ := List.getElem?_eq_some_iff.1 hr
  have hi' : i < v.listed.length := hlength ▸ hi
  have hshows : v.listed[i].Shows r := hri ▸ hget i hi' hi
  refine Volume.extracts_of_find? ⟨g, hgeometry⟩ (List.getElem?_eq_getElem hi') hshows ?_
  rw [Volume.find?_eq hhead, List.find?_eq_some_iff_getElem]
  refine ⟨by simp [hshows.name, isNamed_iff, hname], i, hi', rfl, fun j hj => ?_⟩
  have hj' : j < records.length := Nat.lt_trans hj hi
  have hbefore := hfirst records[j] (List.mem_take_iff_getElem.2 ⟨j, by omega, rfl⟩)
  have hshows' : v.listed[j].Shows records[j] := hget j (hlength ▸ hj') hj'
  simpa [hshows'.name, isNamed] using hbefore

/-- If no record has a name, no entry is found by it. -/
theorem Volume.find?_eq_none (hopen : disk.openDisk = (v, none)) (hlist : v.list = .ok records) {name : List Char}
    (h : ∀ r ∈ records, Text.upper r.name ≠ Text.upper name) : v.find? name = none := by
  obtain ⟨hlength, hget⟩ := List.forall₂_iff_get.1 (forall₂_listEntries hlist)
  rw [Volume.find?_eq (Volume.of_openDisk hopen).2, List.find?_eq_none]
  intro e he
  obtain ⟨j, hj, rfl⟩ := List.getElem_of_mem he
  have hj' : j < records.length := hlength ▸ hj
  have hshows : v.listed[j].Shows records[j] := hget j hj hj'
  simpa [hshows.name, isNamed_iff] using h records[j] (List.getElem_mem hj')

theorem Volume.Extracts.ne_missing {name : List Char} {i : Nat} {r : FileRecord} (h : v.Extracts name i r) :
    v.extract name ≠ .missing := by
  obtain ⟨e, g, first, -, -, -, -, hextract⟩ := h
  rw [hextract]
  exact v.copy_ne_missing g _ _

/-- On a disk that was opened and can be listed, nothing is extracted by a name only if no file of the
listing has it without regard to case. Otherwise the first file that has it is extracted. So if no two
files have the same name, each is extracted by its own. -/
theorem extract_follows_list (hopen : disk.openDisk = (v, none)) (hlist : v.list = .ok records) :
    (∀ name, v.extract name = .missing ↔ ∀ r ∈ records, Text.upper r.name ≠ Text.upper name) ∧
    (∀ name i r, records[i]? = some r → Text.upper r.name = Text.upper name →
      (∀ r' ∈ records.take i, Text.upper r'.name ≠ Text.upper name) → v.Extracts name i r) ∧
    ((records.map fun r => Text.upper r.name).Nodup →
      ∀ i r, records[i]? = some r → v.Extracts r.name i r) := by
  refine ⟨fun name => ⟨fun hmissing r hr hname => ?_, fun hnone => ?_⟩,
    fun name i r hr hname hfirst => Volume.extracts_of_first hopen hlist hr hname hfirst,
    fun hnodup i r hr => Volume.extracts_of_first hopen hlist hr rfl fun r' hr' => ?_⟩
  · -- the first record with the name is extracted
    have hfound : (records.find? fun r => isNamed name r.name).isSome = true :=
      List.find?_isSome.2 ⟨r, hr, isNamed_iff.2 hname⟩
    obtain ⟨first, hfirst⟩ := Option.isSome_iff_exists.1 hfound
    obtain ⟨hp, i, hi, hget, hbefore⟩ := List.find?_eq_some_iff_getElem.1 hfirst
    have hextracts : v.Extracts name i first := by
      refine Volume.extracts_of_first hopen hlist (List.getElem?_eq_some_iff.2 ⟨hi, hget⟩) (isNamed_iff.1 hp) ?_
      intro r' hr'
      obtain ⟨j, hj, rfl⟩ := List.mem_take_iff_getElem.1 hr'
      simpa [isNamed] using hbefore j (by omega)
    exact hextracts.ne_missing hmissing
  · rw [Volume.extract, Volume.find?_eq_none hopen hlist hnone]
  · obtain ⟨hi, rfl⟩ := List.getElem?_eq_some_iff.1 hr
    obtain ⟨j, hj, rfl⟩ := List.mem_take_iff_getElem.1 hr'
    have hpairs := List.pairwise_map.1 hnodup
    exact List.pairwise_iff_getElem.1 hpairs j i (by omega) hi (by omega)

end

/-- A disk whose directory starts in the boot sector, with a deleted file between two others. -/
def smallDisk : Volume where
  image := #[65, 66, 32, 32, 32, 32, 32, 32, 32, 32, 32, 0, 0, 1, 0, 0, 0, 3, 0, 0, 0, 0, 1, 0, 0, 0, 2, 0, 4, 0, 0, 0,
    0xE5, 66, 32, 32, 32, 32, 32, 32, 32, 32, 32, 0, 0, 0, 0, 0, 0, 0, 0, 0, 0, 0, 0, 0, 0, 0, 2, 0, 4, 0, 0, 0,
    97, 98, 32, 32, 32, 32, 32, 32, 99, 32, 32, 0, 0, 0, 0, 0, 0, 0, 0, 0, 0, 0, 0, 0, 0, 0, 2, 0, 1, 0, 0, 0,
    1, 2, 3, 4]

/-- The second file that is listed, which has small letters, is extracted from its own entry by its name in
other letters, and the deleted file is missing. -/
theorem extract_follows_list_small :
    let v := smallDisk.openDisk.1
    v.Extracts "aB.C".toList 1 ⟨"ab.c".toList, 1, "00/00/1980", "00:00:00"⟩ ∧
      v.extract "B".toList = .missing := by
  intro v
  have hopen : smallDisk.openDisk = (v, none) := Prod.ext rfl rfl
  have hlist : v.list = .ok [⟨"AB".toList, 4, "00/00/1980", "00:00:02"⟩,
      ⟨"ab.c".toList, 1, "00/00/1980", "00:00:00"⟩] := rfl
  obtain ⟨hmissing, hfirst, -⟩ := extract_follows_list hopen hlist
  exact ⟨hfirst _ 1 _ rfl (by decide +kernel) (by decide +kernel), (hmissing _).2 (by decide +kernel)⟩

end MsxWorkbench.Disk
