import Mathlib.Algebra.Group.Nat.Defs
import MsxWorkbench.Proofs.Disk.Selection
import MsxWorkbench.Proofs.Text.Bytes
import MsxWorkbench.Suite.DiskSample
/-
# Records of a directory

A file is stored in an entry of 32 bytes: its name and extension filled up with spaces, the time and the date as bit
fields of a word each, and the size as two words. Each field is read back whatever the others are
(`StoredFile.record_entry`), and entries of deleted files or with names that are not ASCII show nothing
(`Slot.record_entry`). So a listing has the records of the stored files in their order and no others (`list_slots`).
-/
namespace MsxWorkbench.Disk

open Suite (wordBytes)

/-! ## Names -/

/-- A name or an extension that an entry can hold: printable ASCII characters without blanks at the ends. -/
structure IsLabel (width : Nat) (s : List Char) : Prop where
  length_le : s.length ≤ width
  printable : ∀ c ∈ s, 0x20 ≤ c.toNat ∧ c.toNat ≤ 0x7E
  head_ne : s.head? ≠ some ' '
  last_ne : s.getLast? ≠ some ' '

/-- The bytes of a text, filled up with spaces. -/
def padded (width : Nat) (s : List Char) : List UInt8 :=
  Text.latin1Bytes s ++ List.replicate (width - s.length) 0x20

section
variable {width : Nat} {s : List Char}

theorem length_padded (h : s.length ≤ width) : (padded width s).length = width := by
  rw [padded, Text.latin1Bytes, List.length_append, List.length_map, List.length_replicate]
  omega

theorem IsLabel.isAscii (h : IsLabel width s) : Text.IsAscii s := fun c hc => by
  have hle := (h.printable c hc).2
  omega

theorem ascii?_padded (h : IsLabel width s) :
    Entry.ascii? (padded width s) = some (s ++ List.replicate (width - s.length) ' ') := by
  have hbytes : padded width s = Text.latin1Bytes (s ++ List.replicate (width - s.length) ' ') := by
    rw [padded, Text.latin1Bytes, Text.latin1Bytes, List.map_append, List.map_replicate]
    rfl
  have hascii : Text.IsAscii (s ++ List.replicate (width - s.length) ' ') := by
    refine h.isAscii.append fun c hc => ?_
    rw [List.eq_of_mem_replicate hc]
    decide
  have hlow : (Text.latin1Bytes (s ++ List.replicate (width - s.length) ' ')).all (· < 0x80) = true := by
    refine List.all_eq_true.2 fun b hb => ?_
    obtain ⟨c, hc, rfl⟩ := List.mem_map.1 hb
    have hlt := hascii c hc
    rw [decide_eq_true_eq, UInt8.lt_iff_toNat_lt, Text.toNat_byte (by omega)]
    exact hlt
  rw [Entry.ascii?, hbytes, if_pos hlow]
  exact congrArg some (Text.decodeLatin1_latin1Bytes hascii.isLatin1)

theorem isBlank_of_printable {c : Char} (h : 0x20 ≤ c.toNat ∧ c.toNat ≤ 0x7E) (hne : c ≠ ' ') :
    Text.isBlank c = false := by
  have hspace : c.toNat ≠ 0x20 := fun hc => hne (Text.eq_ofNat_of_toNat hc)
  simp only [Text.isBlank, Bool.or_eq_false_iff, Bool.and_eq_false_iff, decide_eq_false_iff_not, beq_eq_false_iff_ne]
  omega

/-- Only the spaces behind a label are trimmed. -/
theorem IsLabel.trim_spaces (h : IsLabel width s) (k : Nat) : Text.trim (s ++ List.replicate k ' ') = s := by
  have hspaces : Text.trimLeft (List.replicate k ' ') = [] ∧ Text.trimRight (List.replicate k ' ') = [] := by
    have hblank : Text.isBlank ' ' = true := by decide
    refine ⟨?_, ?_⟩
    · simp [Text.trimLeft, hblank]
    · simp [Text.trimRight, Text.dropRightWhile, hblank]
  rcases List.eq_nil_or_concat s with rfl | ⟨front, d, hlast⟩
  -- an empty label leaves spaces only, which go from the left
  · rw [List.nil_append, Text.trim, hspaces.1]
    rfl
  · rw [List.concat_eq_append] at hlast
    obtain ⟨c, behind, hfirst⟩ := List.exists_cons_of_ne_nil (l := s) (by simp [hlast])
    have hc : Text.isBlank c = false :=
      isBlank_of_printable (h.printable c (by simp [hfirst])) fun hspace => h.head_ne (by simp [hfirst, hspace])
    have hd : Text.isBlank d = false :=
      isBlank_of_printable (h.printable d (by simp [hlast])) fun hspace => h.last_ne (by simp [hlast, hspace])
    have htrim : Text.trim ([] ++ (s ++ List.replicate k ' ')) = [] ++ (s ++ Text.trimRight (List.replicate k ' ')) :=
      Text.trim_append hc hd hfirst hlast
    rwa [hspaces.2, List.append_nil] at htrim

end

/-! ## Numbers -/

theorem word?_wordBytes {n : Nat} (h : n < 65536) : word? (wordBytes n) = some n := by
  rw [wordBytes, word?, UInt8.toNat_ofNat', UInt8.toNat_ofNat']
  congr 1
  omega

theorem longWord?_wordBytes {n : Nat} (h : n < 4294967296) :
    longWord? (wordBytes n ++ wordBytes (n / 65536)) = some n := by
  simp only [wordBytes, List.cons_append, List.nil_append, longWord?, UInt8.toNat_ofNat']
  congr 1
  omega

/-- The last `k` decimal figures of a number. -/
def figures : Nat → Nat → List Char
  | 0, _ => []
  | k + 1, n => figures k (n / 10) ++ [Nat.digitChar (n % 10)]

/-- A number of `k + 1` figures is written with just them. -/
theorem toDigits_eq_figures {k n : Nat} (hlow : 10 ^ k ≤ n) (hlt : n < 10 ^ (k + 1)) :
    Nat.toDigits 10 n = figures (k + 1) n := by
  induction k generalizing n with
  | zero =>
    have hn : n < 10 := by simpa using hlt
    rw [Nat.toDigits_of_lt_base hn, figures, figures, List.nil_append, Nat.mod_eq_of_lt hn]
  | succ k ih =>
    have hpow : 1 ≤ 10 ^ k := Nat.one_le_pow _ _ (by decide)
    rw [Nat.pow_succ] at hlow hlt
    rw [Nat.toDigits_of_base_le (by decide) (by omega), figures, ih (by omega) (by omega)]

theorem toList_toString_nat (n : Nat) : (toString n).toList = Nat.toDigits 10 n := by
  rw [Nat.toString_eq_repr, Nat.toList_repr]

theorem toList_twoPlaces {n : Nat} (h : n < 100) : (twoPlaces n).toList = figures 2 n := by
  unfold twoPlaces
  split
  · rename_i hlt
    have htens : n / 10 = 0 := by omega
    have hfigures : figures 2 n = ['0', Nat.digitChar n] := by simp [figures, htens, Nat.mod_eq_of_lt hlt]
    change ("0" ++ toString n).toList = _
    rw [String.toList_append, toList_toString_nat, Nat.toDigits_of_lt_base hlt, hfigures]
    rfl
  · rename_i hle
    rw [toList_toString_nat]
    exact toDigits_eq_figures (by omega) (by omega)

/-! ## Times and dates -/

/-- A time of day that an entry can hold. -/
structure ClockTime where
  hour : Nat
  minute : Nat
  second : Nat
  hour_le : hour ≤ 31
  minute_le : minute ≤ 63
  second_le : second ≤ 62
  second_even : second % 2 = 0

/-- A date that an entry can hold. -/
structure CalendarDate where
  year : Nat
  month : Nat
  day : Nat
  year_ge : 1980 ≤ year
  year_le : year ≤ 2107
  month_le : month ≤ 15
  day_le : day ≤ 31

/-- A number of three bit fields: the low one has five bits, and the high one starts at bit `high`. -/
def bitFields (high a b c : Nat) : Nat := a <<< high ||| (b <<< 5 ||| c)

theorem bitFields_eq {high a b c : Nat} (hb : b * 32 + 32 ≤ 2 ^ high) (hc : c < 32) :
    bitFields high a b c = a * 2 ^ high + (b * 32 + c) := by
  have hlow : b <<< 5 ||| c = b * 32 + c := by
    rw [← Nat.shiftLeft_add_eq_or_of_lt (by omega), Nat.shiftLeft_eq]
  rw [bitFields, hlow, ← Nat.shiftLeft_add_eq_or_of_lt (by omega), Nat.shiftLeft_eq]

/-- Three texts with a mark between them. -/
theorem eq_ofList_parts {a b c sep : String} {mark : Char} (hsep : sep.toList = [mark]) {x y z : List Char}
    (hx : a.toList = x) (hy : b.toList = y) (hz : c.toList = z) :
    a ++ sep ++ b ++ sep ++ c = String.ofList (x ++ mark :: y ++ mark :: z) := by
  apply String.toList_inj.1
  simp [hsep, hx, hy, hz]

namespace ClockTime

/-- The word of a time: the hour, the minute and half of the second. -/
def pack (t : ClockTime) : Nat := bitFields 11 t.hour t.minute (t.second / 2)

/-- A time as HH:MM:SS. -/
def text (t : ClockTime) : String :=
  String.ofList (figures 2 t.hour ++ ':' :: figures 2 t.minute ++ ':' :: figures 2 t.second)

theorem pack_eq (t : ClockTime) : t.pack = t.hour * 2048 + (t.minute * 32 + t.second / 2) := by
  have hminute := t.minute_le
  have hsecond := t.second_le
  exact bitFields_eq (by omega) (by omega)

theorem pack_lt (t : ClockTime) : t.pack < 65536 := by
  have hhour := t.hour_le
  have hminute := t.minute_le
  have hsecond := t.second_le
  rw [pack_eq]
  omega

/-- The fields of a packed time are told apart. -/
theorem fields_pack (t : ClockTime) :
    t.pack / 2048 % 32 = t.hour ∧ t.pack / 32 % 64 = t.minute ∧ t.pack % 32 * 2 = t.second := by
  have hhour := t.hour_le
  have hminute := t.minute_le
  have hsecond := t.second_le
  have heven := t.second_even
  rw [pack_eq]
  omega

theorem timeText_pack (t : ClockTime) : timeText t.pack = t.text := by
  have hhour := t.hour_le
  have hminute := t.minute_le
  have hsecond := t.second_le
  obtain ⟨hhours, hminutes, hseconds⟩ := t.fields_pack
  rw [timeText, hhours, hminutes, hseconds]
  exact eq_ofList_parts rfl (toList_twoPlaces (by omega)) (toList_twoPlaces (by omega)) (toList_twoPlaces (by omega))

end ClockTime

namespace CalendarDate

/-- The word of a date: the years since 1980, the month and the day. -/
def pack (d : CalendarDate) : Nat := bitFields 9 (d.year - 1980) d.month d.day

/-- A date as DD/MM/YYYY. -/
def text (d : CalendarDate) : String :=
  String.ofList (figures 2 d.day ++ '/' :: figures 2 d.month ++ '/' :: figures 4 d.year)

theorem pack_eq (d : CalendarDate) : d.pack = (d.year - 1980) * 512 + (d.month * 32 + d.day) := by
  have hmonth := d.month_le
  have hday := d.day_le
  exact bitFields_eq (by omega) (by omega)

theorem pack_lt (d : CalendarDate) : d.pack < 65536 := by
  have hyear := d.year_le
  have hmonth := d.month_le
  have hday := d.day_le
  rw [pack_eq]
  omega

/-- The fields of a packed date are told apart. -/
theorem fields_pack (d : CalendarDate) :
    d.pack % 32 = d.day ∧ d.pack / 32 % 16 = d.month ∧ d.pack / 512 % 128 + 1980 = d.year := by
  have hfirst := d.year_ge
  have hyear := d.year_le
  have hmonth := d.month_le
  have hday := d.day_le
  rw [pack_eq]
  omega

theorem dateText_pack (d : CalendarDate) : dateText d.pack = d.text := by
  have hfirst := d.year_ge
  have hyear := d.year_le
  have hmonth := d.month_le
  have hday := d.day_le
  obtain ⟨hdays, hmonths, hyears⟩ := d.fields_pack
  have hfigures : (toString d.year).toList = figures 4 d.year := by
    rw [toList_toString_nat]
    exact toDigits_eq_figures (by omega) (by omega)
  rw [dateText, hdays, hmonths, hyears]
  exact eq_ofList_parts rfl (toList_twoPlaces (by omega)) (toList_twoPlaces (by omega)) hfigures

end CalendarDate

/-! ## Stored files -/

/-- A file as an entry stores it. The attributes and the first cluster play no part in a listing. -/
structure StoredFile where
  name : List Char
  extension : List Char
  attributes : List UInt8
  time : ClockTime
  date : CalendarDate
  cluster : Nat
  size : Nat
  name_ne : name ≠ []
  name_label : IsLabel 8 name
  extension_label : IsLabel 3 extension
  attributes_length : attributes.length = 11
  size_lt : size < 4294967296

namespace StoredFile

/-- The entry of a file. -/
def entry (f : StoredFile) : Entry :=
  padded 8 f.name ++ (padded 3 f.extension ++ (f.attributes ++ (wordBytes f.time.pack ++ (wordBytes f.date.pack ++
    (wordBytes f.cluster ++ (wordBytes f.size ++ wordBytes (f.size / 65536)))))))

/-- The record that a listing shows for a file. -/
def record (f : StoredFile) : FileRecord where
  name := if f.extension = [] then f.name else f.name ++ '.' :: f.extension
  size := f.size
  date := f.date.text
  time := f.time.text

theorem length_entry (f : StoredFile) : f.entry.length = 32 := by
  simp [entry, length_padded f.name_label.length_le, length_padded f.extension_label.length_le, f.attributes_length,
    wordBytes]

end StoredFile

/-- A field of an entry, from what stands before and behind it. -/
theorem Entry.bytes_field {before field behind : List UInt8} {start count : Nat} (hstart : before.length = start)
    (hcount : field.length = count) : Entry.bytes (before ++ (field ++ behind)) start count = field := by
  rw [Entry.bytes, List.drop_left' hstart, List.take_left' hcount]

/-- The record of an entry in use, from its fields. -/
theorem Entry.record_eq {e : Entry} {name : List Char} {size time date : Nat} (hused : e.isUnused = false)
    (hname : e.fileName? = some name) (hsize : longWord? (e.bytes 28 4) = some size)
    (htime : word? (e.bytes 22 2) = some time) (hdate : word? (e.bytes 24 2) = some date) :
    e.record = .ok (some ⟨name, size, dateText date, timeText time⟩) := by
  rw [Entry.record, hused, hname]
  simp only [Entry.longWord, Entry.word, hsize, htime, hdate]
  rfl

namespace StoredFile

theorem isUnused_entry (f : StoredFile) : f.entry.isUnused = false := by
  obtain ⟨c, behind, hname⟩ := List.exists_cons_of_ne_nil f.name_ne
  have hrange := f.name_label.printable c (by simp [hname])
  have hhead : f.entry.head? = some (UInt8.ofNat c.toNat) := by simp [entry, padded, Text.latin1Bytes, hname]
  have hbyte : (UInt8.ofNat c.toNat).toNat = c.toNat := Text.toNat_byte (by omega)
  -- the first byte is printable, so it is neither the mark of a deleted file nor that of a free entry
  have hne : ∀ b : UInt8, b.toNat < 0x20 ∨ 0x7F ≤ b.toNat → f.entry.head? ≠ some b := by
    intro b hb heq
    rw [← Option.some.inj (hhead.symm.trans heq), hbyte] at hb
    omega
  simp [Entry.isUnused, hne 0xE5 (by decide), hne 0 (by decide)]

theorem fileName?_entry (f : StoredFile) : f.entry.fileName? = some f.record.name := by
  have hname := length_padded f.name_label.length_le
  have hextension := length_padded f.extension_label.length_le
  have hfirst : f.entry.bytes 0 8 = padded 8 f.name := List.take_left' hname
  have hsecond : f.entry.bytes 8 3 = padded 3 f.extension := Entry.bytes_field hname hextension
  rw [Entry.fileName?, hfirst, hsecond, ascii?_padded f.name_label, ascii?_padded f.extension_label]
  simp only [Option.bind_eq_bind, Option.bind_some, f.name_label.trim_spaces, f.extension_label.trim_spaces,
    List.isEmpty_iff]
  rfl

/-- What stands before the time. -/
def front (f : StoredFile) : List UInt8 := padded 8 f.name ++ (padded 3 f.extension ++ f.attributes)

theorem length_front (f : StoredFile) : f.front.length = 22 := by
  simp [front, length_padded f.name_label.length_le, length_padded f.extension_label.length_le, f.attributes_length]

/-- An entry is listed as the file that it stores. -/
theorem record_entry (f : StoredFile) : f.entry.record = .ok (some f.record) := by
  have htime : f.entry.bytes 22 2 = wordBytes f.time.pack := by
    have hentry : f.entry = f.front ++ (wordBytes f.time.pack ++ (wordBytes f.date.pack ++
        (wordBytes f.cluster ++ (wordBytes f.size ++ wordBytes (f.size / 65536))))) := by
      simp [entry, front]
    rw [hentry]
    exact Entry.bytes_field f.length_front rfl
  have hdate : f.entry.bytes 24 2 = wordBytes f.date.pack := by
    have hentry : f.entry = (f.front ++ wordBytes f.time.pack) ++ (wordBytes f.date.pack ++
        (wordBytes f.cluster ++ (wordBytes f.size ++ wordBytes (f.size / 65536)))) := by
      simp [entry, front]
    rw [hentry]
    exact Entry.bytes_field (by simp [f.length_front, wordBytes]) rfl
  have hsize : f.entry.bytes 28 4 = wordBytes f.size ++ wordBytes (f.size / 65536) := by
    have hentry : f.entry = (f.front ++ (wordBytes f.time.pack ++ (wordBytes f.date.pack ++ wordBytes f.cluster))) ++
        ((wordBytes f.size ++ wordBytes (f.size / 65536)) ++ []) := by
      simp [entry, front]
    rw [hentry]
    exact Entry.bytes_field (by simp [f.length_front, wordBytes]) rfl
  have hrecord := Entry.record_eq f.isUnused_entry f.fileName?_entry (hsize ▸ longWord?_wordBytes f.size_lt)
    (htime ▸ word?_wordBytes f.time.pack_lt) (hdate ▸ word?_wordBytes f.date.pack_lt)
  rw [hrecord, CalendarDate.dateText_pack, ClockTime.timeText_pack]
  rfl

end StoredFile

/-! ## Listings -/

/-- What stands in a place of a directory. -/
inductive Slot where
  | file (f : StoredFile)
  /-- The entry of a deleted file. -/
  | deleted (rest : List UInt8) (h : rest.length = 31)
  /-- An entry with a byte in its name or extension that is not ASCII. -/
  | foreign (e : Entry) (hlength : e.length = 32) (hbyte : ∃ b ∈ e.take 11, 0x80 ≤ b)

namespace Slot

/-- The entry of a place. -/
def entry : Slot → Entry
  | .file f => f.entry
  | .deleted rest _ => 0xE5 :: rest
  | .foreign e _ _ => e

/-- The record of a place, if it has one. -/
def record? : Slot → Option FileRecord
  | .file f => some f.record
  | .deleted _ _ => none
  | .foreign _ _ _ => none

theorem length_entry (s : Slot) : s.entry.length = 32 := by
  cases s with
  | file f => exact f.length_entry
  | deleted rest h => simp [entry, h]
  | foreign e hlength hbyte => exact hlength

end Slot

theorem Entry.ascii?_eq_none {bytes : List UInt8} {b : UInt8} (hb : b ∈ bytes) (h : 0x80 ≤ b) :
    Entry.ascii? bytes = none := by
  have hhigh : bytes.all (· < 0x80) = false := by
    refine List.all_eq_false.2 ⟨b, hb, ?_⟩
    rw [decide_eq_true_eq, UInt8.not_lt]
    exact h
  simp [Entry.ascii?, hhigh]

theorem Entry.fileName?_eq_none {e : Entry} {b : UInt8} (hb : b ∈ e.take 11) (h : 0x80 ≤ b) : e.fileName? = none := by
  have hparts : e.take 11 = e.bytes 0 8 ++ e.bytes 8 3 := List.take_add (i := 8) (j := 3)
  rw [hparts] at hb
  rcases List.mem_append.1 hb with hb | hb
  · simp [Entry.fileName?, Entry.ascii?_eq_none hb h]
  · simp [Entry.fileName?, Entry.ascii?_eq_none hb h]

/-- Each entry is listed as what stands in its place. -/
theorem Slot.record_entry (s : Slot) : s.entry.record = .ok s.record? := by
  cases s with
  | file f => exact f.record_entry
  | deleted rest h => exact Entry.record_of_not_listed (by simp [Slot.entry, Entry.isListed, Entry.isUnused])
  | foreign e hlength hbyte =>
    obtain ⟨b, hb, hhigh⟩ := hbyte
    exact Entry.record_of_not_listed (by simp [Slot.entry, Entry.isListed, Entry.fileName?_eq_none hb hhigh])

theorem listEntries_slots (slots : List Slot) :
    listEntries (slots.map Slot.entry) = .ok (slots.filterMap Slot.record?) := by
  induction slots with
  | nil => rfl
  | cons s slots ih =>
    rw [List.map_cons, listEntries, s.record_entry, ih]
    cases hrecord : s.record? with
    | none => rw [List.filterMap_cons_none hrecord]; rfl
    | some r => rw [List.filterMap_cons_some hrecord]; rfl

/-- **Directories are listed faithfully.** Of any entries, each of 32 bytes, a listing has the records of the stored files
in their order: the name with its extension, the size, the date as DD/MM/YYYY and the time as HH:MM:SS. Deleted files and
names that are not ASCII show nothing. -/
theorem list_slots (v : Volume) (slots : List Slot) :
    (∀ s : Slot, s.entry.length = 32) ∧
      Volume.list { v with entries := slots.map Slot.entry } = .ok (slots.filterMap Slot.record?) :=
  ⟨Slot.length_entry, listEntries_slots slots⟩

/-- A file with a blank in its name, no extension and the largest numbers. -/
def largestFile : StoredFile where
  name := ['A', ' ', 'B']
  extension := []
  attributes := List.replicate 11 0xFF
  time := ⟨31, 63, 62, by decide, by decide, by decide, by decide⟩
  date := ⟨2107, 15, 31, by decide, by decide, by decide, by decide⟩
  cluster := 65535
  size := 4294967295
  name_ne := by simp
  name_label := ⟨by decide, by simp, by decide, by decide⟩
  extension_label := ⟨by decide, by simp, by decide, by decide⟩
  attributes_length := rfl
  size_lt := by decide

/-- A file with a full name and the smallest numbers. -/
def smallestFile : StoredFile where
  name := ['A', 'U', 'T', 'O', 'E', 'X', 'E', 'C']
  extension := ['B', 'A', 'S']
  attributes := List.replicate 11 0
  time := ⟨0, 0, 0, by decide, by decide, by decide, by decide⟩
  date := ⟨1980, 0, 0, by decide, by decide, by decide, by decide⟩
  cluster := 0
  size := 0
  name_ne := by simp
  name_label := ⟨by decide, by simp, by decide, by decide⟩
  extension_label := ⟨by decide, by simp, by decide, by decide⟩
  attributes_length := rfl
  size_lt := by decide

/-- The two files with a deleted one and a name that is not ASCII between them. -/
theorem list_slots_mixed :
    let deleted : Slot := .deleted (List.replicate 31 0x41) rfl
    let foreign : Slot := .foreign (0x41 :: 0x80 :: List.replicate 30 0x20) rfl ⟨0x80, by simp, by decide⟩
    let slots : List Slot := [.file largestFile, deleted, foreign, .file smallestFile]
    Volume.list { image := #[], entries := slots.map Slot.entry } =
      .ok [⟨"A B".toList, 4294967295, "31/15/2107", "31:63:62"⟩,
        ⟨"AUTOEXEC.BAS".toList, 0, "00/00/1980", "00:00:00"⟩] := by
  intro deleted foreign slots
  have hrecords : slots.filterMap Slot.record? = [⟨"A B".toList, 4294967295, "31/15/2107", "31:63:62"⟩,
      ⟨"AUTOEXEC.BAS".toList, 0, "00/00/1980", "00:00:00"⟩] := rfl
  exact hrecords ▸ (list_slots { image := #[] } slots).2

end MsxWorkbench.Disk
