import MsxWorkbench.Proofs.Program.LineTails
/-
# The form of a listing

The segments of a listing are joined, and each has a text that fits its kind: commands and functions are spelled from
their word lists, and only strings have control characters, line breaks apart. A line number is a numeral of a word and
has a blank behind it (`segments_form`). This is kept by every piece that is put before the joined ones
(`Arranged.push`), so it needs to be known of single pieces only (`fits_readBody`).

A listing is empty exactly if its file is too short for the head of a line. The mark at the end of a program is looked
for only behind a line, so a program without lines is shown as empty only if at most one byte stands behind its mark
(`segments_endMark_iff`).
-/
namespace MsxWorkbench.Program

/-! ## Texts that fit a kind -/

/-- The text is some words of a list, one behind the other. -/
def IsSpelled (words : List String) (text : List Char) : Prop :=
  ∃ spelled : List String, (∀ w ∈ spelled, w ∈ words) ∧ text = spelled.flatMap String.toList

theorem IsSpelled.append {words : List String} {a b : List Char} (ha : IsSpelled words a) (hb : IsSpelled words b) :
    IsSpelled words (a ++ b) := by
  obtain ⟨first, hfirst, rfl⟩ := ha
  obtain ⟨second, hsecond, rfl⟩ := hb
  refine ⟨first ++ second, fun w hw => ?_, List.flatMap_append.symm⟩
  rcases List.mem_append.1 hw with hw | hw
  · exact hfirst w hw
  · exact hsecond w hw

theorem isSpelled_word {words : List String} {w : String} (h : w ∈ words) : IsSpelled words w.toList :=
  ⟨[w], List.forall_mem_singleton.2 h, (List.flatMap_singleton ..).symm⟩

namespace Segment

/-- The text fits the kind of the piece. -/
structure Fits (s : Segment) : Prop where
  command : s.kind = .command → IsSpelled statementWords s.text
  function : s.kind = .function → IsSpelled functionWords s.text
  controls : s.kind ≠ .string → ∀ c ∈ s.text, c.toNat < 0x20 → c = '\n'

theorem Fits.append {kind : Kind} {a b : List Char} (ha : Fits ⟨kind, a⟩) (hb : Fits ⟨kind, b⟩) :
    Fits ⟨kind, a ++ b⟩ where
  command h := (ha.command h).append (hb.command h)
  function h := (ha.function h).append (hb.function h)
  controls h c hc := by
    rcases List.mem_append.1 hc with hc | hc
    · exact ha.controls h c hc
    · exact hb.controls h c hc

end Segment

theorem Printed.toNat_le {text : List Char} (h : Printed text) {c : Char} (hc : c ∈ text) : 0x20 ≤ c.toNat :=
  UInt32.le_iff_toNat_le.1 (h c hc)

/-- Text without control characters fits every kind that has no words. -/
theorem Printed.fits {text : List Char} (h : Printed text) {kind : Kind} (hcommand : kind ≠ .command)
    (hfunction : kind ≠ .function) : Segment.Fits ⟨kind, text⟩ where
  command hkind := absurd hkind hcommand
  function hkind := absurd hkind hfunction
  controls _ _ hc hlow := absurd (h.toNat_le hc) (Nat.not_le_of_lt hlow)

/-! ## The pieces of a body -/

/-- A piece that is a command or a function is a word of its list. -/
def Segment.IsWord (s : Segment) : Prop :=
  (s.kind = .command → ∃ w ∈ statementWords, s.text = w.toList) ∧
    (s.kind = .function → ∃ w ∈ functionWords, s.text = w.toList)

section
variable {b : UInt8} {rest : List UInt8} {i : Item}

theorem isWord_piece {kind : Kind} (hcommand : kind ≠ .command) (hfunction : kind ≠ .function) (text : List Char)
    (after : List UInt8) : ∀ s ∈ (Item.piece kind text after).pieces, s.IsWord :=
  List.forall_mem_singleton.2 ⟨fun h => absurd h hcommand, fun h => absurd h hfunction⟩

theorem isWord_readWord {show' : Nat → List Char} (h : readWord show' rest = some i) : ∀ s ∈ i.pieces, s.IsWord := by
  rcases rest with _ | ⟨low, _ | ⟨high, rest⟩⟩
  · cases h
  · cases h
  · cases h
    exact isWord_piece (by decide) (by decide) _ _

theorem isWord_readColon (rest : List UInt8) : ∀ s ∈ (readColon rest).pieces, s.IsWord := by
  cases rest with
  | nil => exact isWord_piece (by decide) (by decide) _ _
  | cons next rest =>
    rw [readColon]
    split
    · exact List.forall_mem_nil _
    · split
      · exact List.forall_mem_nil _
      · exact isWord_piece (by decide) (by decide) _ _

theorem isWord_readFunction (rest : List UInt8) : ∀ s ∈ (readFunction rest).pieces, s.IsWord := by
  cases rest with
  | nil => exact List.forall_mem_nil _
  | cons code rest =>
    cases hword : functionWord? code with
    | none =>
      simp only [readFunction, hword]
      exact isWord_piece (by decide) (by decide) _ _
    | some w =>
      obtain ⟨j, -, rfl⟩ := exists_of_wordAt? hword
      simp only [readFunction, hword]
      exact List.forall_mem_singleton.2 ⟨fun h => (by cases h), fun _ => ⟨_, List.get_mem _ j, rfl⟩⟩

theorem isWord_readReserved (b : UInt8) (rest : List UInt8) : ∀ s ∈ (readReserved b rest).pieces, s.IsWord := by
  unfold readReserved
  cases hword : statementWord? b with
  | none => exact isWord_piece (by decide) (by decide) _ _
  | some w =>
    obtain ⟨j, -, rfl⟩ := exists_of_wordAt? hword
    have hcommand : Segment.IsWord ⟨.command, (statementWords.get j).toList⟩ :=
      ⟨fun _ => ⟨_, List.get_mem _ j, rfl⟩, fun h => by cases h⟩
    dsimp only
    split
    · exact List.forall_mem_singleton.2 hcommand
    · split
      · exact List.forall_mem_singleton.2 ⟨fun h => (by cases h), fun h => by cases h⟩
      · exact List.forall_mem_singleton.2 hcommand

theorem isWord_readItem (h : readItem b rest = some i) : ∀ s ∈ i.pieces, s.IsWord := by
  unfold readItem at h
  cases hlead : Lead.of b with
  | octal => simp only [hlead] at h; exact isWord_readWord h
  | hexadecimal => simp only [hlead] at h; exact isWord_readWord h
  | wordNumber => simp only [hlead] at h; exact isWord_readWord h
  | byteNumber =>
    simp only [hlead] at h
    split at h
    · cases h
      exact isWord_piece (by decide) (by decide) _ _
    · cases h
  | single =>
    simp only [hlead] at h
    split at h
    · cases h
      exact isWord_piece (by decide) (by decide) _ _
    · cases h
  | colon => simp only [hlead, Option.some.injEq] at h; exact h ▸ isWord_readColon rest
  | function => simp only [hlead, Option.some.injEq] at h; exact h ▸ isWord_readFunction rest
  | reserved => simp only [hlead, Option.some.injEq] at h; exact h ▸ isWord_readReserved b rest
  | quote =>
    simp only [hlead, Option.some.injEq] at h
    exact h ▸ isWord_piece (by decide) (by decide) _ _
  | character =>
    simp only [hlead, Option.some.injEq] at h
    exact h ▸ isWord_piece (by decide) (by decide) _ _
  | digit =>
    simp only [hlead, Option.some.injEq] at h
    exact h ▸ isWord_piece (by decide) (by decide) _ _
  | ignored =>
    simp only [hlead, Option.some.injEq] at h
    exact h ▸ List.forall_mem_nil _

/-- Only the pieces of strings have control characters. -/
theorem printed_readItem (h : readItem b rest = some i) : ∀ s ∈ i.pieces, s.kind ≠ .string → Printed s.text := by
  cases readItem_form h with
  | piece hkind htext hafter => exact List.forall_mem_singleton.2 fun _ => htext
  | silent hafter => exact List.forall_mem_nil _
  | string => exact List.forall_mem_singleton.2 fun hkind => absurd rfl hkind
  | rem hb => exact List.forall_mem_singleton.2 fun _ => printed_of_all (by decide)
  | apostrophe hb => exact List.forall_mem_singleton.2 fun _ => printed_of_all (by decide)

theorem fits_readItem (h : readItem b rest = some i) : ∀ s ∈ i.pieces, s.Fits := by
  intro s hs
  obtain ⟨hcommand, hfunction⟩ := isWord_readItem h s hs
  refine ⟨fun hkind => ?_, fun hkind => ?_, fun hkind c hc hlow => ?_⟩
  · obtain ⟨w, hw, htext⟩ := hcommand hkind
    exact htext ▸ isSpelled_word hw
  · obtain ⟨w, hw, htext⟩ := hfunction hkind
    exact htext ▸ isSpelled_word hw
  · exact absurd ((printed_readItem h s hs hkind).toNat_le hc) (Nat.not_le_of_lt hlow)

end

theorem printed_remarkText (b : UInt8) : Printed (remarkText b) := by
  unfold remarkText
  split
  · rename_i hle
    exact printed_charOf hle
  · split
    · exact printed_decimal _
    · exact printed_of_all (by decide)

/-- A body shows pieces that fit their kinds, and none of them is a line number. -/
theorem fits_readBody (bytes : List UInt8) : ∀ s ∈ (readBody bytes).1, s.kind ≠ .lineNumber ∧ s.Fits := by
  fun_induction readBody bytes with
  | case1 => exact List.forall_mem_nil _
  | case2 => exact List.forall_mem_nil _
  | case3 => exact List.forall_mem_nil _
  | case4 b rest hb i hi hremark =>
    intro s hs
    rcases List.mem_append.1 hs with hs | hs
    · exact ⟨kind_of_readItem hi s hs, fits_readItem hi s hs⟩
    · obtain rfl := List.mem_singleton.1 hs
      have hprinted : Printed ((i.rest.takeWhile (· != 0)).flatMap remarkText) := by
        intro c hc
        obtain ⟨b, -, hc⟩ := List.mem_flatMap.1 hc
        exact printed_remarkText b c hc
      exact ⟨by simp, hprinted.fits (by decide) (by decide)⟩
  | case5 b rest hb i hi hremark line ih =>
    intro s hs
    rcases List.mem_append.1 hs with hs | hs
    · exact ⟨kind_of_readItem hi s hs, fits_readItem hi s hs⟩
    · exact ih s hs

/-! ## The pieces of lines -/

theorem word_le (low high : UInt8) : word low high ≤ 65535 := by
  have hlow := low.toNat_lt
  have hhigh := high.toNat_lt
  unfold word
  omega

/-- Pieces of lines: each line has its number, a blank and pieces of a body. -/
inductive LinePieces : List Segment → Prop where
  | nil : LinePieces []
  | line (low high : UInt8) {body rest : List Segment} (hbody : ∀ s ∈ body, s.kind ≠ .lineNumber ∧ s.Fits)
      (hrest : LinePieces rest) :
      LinePieces (⟨.lineNumber, decimal (word low high)⟩ :: ⟨.plain, [' ']⟩ :: (body ++ rest))

theorem fits_endLine (bytes : List UInt8) : ∀ s ∈ (endLine bytes).1, s.kind ≠ .lineNumber ∧ s.Fits := by
  cases bytes with
  | nil => exact List.forall_mem_nil _
  | cons b rest =>
    rw [endLine]
    split
    · refine List.forall_mem_singleton.2 ⟨by simp, by simp, by simp, fun _ c hc _ => ?_⟩
      exact List.mem_singleton.1 hc
    · exact List.forall_mem_nil _

theorem linePieces_readLines (bytes : List UInt8) : LinePieces (readLines bytes) := by
  fun_induction readLines bytes with
  | case1 first second low high body line ending ih =>
    have hbody : ∀ s ∈ line.1 ++ ending.1, s.kind ≠ .lineNumber ∧ s.Fits := by
      intro s hs
      rcases List.mem_append.1 hs with hs | hs
      · exact fits_readBody body s hs
      · exact fits_endLine line.2 s hs
    have hrest : LinePieces (if atEndMark ending.2 then [] else readLines ending.2) := by
      split
      · exact .nil
      · exact ih
    simpa using LinePieces.line low high hbody hrest
  | case2 bytes hshort => exact .nil

/-! ## The joined segments -/

namespace Segment

/-- What is known of a segment and the ones behind it: its text fits its kind, and if it is a line number it is the
numeral of a word and a blank follows. -/
structure Stands (s : Segment) (behind : List Segment) : Prop where
  fits : s.Fits
  numeral : s.kind = .lineNumber → ∃ n : Nat, n ≤ 65535 ∧ s.text = (toString n).toList
  blank : s.kind = .lineNumber → ∃ text more, behind = ⟨.plain, ' ' :: text⟩ :: more

/-- All segments of a listing stand well. -/
def Arranged : List Segment → Prop
  | [] => True
  | s :: behind => s.Stands behind ∧ Arranged behind

theorem Arranged.stands {before behind : List Segment} {s : Segment} (h : Arranged (before ++ s :: behind)) :
    s.Stands behind := by
  induction before with
  | nil => exact h.1
  | cons t before ih => exact ih h.2

theorem Arranged.fits {shown : List Segment} (h : Arranged shown) : ∀ s ∈ shown, s.Fits := by
  intro s hs
  obtain ⟨before, behind, rfl⟩ := List.append_of_mem hs
  exact h.stands.fits

theorem stands_of_fits {s : Segment} (hkind : s.kind ≠ .lineNumber) (hs : s.Fits) (behind : List Segment) :
    s.Stands behind :=
  ⟨hs, fun h => absurd h hkind, fun h => absurd h hkind⟩

/-- A piece is dropped, put before the joined ones, or joined with the first of them. -/
theorem push_cases (s : Segment) (shown : List Segment) : s.push shown = shown ∨ s.push shown = s :: shown ∨
    ∃ t behind, shown = t :: behind ∧ t.kind = s.kind ∧ s.push shown = ⟨s.kind, s.text ++ t.text⟩ :: behind := by
  by_cases hempty : s.text = []
  · left
    cases shown <;> simp [Segment.push, hempty]
  · right
    cases shown with
    | nil => simp [Segment.push, hempty]
    | cons t behind =>
      by_cases hkind : t.kind = s.kind
      · right
        exact ⟨t, behind, rfl, hkind, by simp [Segment.push, hempty, hkind]⟩
      · left
        simp [Segment.push, hempty, Ne.symm hkind]

/-- A piece that is no line number may be put before arranged segments. -/
theorem Arranged.push {shown : List Segment} (h : Arranged shown) {s : Segment} (hkind : s.kind ≠ .lineNumber)
    (hs : s.Fits) : Arranged (s.push shown) := by
  rcases push_cases s shown with hpush | hpush | ⟨t, behind, rfl, hsame, hpush⟩
  · rwa [hpush]
  · rw [hpush]
    exact ⟨stands_of_fits hkind hs shown, h⟩
  · rw [hpush]
    have hjoined : Fits ⟨s.kind, s.text ++ t.text⟩ := hs.append (hsame ▸ h.1.fits)
    exact ⟨stands_of_fits (s := ⟨s.kind, s.text ++ t.text⟩) hkind hjoined behind, h.2⟩

theorem Arranged.pushAll {shown body : List Segment} (h : Arranged shown)
    (hbody : ∀ s ∈ body, s.kind ≠ .lineNumber ∧ s.Fits) : Arranged (body.foldr Segment.push shown) := by
  induction body with
  | nil => exact h
  | cons s body ih =>
    obtain ⟨⟨hkind, hs⟩, hbody⟩ := List.forall_mem_cons.1 hbody
    exact (ih hbody).push hkind hs

theorem push_blank (shown : List Segment) :
    ∃ text more, Segment.push ⟨.plain, [' ']⟩ shown = ⟨.plain, ' ' :: text⟩ :: more := by
  cases shown with
  | nil => exact ⟨[], [], rfl⟩
  | cons t behind =>
    by_cases hkind : Kind.plain = t.kind
    · exact ⟨t.text, behind, by simp [Segment.push, hkind]⟩
    · exact ⟨[], t :: behind, by simp [Segment.push, hkind]⟩

/-- The number of a line and the blank behind it are two segments. -/
theorem join_line (n : Nat) (pieces : List Segment) : ∃ text more,
    join (⟨.lineNumber, decimal n⟩ :: ⟨.plain, [' ']⟩ :: pieces) =
      ⟨.lineNumber, decimal n⟩ :: ⟨.plain, ' ' :: text⟩ :: more ∧
    join (⟨.plain, [' ']⟩ :: pieces) = ⟨.plain, ' ' :: text⟩ :: more := by
  obtain ⟨text, more, hblank⟩ := push_blank (join pieces)
  have hjoin : join (⟨.plain, [' ']⟩ :: pieces) = ⟨.plain, ' ' :: text⟩ :: more := hblank
  refine ⟨text, more, ?_, hjoin⟩
  have hnumber : decimal n ≠ [] := Nat.toDigits_ne_nil
  change Segment.push _ (join (⟨.plain, [' ']⟩ :: pieces)) = _
  rw [hjoin]
  simp [Segment.push, hnumber]

theorem arranged_join {pieces : List Segment} (h : LinePieces pieces) : Arranged (join pieces) := by
  induction h with
  | nil => exact trivial
  | @line low high body rest hbody hrest ih =>
    -- the blank may be joined with what is behind it, and the number then stands before it alone
    have hbehind : Arranged (join (⟨.plain, [' ']⟩ :: (body ++ rest))) := by
      have hpushed : Arranged (join (body ++ rest)) := by
        rw [join, List.foldr_append]
        exact ih.pushAll hbody
      have hblank : Fits ⟨.plain, [' ']⟩ := (printed_of_all (by decide)).fits (by decide) (by decide)
      exact hpushed.push (by decide) hblank
    obtain ⟨text, more, hline, hblank⟩ := join_line (word low high) (body ++ rest)
    rw [hblank] at hbehind
    rw [hline]
    refine ⟨⟨?_, fun _ => ⟨word low high, word_le low high, Nat.toList_repr.symm⟩, fun _ => ⟨text, more, rfl⟩⟩, hbehind⟩
    exact (printed_decimal _).fits (by decide) (by decide)

end Segment

theorem exists_of_segments {file : List UInt8} {shown : List Segment} (h : segments file = .ok shown) :
    ∃ rest, file = 0xFF :: rest ∧ shown = Segment.join (readLines rest) := by
  cases file with
  | nil => cases h
  | cons b rest =>
    by_cases hb : b = 0xFF
    · subst hb
      exact ⟨rest, rfl, (Except.ok.inj h).symm⟩
    · rw [segments, pieces, if_neg hb] at h
      cases h

/-- **The form of a listing.** In the segments of every file that can be read, none is empty and no two neighbours are of
one kind; a line number is the decimal numeral of a number up to 65535 with a plain segment behind it that starts with a
blank; commands and functions are spelled from the words of their lists; and outside strings the only control character is
the line break. -/
theorem segments_form {file : List UInt8} {shown : List Segment} (h : segments file = .ok shown) :
    (∀ s ∈ shown, s.text ≠ []) ∧
    shown.IsChain (fun s t => s.kind ≠ t.kind) ∧
    (∀ (before : List Segment) (s : Segment) (behind : List Segment), shown = before ++ s :: behind →
      s.kind = .lineNumber → (∃ n : Nat, n ≤ 65535 ∧ s.text = (toString n).toList) ∧
        ∃ (text : List Char) (more : List Segment), behind = ⟨.plain, ' ' :: text⟩ :: more) ∧
    (∀ s ∈ shown, s.kind = .command → IsSpelled statementWords s.text) ∧
    (∀ s ∈ shown, s.kind = .function → IsSpelled functionWords s.text) ∧
    ∀ s ∈ shown, s.kind ≠ .string → ∀ c ∈ s.text, c.toNat < 0x20 → c = '\n' := by
  obtain ⟨rest, -, rfl⟩ := exists_of_segments h
  have hjoined := Segment.joined_join (readLines rest)
  have harranged := Segment.arranged_join (linePieces_readLines rest)
  refine ⟨hjoined.text_ne, hjoined.kind_ne, ?_, fun s hs => (harranged.fits s hs).command,
    fun s hs => (harranged.fits s hs).function, fun s hs => (harranged.fits s hs).controls⟩
  intro before s behind hshown hkind
  rw [hshown] at harranged
  exact ⟨harranged.stands.numeral hkind, harranged.stands.blank hkind⟩

/-- Behind the front of a line the mark at the end of a program ends the listing. -/
theorem segments_front_end (l : LineFront) (padding : List UInt8) :
    segments (0xFF :: (l.encode ++ 0 :: 0 :: 0 :: padding)) =
      .ok (Segment.join (l.pieces ++ [⟨.plain, ['\n']⟩])) := by
  rw [segments_front_apart l fun _ => ⟨by simp, by simp⟩, fromBody_zero]
  rfl

/-- A line of words, functions and strings, with a constant between the strings that shows nothing. -/
def joinedFront : LineFront where
  link := (1, 0x80)
  number := 65535
  tokens := [.reserved ⟨28, by rw [length_statementWords]; decide⟩ (by decide),
    .reserved ⟨90, by rw [length_statementWords]; decide⟩ (by decide), .function ⟨0, by decide⟩, .function ⟨1, by decide⟩,
    .string [7] (by simp), .single ⟨0x40, 0, 0, 0⟩, .string [0x41] (by simp)]
  number_lt := by decide
  apart := by simp [ColonsApart]

/-- The words are one segment, the functions one, and the strings, with a control character in them, one. -/
theorem segments_form_joined :
    let shown : List Segment := [⟨.lineNumber, "65535".toList⟩, ⟨.plain, " ".toList⟩, ⟨.command, "LPRINTTAB(".toList⟩,
      ⟨.function, "LEFT$RIGHT$".toList⟩, ⟨.string, "\"\x07\"\"A\"".toList⟩, ⟨.plain, "\n".toList⟩]
    segments [0xFF, 1, 0x80, 0xFF, 0xFF, 0x9D, 0xDB, 0xFF, 0x81, 0xFF, 0x82, 0x22, 7, 0x22, 0x1D, 0x40, 0, 0, 0, 0x22,
        0x41, 0x22, 0, 0, 0] = .ok shown ∧
      shown.IsChain (fun s t => s.kind ≠ t.kind) ∧ (∃ n : Nat, n ≤ 65535 ∧ "65535".toList = (toString n).toList) ∧
      IsSpelled statementWords "LPRINTTAB(".toList ∧ IsSpelled functionWords "LEFT$RIGHT$".toList := by
  intro shown
  have hjoin : Segment.join (joinedFront.pieces ++ [⟨.plain, ['\n']⟩]) = shown := by decide
  have hsegments := segments_front_end joinedFront []
  rw [hjoin] at hsegments
  obtain ⟨-, hchain, hnumbers, hcommands, hfunctions, -⟩ := segments_form hsegments
  exact ⟨hsegments, hchain, (hnumbers [] _ _ rfl rfl).1, hcommands ⟨.command, "LPRINTTAB(".toList⟩ (by simp [shown]) rfl,
    hfunctions ⟨.function, "LEFT$RIGHT$".toList⟩ (by simp [shown]) rfl⟩

/-! ## Empty listings -/

/-- The listing of a file that has the head of a line starts with its number. -/
theorem segments_line (first second low high : UInt8) (body : List UInt8) : ∃ text more,
    segments (0xFF :: first :: second :: low :: high :: body) =
      .ok (⟨.lineNumber, decimal (word low high)⟩ :: ⟨.plain, ' ' :: text⟩ :: more) := by
  obtain ⟨text, more, hline, -⟩ := Segment.join_line (word low high) _
  refine ⟨text, more, segments_of_readLines ?_⟩
  rw [readLines]
  exact hline

/-- A listing is empty exactly if the file has no room for the head of a line. -/
theorem segments_eq_nil_iff (rest : List UInt8) : segments (0xFF :: rest) = .ok [] ↔ rest.length < 4 := by
  have hshort : readLines rest = [] → segments (0xFF :: rest) = .ok [] := fun h => segments_of_readLines (by rw [h]; rfl)
  rcases rest with _ | ⟨first, _ | ⟨second, _ | ⟨low, _ | ⟨high, body⟩⟩⟩⟩
  · exact iff_of_true (hshort (by simp [readLines])) (by simp)
  · exact iff_of_true (hshort (by simp [readLines])) (by simp)
  · exact iff_of_true (hshort (by simp [readLines])) (by simp)
  · exact iff_of_true (hshort (by simp [readLines])) (by simp)
  · obtain ⟨text, more, hline⟩ := segments_line first second low high body
    simp [hline]

/-- **The mark at the end of a program without lines** is seen only if at most one byte stands behind it. Two more bytes
are taken for the number of a line and shown. Behind a line the mark ends the listing, whatever stands behind it. -/
theorem segments_endMark_iff (padding : List UInt8) :
    (segments (0xFF :: 0 :: 0 :: padding) = .ok [] ↔ padding.length < 2) ∧
    (∀ low high : UInt8, ∃ text more, segments (0xFF :: 0 :: 0 :: low :: high :: padding) =
      .ok (⟨.lineNumber, decimal (word low high)⟩ :: ⟨.plain, ' ' :: text⟩ :: more)) ∧
    ∀ l : LineFront, segments (0xFF :: (l.encode ++ 0 :: 0 :: 0 :: padding)) =
      .ok (Segment.join (l.pieces ++ [⟨.plain, ['\n']⟩])) := by
  refine ⟨?_, fun low high => segments_line 0 0 low high padding, fun l => segments_front_end l padding⟩
  rw [segments_eq_nil_iff, List.length_cons, List.length_cons]
  omega

/-- Two zero bytes behind the mark are shown as line 0. -/
theorem segments_endMark_zeros :
    segments [0xFF, 0, 0, 0, 0] = .ok [⟨.lineNumber, ['0']⟩, ⟨.plain, [' ']⟩] ∧ segments [0xFF, 0, 0, 0, 0] ≠ .ok [] := by
  refine ⟨segments_of_readLines ?_, fun h => ?_⟩
  · have hlines : readLines [0, 0, 0, 0] = [⟨.lineNumber, decimal (word 0 0)⟩, ⟨.plain, [' ']⟩] := by
      simp [readLines, readBody, endLine, atEndMark]
    rw [hlines]
    rfl
  · exact absurd ((segments_eq_nil_iff [0, 0, 0, 0]).1 h) (by decide)

end MsxWorkbench.Program
