import MsxWorkbench.Proofs.Program.ItemForms
import MsxWorkbench.Proofs.Program.OffsetReading
/-
# Line numbers at the start of text lines

In a listing every line number should be the first segment or stand behind a line break (`NumbersStartLines`). That is
so for every file but those that end inside a constant with a point of which only the last byte is missing
(`CutInSingle`): the four bytes from its code on are enough for another line, whose number is then shown behind the
text of the line that was cut off (`numbersStartLines_iff`).

What is said of a listing is a fact about its coloured text, where joining plays no part. The states of the walk have
it step by step (`Walk.OnCourse`).
-/
namespace MsxWorkbench.Program

open Segment (coloured)

/-! ## Numbers in coloured text -/

/-- Every line number is the first segment or has text before it that ends with a line break. -/
def NumbersStartLines (shown : List Segment) : Prop :=
  ∀ before s after, shown = before ++ s :: after → s.kind = .lineNumber →
    before = [] ∨ (Segment.textOf before).getLast? = some '\n'

/-- Between two characters no line number starts, unless the first one is a line break. -/
def NoNumberBetween (a b : Kind × Char) : Prop := b.1 = .lineNumber → a.1 = .lineNumber ∨ a.2 = '\n'

theorem getLast?_textOf (pieces : List Segment) :
    (Segment.textOf pieces).getLast? = (coloured pieces).getLast?.map Prod.snd := by
  rw [← Segment.map_snd_coloured, List.getLast?_map]

theorem isChain_piece (s : Segment) : (s.text.map (s.kind, ·)).IsChain NoNumberBetween := by
  refine (List.isChain_map _).2 (List.Pairwise.isChain (List.pairwise_of_forall ?_))
  intro a b hb
  exact .inl hb

theorem isChain_of_numbersStartLines {shown : List Segment} (h : Segment.Joined shown) (hstart : NumbersStartLines shown)
    (before after : List Segment) (hshown : shown = before ++ after) : (coloured after).IsChain NoNumberBetween := by
  induction after generalizing before with
  | nil => exact .nil
  | cons s after ih =>
    have hafter := ih (before ++ [s]) (by simpa using hshown)
    rw [Segment.coloured_cons]
    refine List.isChain_append.2 ⟨isChain_piece s, hafter, ?_⟩
    -- Between two segments: the second one has a first character, which belongs to a line number only if it does.
    intro a ha b hb hnumber
    right
    cases after with
    | nil => simp at hb
    | cons t after =>
      obtain ⟨c, text, htext⟩ := List.exists_cons_of_ne_nil (h.text_ne t (by simp [hshown]))
      obtain rfl : (t.kind, c) = b := by simpa [htext] using hb
      rcases hstart (before ++ [s]) t after (by simpa using hshown) hnumber with hnil | hlast
      · simp at hnil
      · rw [getLast?_textOf, Segment.coloured_append, Segment.coloured_cons, Segment.coloured_nil, List.append_nil,
          List.getLast?_append, Option.mem_def.1 ha] at hlast
        simpa using hlast

theorem numbersStartLines_of_isChain {shown : List Segment} (h : Segment.Joined shown)
    (hchain : (coloured shown).IsChain NoNumberBetween) : NumbersStartLines shown := by
  rintro before s after rfl hnumber
  rcases List.eq_nil_or_concat before with rfl | ⟨front, t, rfl⟩
  · exact .inl rfl
  right
  rw [List.concat_eq_append] at *
  obtain ⟨d, text, hs⟩ := List.exists_cons_of_ne_nil (h.text_ne s (by simp))
  obtain ⟨c, hlast⟩ := Option.isSome_iff_exists.1 (List.getLast?_isSome.2 (h.text_ne t (by simp)))
  have hkind : t.kind ≠ s.kind := by
    have hkinds := h.kind_ne
    rw [List.append_assoc] at hkinds
    exact (List.isChain_cons_cons.1 (List.isChain_append.1 hkinds).2.1).1
  have hcoloured : (coloured (front ++ [t])).getLast? = some (t.kind, c) := by
    simp [List.getLast?_append, hlast]
  rw [Segment.coloured_append] at hchain
  have hbetween := (List.isChain_append.1 hchain).2.2 _ hcoloured (s.kind, d) (by simp [hs]) hnumber
  rw [getLast?_textOf, hcoloured]
  rcases hbetween with hsame | hbreak
  · exact absurd (hsame.trans hnumber.symm) hkind
  · exact congrArg some hbreak

/-- In joined segments, line numbers start lines exactly if no line number starts between two characters. -/
theorem numbersStartLines_iff_isChain {shown : List Segment} (h : Segment.Joined shown) :
    NumbersStartLines shown ↔ (coloured shown).IsChain NoNumberBetween :=
  ⟨fun hstart => isChain_of_numbersStartLines h hstart [] shown rfl, numbersStartLines_of_isChain h⟩

/-! ## The text found so far -/

/-- The text ends inside a line, behind its number. -/
def InLine (found : List Segment) : Prop :=
  ∃ p, (coloured found).getLast? = some p ∧ p.1 ≠ .lineNumber ∧ p.2 ≠ '\n'

/-- A line may start behind the text. -/
def AtLineStart (found : List Segment) : Prop := ∀ p, (coloured found).getLast? = some p → p.2 = '\n'

theorem InLine.concat {found : List Segment} {s : Segment} (h : InLine found) (hkind : s.kind ≠ .lineNumber)
    (htext : s.text.getLast? ≠ some '\n') : InLine (found ++ [s]) := by
  obtain ⟨p, hlast, hp⟩ := h
  cases hs : s.text.getLast? with
  | none => exact ⟨p, by simp [List.getLast?_append, hs, hlast], hp⟩
  | some c =>
    refine ⟨(s.kind, c), by simp [List.getLast?_append, hs], hkind, ?_⟩
    rintro rfl
    exact htext hs

theorem Printed.getLast?_ne {text : List Char} (h : Printed text) : text.getLast? ≠ some '\n' := by
  intro hlast
  exact absurd (h _ (List.mem_of_getLast? hlast)) (by decide)

/-- Behind an item the text is still inside the line, unless the body ends there: a string may end with a line
break then. -/
theorem InLine.item {found : List Segment} {b : UInt8} {rest : List UInt8} {i : Item} (h : InLine found)
    (hi : readItem b rest = some i) : AtBodyEnd i.rest ∨ InLine (found ++ i.pieces) := by
  cases readItem_form hi with
  | piece hkind htext hafter =>
    exact .inr (h.concat (kind_of_readItem hi _ (List.mem_singleton_self _)) htext.getLast?_ne)
  | silent hafter => exact .inr (by simpa using h)
  | string =>
    refine (readString_last rest).imp_right fun hquote => h.concat (by simp) ?_
    rw [List.getLast?_cons, hquote]
    decide
  | rem hb => exact .inr (h.concat (by decide) (by decide))
  | apostrophe hb => exact .inr (h.concat (by decide) (by decide))

theorem kind_of_mem_coloured {pieces : List Segment} (h : ∀ s ∈ pieces, s.kind ≠ .lineNumber) :
    ∀ p ∈ coloured pieces, p.1 ≠ .lineNumber := by
  intro p hp
  obtain ⟨s, hs, hc⟩ := List.mem_flatMap.1 hp
  obtain ⟨c, -, rfl⟩ := List.mem_map.1 hc
  exact h s hs

theorem isChain_append_of_kind {found pieces : List Segment} (h : (coloured found).IsChain NoNumberBetween)
    (hpieces : ∀ s ∈ pieces, s.kind ≠ .lineNumber) : (coloured (found ++ pieces)).IsChain NoNumberBetween := by
  have hkind := kind_of_mem_coloured hpieces
  rw [Segment.coloured_append]
  refine List.isChain_append.2 ⟨h, List.Pairwise.isChain ?_, ?_⟩
  · exact List.pairwise_of_forall_mem_list fun a _ b hb hnumber => absurd hnumber (hkind b hb)
  · exact fun a _ b hb hnumber => absurd hnumber (hkind b (List.mem_of_mem_head? hb))

/-! ## The states of the walk -/

namespace Walk

/-- The states that the walk over a file comes to. -/
inductive Reached (file : List UInt8) : Walk → Prop where
  | start : Reached file .start
  | step {w v : Walk} (hw : Reached file w) (hstep : w.step file = .ok v) : Reached file v

theorem Reached.run {file : List UInt8} : ∀ {n : Nat} {w v : Walk}, Reached file w → w.run file n = .ok v → Reached file v
  | 0, _, _, hw, hrun => Except.ok.inj hrun ▸ hw
  | n + 1, w, v, hw, hrun => by
    rw [Walk.run] at hrun
    cases hstep : w.step file with
    | error e => rw [hstep] at hrun; cases hrun
    | ok u =>
      rw [hstep] at hrun
      exact (hw.step hstep).run hrun

end Walk

/-- The walk comes to a constant with a point that has only three bytes of its operand before the end of the file. -/
def CutInSingle (file : List UInt8) : Prop :=
  ∃ w, Walk.Reached file w ∧ w.AtItem file 0x1D ∧ w.offset + 4 = file.length

namespace Walk

/-- Where the text found so far stands, by the loop that the walk is in. -/
def Stands (file : List UInt8) (w : Walk) : Prop :=
  match w.phase with
  | .line => AtLineStart w.found ∨ file.length < w.offset + 4 ∨ CutInSingle file
  | .body false => AtBodyEnd (file.drop w.offset) ∨ InLine w.found
  | .lineEnd => AtBodyEnd (file.drop w.offset) ∨ file.length < w.offset + 4 ∨ CutInSingle file
  | .body true | .string _ | .done => True

/-- What holds of the states that the walk comes to: where the text stands, and that its line numbers start lines. -/
structure OnCourse (file : List UInt8) (w : Walk) : Prop where
  stands : w.Stands file
  numbers : CutInSingle file ∨ (coloured w.found).IsChain NoNumberBetween

section
variable {file : List UInt8} {w v : Walk}

/-- A step that finds no line number keeps the numbers. -/
theorem OnCourse.go {phase : Phase} {size : Nat} {pieces : List Segment} (h : OnCourse file w)
    (hpieces : ∀ s ∈ pieces, s.kind ≠ .lineNumber) (hstands : (w.go phase size pieces).Stands file) :
    OnCourse file (w.go phase size pieces) :=
  ⟨hstands, h.numbers.imp_right fun hchain => isChain_append_of_kind hchain hpieces⟩

theorem OnCourse.stepLine (h : OnCourse file w) (hphase : w.phase = .line) (hstep : w.stepLine file = .ok v) :
    OnCourse file v := by
  have hstands := h.stands
  simp only [Stands, hphase] at hstands
  unfold Walk.stepLine at hstep
  split at hstep
  · cases hstep
    exact h.go (by simp) trivial
  · rename_i hlong
    obtain ⟨low, hlow, -⟩ := byteAt_of_lt (show w.offset + 2 < file.length by omega)
    obtain ⟨high, hhigh, -⟩ := byteAt_of_lt (show w.offset + 3 < file.length by omega)
    simp only [hlow, hhigh, bind, Except.bind, pure, Except.pure] at hstep
    cases hstep
    refine ⟨.inr ⟨(.plain, ' '), by simp [Walk.go], by simp, by simp⟩, ?_⟩
    rcases h.numbers with hcut | hchain
    · exact .inl hcut
    rcases hstands with hstart | hshort | hcut
    · right
      rw [Walk.go, Segment.coloured_append]
      refine List.isChain_append.2 ⟨hchain, ?_, fun a ha b _ _ => .inr (hstart a ha)⟩
      have hnumber : (coloured [⟨.lineNumber, decimal (word low high)⟩]).IsChain NoNumberBetween := by
        simpa using isChain_piece ⟨.lineNumber, decimal (word low high)⟩
      exact isChain_append_of_kind hnumber (by simp)
    · exact absurd hshort hlong
    · exact .inl hcut

theorem OnCourse.stepItem {token : UInt8} (h : OnCourse file w) (hw : Reached file w) (hitem : w.AtItem file token)
    (hstep : w.stepItem file token = .ok v) : OnCourse file v := by
  have hstands := h.stands
  simp only [Stands, hitem.phase] at hstands
  obtain ⟨u, hu, hform⟩ := stepItem_itemStep file w token
  rw [hu] at hstep
  cases hstep
  cases hform with
  | item hi hrest hpos =>
    rename_i i size
    refine h.go (kind_of_readItem hi) ?_
    rcases hstands with hend | hline
    · simp [AtBodyEnd, hitem.drop, hitem.ne_zero] at hend
    · have hbehind := hline.item hi
      rw [hrest] at hbehind
      simp only [Stands, Walk.go]
      cases i.remark with
      | false => exact hbehind
      | true => trivial
  | cut hi =>
    refine h.go (by simp) ?_
    have hlength : (file.drop (w.offset + 1)).length = file.length - (w.offset + 1) := List.length_drop
    have hlt := hitem.lt
    simp only [Stands, Walk.go]
    rcases length_of_readItem_none hi with hshort | ⟨hthree, rfl⟩
    · exact .inr (.inl (by omega))
    · exact .inr (.inr ⟨w, hw, hitem, by omega⟩)
  | quote hlead => exact h.go (by simp) trivial

theorem OnCourse.stepBody {remark : Bool} (h : OnCourse file w) (hw : Reached file w) (hphase : w.phase = .body remark)
    (hstep : w.stepBody remark file = .ok v) : OnCourse file v := by
  unfold Walk.stepBody at hstep
  split at hstep
  · rename_i hlt
    obtain ⟨token, htoken, hdrop⟩ := byteAt_of_lt hlt
    simp only [htoken, bind, Except.bind, pure, Except.pure] at hstep
    by_cases hzero : token = 0
    · rw [if_pos hzero] at hstep
      cases hstep
      exact h.go (by simp) (.inl (.inr (by simp [Walk.go, hdrop, hzero])))
    · rw [if_neg hzero] at hstep
      cases remark with
      | false => exact h.stepItem hw ⟨hphase, hlt, hdrop, hzero⟩ hstep
      | true =>
        cases hstep
        exact h.go (by simp) trivial
  · rename_i hend
    cases hstep
    exact h.go (by simp) (.inl (.inl (List.drop_eq_nil_of_le (by simp [Walk.go]; omega))))

theorem OnCourse.stepString {text : List Char} (h : OnCourse file w) (hstep : w.stepString text file = .ok v) :
    OnCourse file v := by
  unfold Walk.stepString at hstep
  split at hstep
  · rename_i hlt
    obtain ⟨token, htoken, -⟩ := byteAt_of_lt hlt
    simp only [htoken, zeroAt_eq, bind, Except.bind, pure, Except.pure] at hstep
    split at hstep
    · rename_i hquote
      cases hstep
      refine h.go (by simp) (.inr ⟨(.string, '"'), ?_, by simp, by simp⟩)
      rw [hquote]
      simp [Walk.go, charOf]
    · split at hstep
      · rename_i hnext
        cases hstep
        exact h.go (by simp) (.inl (.inr (beq_iff_eq.1 hnext)))
      · cases hstep
        exact h.go (by simp) trivial
  · rename_i hend
    cases hstep
    exact h.go (by simp) (.inl (.inl (List.drop_eq_nil_of_le (by simp [Walk.go]; omega))))

/-- Behind a body the walk passes the end of the line, and then goes to a line or ends. -/
theorem stepLineEnd_cases (hphase : w.phase = .lineEnd) (hstep : w.stepLineEnd file = .ok v) :
    ∃ size phase, v = w.go phase size (Program.endLine (file.drop w.offset)).1 ∧ (phase = .line ∨ phase = .done) ∧
      file.drop (w.offset + size) = (Program.endLine (file.drop w.offset)).2 := by
  obtain ⟨size, hend, hdrop⟩ := endLine_eq file hphase
  have hgo : ∀ phase, (w.go .lineEnd size (Program.endLine (file.drop w.offset)).1).go phase 0 [] =
      w.go phase size (Program.endLine (file.drop w.offset)).1 := by
    intro phase
    simp only [Walk.go, Nat.add_zero, List.append_nil]
  simp only [stepLineEnd, hend, bind, Except.bind, pure, Except.pure, hgo] at hstep
  split at hstep
  · rename_i hin
    obtain ⟨first, hfirst, -⟩ := byteAt_of_lt (Nat.lt_of_succ_lt hin)
    obtain ⟨second, hsecond, -⟩ := byteAt_of_lt hin
    simp only [hfirst, hsecond] at hstep
    split at hstep
    · exact ⟨size, .done, (Except.ok.inj hstep).symm, .inr rfl, hdrop⟩
    · exact ⟨size, .line, (Except.ok.inj hstep).symm, .inl rfl, hdrop⟩
  · exact ⟨size, .line, (Except.ok.inj hstep).symm, .inl rfl, hdrop⟩

theorem OnCourse.stepLineEnd (h : OnCourse file w) (hphase : w.phase = .lineEnd)
    (hstep : w.stepLineEnd file = .ok v) : OnCourse file v := by
  have hstands := h.stands
  simp only [Stands, hphase] at hstands
  obtain ⟨size, phase, rfl, hnext, hdrop⟩ := stepLineEnd_cases hphase hstep
  have hplain : ∀ s ∈ (Program.endLine (file.drop w.offset)).1, s.kind ≠ .lineNumber := by
    cases file.drop w.offset with
    | nil => simp [Program.endLine]
    | cons b rest =>
      simp only [Program.endLine]
      split <;> simp
  refine h.go hplain ?_
  rcases hnext with rfl | rfl
  · simp only [Stands, Walk.go]
    rcases hstands with (hnil | hzero) | hshort | hcut
    · have hover : file.length ≤ w.offset := List.drop_eq_nil_iff.1 hnil
      exact .inr (.inl (by omega))
    · obtain ⟨rest, hrest⟩ := List.head?_eq_some_iff.1 hzero
      left
      intro p hp
      rw [hrest] at hp
      simp only [Program.endLine, if_pos, Segment.coloured_append, Segment.coloured_cons, List.map_cons, List.map_nil,
        Segment.coloured_nil, List.append_nil, List.getLast?_append, List.getLast?_singleton, Option.some_or,
        Option.some.injEq] at hp
      rw [← hp]
    · exact .inr (.inl (by omega))
    · exact .inr (.inr hcut)
  · trivial

/-- A step stays on course. -/
theorem OnCourse.step (h : OnCourse file w) (hw : Reached file w) (hstep : w.step file = .ok v) : OnCourse file v := by
  unfold Walk.step at hstep
  cases hphase : w.phase with
  | line => rw [hphase] at hstep; exact h.stepLine hphase hstep
  | body remark => rw [hphase] at hstep; exact h.stepBody hw hphase hstep
  | string text => rw [hphase] at hstep; exact h.stepString hstep
  | lineEnd => rw [hphase] at hstep; exact h.stepLineEnd hphase hstep
  | done => rw [hphase] at hstep; exact Except.ok.inj hstep ▸ h

/-- The walk stays on course. -/
theorem Reached.onCourse (h : Reached file w) : OnCourse file w := by
  induction h with
  | start => exact ⟨.inl fun p hp => (by cases hp), .inr .nil⟩
  | step hw hstep ih => exact ih.step hw hstep

theorem Reached.listing_eq (h : Reached file w) : w.listing file = Walk.start.listing file := by
  induction h with
  | start => rfl
  | step hw hstep ih =>
    rename_i u v
    by_cases hdone : u.phase = .done
    · have hsame : u.step file = .ok u := by rw [Walk.step, hdone]
      rw [← Except.ok.inj (hsame.symm.trans hstep)]
      exact ih
    · obtain ⟨v', hv', hfollows⟩ := step_follows file u hdone
      rw [← Except.ok.inj (hv'.symm.trans hstep), hfollows.listing_eq]
      exact ih

end

end Walk

/-- A constant that is cut off before its last byte is shown as another line. -/
theorem Walk.toCome_cut {file : List UInt8} {w : Walk} (hitem : w.AtItem file 0x1D)
    (hend : w.offset + 4 = file.length) :
    ∃ low high, w.toCome file = [⟨.lineNumber, decimal (word low high)⟩, ⟨.plain, [' ']⟩] := by
  have hlength : (file.drop (w.offset + 1)).length = 3 := by
    rw [List.length_drop]
    omega
  obtain ⟨a, low, high, hbytes⟩ := List.length_eq_three.1 hlength
  have hbody : readBody [0x1D, a, low, high] = ([], [0x1D, a, low, high]) := readBody_none (by decide) rfl
  refine ⟨low, high, ?_⟩
  simp only [Walk.toCome, hitem.phase, hitem.drop, hbytes, Walk.fromBody, hbody]
  simp [Walk.fromEnd, Program.endLine, atEndMark, readLines, readBody]

/-- **Line numbers start lines** in the listing of a file exactly if the file does not end inside a constant with a point
of which only the last byte is missing. -/
theorem numbersStartLines_iff {file : List UInt8} {shown : List Segment} (h : segments file = .ok shown) :
    NumbersStartLines shown ↔ ¬ CutInSingle file := by
  obtain ⟨rest, rfl⟩ : ∃ rest, file = 0xFF :: rest := by
    cases file with
    | nil => cases h
    | cons b rest =>
      by_cases hb : b = 0xFF
      · exact ⟨rest, by rw [hb]⟩
      · rw [segments, pieces, if_neg hb] at h
        cases h
  obtain rfl : Segment.join (readLines rest) = shown := Except.ok.inj h
  have hlisting : Walk.start.listing (0xFF :: rest) = Segment.join (readLines rest) := rfl
  rw [numbersStartLines_iff_isChain (Segment.joined_join _), ← hlisting]
  constructor
  · rintro hchain ⟨w, hw, hitem, hend⟩
    obtain ⟨low, high, hcome⟩ := Walk.toCome_cut hitem hend
    rw [← hw.listing_eq, Walk.listing, Segment.coloured_join, hcome, Segment.coloured_append] at hchain
    have hstands := hw.onCourse.stands
    simp only [Walk.Stands, hitem.phase] at hstands
    rcases hstands with hover | ⟨p, hlast, hkind, hbreak⟩
    · simp [AtBodyEnd, hitem.drop] at hover
    · obtain ⟨d, digits, hdigits⟩ := List.exists_cons_of_ne_nil (Nat.toDigits_ne_nil (b := 10) (n := word low high))
      have hbetween := (List.isChain_append.1 hchain).2.2 p hlast (.lineNumber, d) (by simp [decimal, hdigits]) rfl
      rcases hbetween with hsame | hsame
      · exact hkind hsame
      · exact hbreak hsame
  · intro hcut
    obtain ⟨n, -, v, hrun, -, hfound⟩ := Walk.exists_run (0xFF :: rest) .start
    rw [← hfound, Segment.coloured_join]
    exact (Walk.Reached.start.run hrun).onCourse.numbers.resolve_left hcut

/-- Two lines, the first with a whole constant. -/
theorem numbersStartLines_iff_whole :
    let shown : List Segment := [⟨.lineNumber, "10".toList⟩, ⟨.plain, " ".toList⟩, ⟨.number, "1.5".toList⟩,
      ⟨.plain, "\n".toList⟩, ⟨.lineNumber, "20".toList⟩, ⟨.plain, " ".toList⟩, ⟨.command, "END".toList⟩,
      ⟨.plain, "\n".toList⟩]
    let file := [0xFF, 1, 1, 10, 0, 0x1D, 0x41, 0x15, 0, 0, 0, 1, 1, 20, 0, 0x81, 0, 0, 0]
    segments file = .ok shown ∧ NumbersStartLines shown ∧ ¬ CutInSingle file := by
  intro shown file
  have hsegments : segments file = .ok shown := segments_of_readLines (by decide +kernel)
  have hstart : NumbersStartLines shown := by
    refine (numbersStartLines_iff_isChain ⟨by simp [shown], by simp [shown]⟩).2 ?_
    simp [shown, coloured, NoNumberBetween]
  exact ⟨hsegments, hstart, (numbersStartLines_iff hsegments).1 hstart⟩

/-- Of a constant with a point the last byte is missing. Its other bytes are shown as line 770, behind the text of
line 10. -/
theorem number_of_cut_constant :
    let shown : List Segment := [⟨.lineNumber, "10".toList⟩, ⟨.plain, " ".toList⟩, ⟨.lineNumber, "770".toList⟩,
      ⟨.plain, " ".toList⟩]
    segments [0xFF, 0, 0, 10, 0, 0x1D, 1, 2, 3] = .ok shown ∧ ¬ NumbersStartLines shown := by
  intro shown
  refine ⟨segments_of_readLines (by decide +kernel), fun hstart => ?_⟩
  rcases hstart [⟨.lineNumber, "10".toList⟩, ⟨.plain, " ".toList⟩] ⟨.lineNumber, "770".toList⟩ [⟨.plain, " ".toList⟩] rfl
    rfl with hnil | hbreak
  · cases hnil
  · exact absurd hbreak (by decide)

end MsxWorkbench.Program
