import MsxWorkbench.Program.Spacing
import MsxWorkbench.Proofs.Program.References
import MsxWorkbench.Proofs.Program.WordTable
import MsxWorkbench.Proofs.Text.Capitals
/-
# Parts of a line

Respacing cuts a line into parts and joins them with blanks. Each part is taken from the text as it stands, but
for the letter case of reserved words (`LeadingPart.kept_eq`), the parts together are the text without blanks
(`kept_scanParts`), and joining adds blanks only (`exists_joinParts`). So the line keeps its characters
(`kept_respace`).
-/
namespace MsxWorkbench.Program

open Text (isBlank unspaced)

/-! ## What is kept -/

/-- What respacing keeps of a text: its characters without the blanks, in capitals unless the case is kept. -/
def kept (keepCase : Bool) (s : List Char) : List Char := casedWord keepCase (unspaced s)

section
variable {keepCase : Bool} {s t : List Char}

@[simp] theorem kept_true : kept true s = unspaced s := rfl

@[simp] theorem kept_false : kept false s = Text.upper (unspaced s) := rfl

@[simp] theorem kept_append (keepCase : Bool) (s t : List Char) :
    kept keepCase (s ++ t) = kept keepCase s ++ kept keepCase t := by
  cases keepCase <;> simp [Text.upper_append]

theorem kept_of_unspaced (h : unspaced s = unspaced t) : kept keepCase s = kept keepCase t := by
  rw [kept, h, kept]

theorem kept_of_allBlank (h : ∀ c ∈ s, isBlank c = true) : kept keepCase s = [] := by
  rw [kept, Text.unspaced_of_allBlank h]
  cases keepCase <;> rfl

theorem kept_trimRight (s : List Char) : kept keepCase (Text.trimRight s) = kept keepCase s :=
  kept_of_unspaced (Text.blind_unspaced.trimRight_eq s)

theorem mem_casedWord_of_subset {c : Char} (h : s ⊆ t) (hc : c ∈ casedWord keepCase s) : c ∈ t ∨ c ∈ Text.upper t := by
  cases keepCase with
  | true => exact .inl (h hc)
  | false => exact .inr (Text.upper_subset h hc)

theorem kept_casedWord : kept keepCase (casedWord keepCase s) = kept keepCase s := by
  cases keepCase with
  | true => rfl
  | false =>
    simp only [casedWord, kept_false, Bool.false_eq_true, if_false]
    rw [Text.unspaced_upper, Text.upper_upper]

end

/-! ## The part at the start -/

theorem stringOf_isPrefix (s : List Char) : stringOf s <+: s := by
  cases s with
  | nil => exact List.nil_prefix
  | cons quote rest =>
    rw [stringOf, List.cons_append, List.cons_prefix_cons]
    refine ⟨rfl, ?_⟩
    have hprefix : rest.takeWhile (· != '"') ++ (rest.dropWhile (· != '"')).take 1 <+:
        rest.takeWhile (· != '"') ++ rest.dropWhile (· != '"') :=
      (List.prefix_append_right_inj _).2 (List.take_prefix 1 _)
    rwa [List.takeWhile_append_dropWhile, ← drop_length_takeWhile] at hprefix

theorem runOf_isPrefix : ∀ s : List Char, runOf s <+: s
  | [] => List.nil_prefix
  | c :: rest => by
    rw [runOf]
    split
    · exact List.nil_prefix
    · exact List.cons_prefix_cons.2 ⟨rfl, runOf_isPrefix rest⟩

theorem mem_of_leadingWord? {s w : List Char} (h : leadingWord? s = some w) :
    w ∈ reservedWords.map String.toList ∧ Text.startsUpper w s = true := by
  rw [leadingWord?] at h
  have hmem := List.mem_of_find?_eq_some h
  rw [wordsByLength, List.mem_mergeSort] at hmem
  have hstarts := List.find?_some h
  exact ⟨hmem, hstarts⟩

/-- The forms of the part at the start of a text, with the number of characters it is taken from. -/
inductive LeadingPart (keepCase : Bool) (s : List Char) : List Char × Nat → Prop
  | string : s.head? = some '"' → LeadingPart keepCase s (stringOf s, (stringOf s).length)
  | remWord : atRemWord s = true → LeadingPart keepCase s (casedWord keepCase (s.take 3) ++ s.drop 3, s.length)
  | apostrophe : s.head? = some Text.apostrophe → LeadingPart keepCase s (s, s.length)
  | word {w : List Char} : leadingWord? s = some w →
      LeadingPart keepCase s (casedWord keepCase (s.take w.length), w.length)
  | single {c : Char} : s.head? = some c → c ≠ '"' → LeadingPart keepCase s ([c], 1)
  | run {c : Char} {rest : List Char} : s = c :: rest → c ≠ '"' →
      LeadingPart keepCase s (c :: runOf rest, (runOf rest).length + 1)

theorem leadingPart_form (keepCase : Bool) (c : Char) (rest : List Char) :
    LeadingPart keepCase (c :: rest) (leadingPart keepCase (c :: rest)) := by
  simp only [leadingPart]
  split
  · rename_i hquote
    exact .string (by rw [hquote]; rfl)
  · rename_i hquote
    split
    · rename_i hrem
      exact .remWord hrem
    · split
      · rename_i hapostrophe
        exact .apostrophe (by rw [hapostrophe]; rfl)
      · split
        · rename_i w hw
          exact .word hw
        · split
          · exact .single rfl hquote
          · exact .run rfl hquote

namespace LeadingPart

variable {keepCase : Bool} {s : List Char} {p : List Char × Nat}

theorem pos (h : LeadingPart keepCase s p) (hs : s ≠ []) : 0 < p.2 := by
  cases h with
  | string => cases s <;> simp_all [stringOf]
  | remWord => exact List.length_pos_iff.2 hs
  | apostrophe => exact List.length_pos_iff.2 hs
  | word hw => exact List.length_pos_iff.2 (wordShape (mem_of_leadingWord? hw).1).ne_nil
  | single => exact Nat.one_pos
  | run => exact Nat.succ_pos _

/-- A part keeps what it is taken from. -/
theorem kept_eq (h : LeadingPart keepCase s p) : kept keepCase p.1 = kept keepCase (s.take p.2) := by
  cases h with
  | string => rw [← List.prefix_iff_eq_take.1 (stringOf_isPrefix s)]
  | remWord => rw [kept_append, kept_casedWord, ← kept_append, List.take_append_drop, List.take_length]
  | apostrophe => rw [List.take_length]
  | word => exact kept_casedWord
  | @single c hhead =>
    obtain ⟨rest, rfl⟩ : ∃ rest, s = c :: rest := by
      cases s with
      | nil => cases hhead
      | cons d rest => exact ⟨rest, by rw [Option.some.inj hhead]⟩
    rfl
  | @run c rest hcons =>
    rw [hcons, List.take_succ_cons, ← List.prefix_iff_eq_take.1 (runOf_isPrefix rest)]

/-- The characters of a part are those of the text and their capitals. -/
theorem mem {c : Char} (h : LeadingPart keepCase s p) (hc : c ∈ p.1) : c ∈ s ∨ c ∈ Text.upper s := by
  cases h with
  | string => exact .inl ((stringOf_isPrefix s).subset hc)
  | remWord =>
    rcases List.mem_append.1 hc with hc | hc
    · exact mem_casedWord_of_subset (List.take_subset 3 s) hc
    · exact .inl (List.mem_of_mem_drop hc)
  | apostrophe => exact .inl hc
  | word => exact mem_casedWord_of_subset (List.take_subset _ s) hc
  | single hhead =>
    rw [List.mem_singleton.1 hc]
    exact .inl (List.mem_of_mem_head? hhead)
  | @run first rest hcons =>
    rw [hcons]
    rcases List.mem_cons.1 hc with rfl | hc
    · exact .inl List.mem_cons_self
    · exact .inl (List.mem_cons_of_mem _ ((runOf_isPrefix rest).subset hc))

end LeadingPart

/-! ## The parts of a text -/

section
variable {keepCase : Bool} {c : Char} {rest s : List Char}

theorem scanParts_skip (n : Nat) : ∀ s : List Char, scanParts keepCase n s = scanParts keepCase 0 (s.drop n) := by
  induction n with
  | zero => intro s; rfl
  | succ n ih =>
    intro s
    cases s with
    | nil => rfl
    | cons c rest => rw [scanParts, ih, List.drop_succ_cons]

theorem scanParts_blank (hc : isBlank c = true) : scanParts keepCase 0 (c :: rest) = scanParts keepCase 0 rest := by
  rw [scanParts, if_pos hc]

theorem scanParts_part (hc : isBlank c = false) : scanParts keepCase 0 (c :: rest) =
    (leadingPart keepCase (c :: rest)).1 ::
      scanParts keepCase 0 ((c :: rest).drop (leadingPart keepCase (c :: rest)).2) := by
  have hpos := (leadingPart_form keepCase c rest).pos (List.cons_ne_nil c rest)
  obtain ⟨n, hn⟩ := Nat.exists_eq_add_one.2 hpos
  rw [scanParts, if_neg (by simp [hc])]
  simp only [hn, Nat.add_sub_cancel, List.drop_succ_cons]
  rw [scanParts_skip]

theorem scanParts_of_whole {part : List Char} (hc : isBlank c = false)
    (hpart : leadingPart keepCase (c :: rest) = (part, (c :: rest).length)) :
    scanParts keepCase 0 (c :: rest) = [part] := by
  rw [scanParts_part hc, hpart, List.drop_length, scanParts]

/-- Cuts a text at its blanks and parts. -/
theorem induction_parts (keepCase : Bool) {P : List Char → Prop} (nil : P [])
    (blank : ∀ c rest, isBlank c = true → P rest → P (c :: rest))
    (part : ∀ c rest p, isBlank c = false → LeadingPart keepCase (c :: rest) p →
      leadingPart keepCase (c :: rest) = p → P ((c :: rest).drop p.2) → P (c :: rest)) (s : List Char) : P s := by
  induction hn : s.length using Nat.strongRecOn generalizing s with
  | ind n ih =>
    cases s with
    | nil => exact nil
    | cons c rest =>
      rw [List.length_cons] at hn
      cases hc : isBlank c with
      | true => exact blank c rest hc (ih rest.length (by omega) rest rfl)
      | false =>
        have hform := leadingPart_form keepCase c rest
        have hpos := hform.pos (List.cons_ne_nil c rest)
        refine part c rest _ hc hform rfl (ih _ ?_ _ rfl)
        rw [List.length_drop, List.length_cons]
        omega

/-- The parts of a text keep what it has. -/
theorem kept_scanParts : kept keepCase (scanParts keepCase 0 s).flatten = kept keepCase s := by
  induction s using induction_parts keepCase with
  | nil => rfl
  | blank c rest hc ih =>
    rw [scanParts_blank hc, ih]
    exact (kept_of_unspaced (Text.blind_unspaced.cons c rest hc)).symm
  | part c rest p hc hform hp ih =>
    rw [scanParts_part hc, hp, List.flatten_cons, kept_append, ih, hform.kept_eq, ← kept_append, List.take_append_drop]

theorem mem_scanParts {d : Char} (hd : d ∈ (scanParts keepCase 0 s).flatten) : d ∈ s ∨ d ∈ Text.upper s := by
  induction s using induction_parts keepCase with
  | nil => cases hd
  | blank c rest hc ih =>
    rw [scanParts_blank hc] at hd
    exact (ih hd).imp (List.mem_cons_of_mem c) fun h => Text.upper_subset (List.subset_cons_self c rest) h
  | part c rest p hc hform hp ih =>
    rw [scanParts_part hc, hp, List.flatten_cons, List.mem_append] at hd
    rcases hd with hd | hd
    · exact hform.mem hd
    · exact (ih hd).imp List.mem_of_mem_drop fun h => Text.upper_subset (List.drop_subset p.2 (c :: rest)) h

end

/-! ## Joining -/

/-- The parts of a line put together. -/
def joined : List (List Char) → List Char
  | [] => []
  | first :: rest => joinParts first first rest

theorem joinParts_append (ps qs : List (List Char)) : ∀ soFar previous : List Char, ∃ last,
    joinParts soFar previous (ps ++ qs) = joinParts (joinParts soFar previous ps) last qs := by
  induction ps with
  | nil => intro soFar previous; exact ⟨previous, rfl⟩
  | cons p ps ih => intro soFar previous; exact ih _ p

theorem unspaced_gap (needed : Bool) : unspaced (if needed = true then [' '] else []) = [] := by
  cases needed <;> rfl

/-- Joining adds the parts and blanks. -/
theorem exists_joinParts (ps : List (List Char)) : ∀ soFar previous : List Char, ∃ added,
    joinParts soFar previous ps = soFar ++ added ∧ unspaced added = unspaced ps.flatten ∧
      (ps = [] → added = []) := by
  induction ps with
  | nil => intro soFar previous; exact ⟨[], by simp [joinParts], rfl, fun _ => rfl⟩
  | cons p ps ih =>
    intro soFar previous
    rw [joinParts]
    have hblank := unspaced_gap (needsBlank soFar previous p)
    generalize (if needsBlank soFar previous p = true then [' '] else []) = gap at hblank
    obtain ⟨added, hjoin, hadded, -⟩ := ih (soFar ++ gap ++ p) p
    refine ⟨gap ++ (p ++ added), ?_, ?_, by simp⟩
    · rw [hjoin]
      simp only [List.append_assoc]
    · simp [hblank, hadded]

/-- Where a part stands in the joined line. -/
theorem exists_joined (ps : List (List Char)) (p : List Char) (qs : List (List Char)) : ∃ before after,
    joined (ps ++ p :: qs) = before ++ p ++ after ∧ unspaced before = unspaced ps.flatten ∧
      unspaced after = unspaced qs.flatten ∧ (qs = [] → after = []) := by
  cases ps with
  | nil =>
    obtain ⟨added, hjoin, hadded, hnil⟩ := exists_joinParts qs p p
    exact ⟨[], added, hjoin, rfl, hadded, hnil⟩
  | cons first ps =>
    obtain ⟨last, happend⟩ := joinParts_append ps (p :: qs) first first
    obtain ⟨added, hjoin, hadded, -⟩ := exists_joinParts ps first first
    rw [List.cons_append, joined, happend, hjoin, joinParts]
    have hblank := unspaced_gap (needsBlank (first ++ added) last p)
    generalize (if needsBlank (first ++ added) last p = true then [' '] else []) = gap at hblank
    obtain ⟨after, hafter, hunspaced, hnil⟩ := exists_joinParts qs (first ++ added ++ gap ++ p) p
    exact ⟨first ++ added ++ gap, after, hafter, by simp [hblank, hadded], hunspaced, hnil⟩

theorem unspaced_joined (ps : List (List Char)) : unspaced (joined ps) = unspaced ps.flatten := by
  cases ps with
  | nil => rfl
  | cons p ps =>
    obtain ⟨before, after, hjoined, hbefore, hafter, -⟩ := exists_joined [] p ps
    rw [List.nil_append] at hjoined
    rw [hjoined]
    simp [hbefore, hafter]

theorem mem_joinParts {d : Char} (ps : List (List Char)) : ∀ {soFar previous : List Char},
    d ∈ joinParts soFar previous ps → d = ' ' ∨ d ∈ soFar ∨ d ∈ ps.flatten := by
  induction ps with
  | nil => exact fun hd => .inr (.inl hd)
  | cons p ps ih =>
    intro soFar previous hd
    rw [joinParts] at hd
    rw [List.flatten_cons, List.mem_append]
    rcases ih hd with hd | hd | hd
    · exact .inl hd
    · rcases List.mem_append.1 hd with hd | hd
      · rcases List.mem_append.1 hd with hd | hd
        · exact .inr (.inl hd)
        · split at hd
          · exact .inl (List.mem_singleton.1 hd)
          · cases hd
      · exact .inr (.inr (.inl hd))
    · exact .inr (.inr (.inr hd))

theorem mem_joined {d : Char} {ps : List (List Char)} (hd : d ∈ joined ps) : d = ' ' ∨ d ∈ ps.flatten := by
  cases ps with
  | nil => cases hd
  | cons p ps =>
    rw [List.flatten_cons, List.mem_append]
    exact mem_joinParts ps hd

/-! ## The whole line -/

theorem takeWhile_bne_of_notMem {c : Char} {s : List Char} (hc : c ∉ s) : s.takeWhile (· != c) = s := by
  rw [List.takeWhile_eq_self_iff]
  intro d hd
  rw [bne_iff_ne]
  rintro rfl
  exact hc hd

theorem splitNumber_eq {line : List Char} (hline : '\n' ∉ line) : splitNumber line =
    if ((Text.trimLeft line).takeWhile Text.isDigit).isEmpty then ([], line)
    else ((Text.trimLeft line).takeWhile Text.isDigit,
      Text.trimLeft ((Text.trimLeft line).dropWhile Text.isDigit)) := by
  have hcode : (Text.trimLeft ((Text.trimLeft line).dropWhile Text.isDigit)).takeWhile (· != '\n') =
      Text.trimLeft ((Text.trimLeft line).dropWhile Text.isDigit) := by
    refine takeWhile_bne_of_notMem fun hmem => hline ?_
    have htrimmed := (List.dropWhile_sublist Text.isDigit).subset ((List.dropWhile_sublist isBlank).subset hmem)
    exact (List.dropWhile_sublist isBlank).subset htrimmed
  rw [splitNumber, hcode]

/-- A line is its number and its code with blanks before each. -/
theorem exists_splitNumber {line : List Char} (hline : '\n' ∉ line) : ∃ lead gap,
    line = lead ++ ((splitNumber line).1 ++ (gap ++ (splitNumber line).2)) ∧ (∀ c ∈ lead, isBlank c = true) ∧
      (∀ c ∈ gap, isBlank c = true) ∧ ∀ c ∈ (splitNumber line).1, Text.isDigit c = true := by
  rw [splitNumber_eq hline]
  split
  · exact ⟨[], [], by simp, by simp, by simp, by simp⟩
  · have htrim : ∀ s : List Char, s.takeWhile isBlank ++ Text.trimLeft s = s :=
      fun s => List.takeWhile_append_dropWhile
    refine ⟨line.takeWhile isBlank, ((Text.trimLeft line).dropWhile Text.isDigit).takeWhile isBlank, ?_,
      fun c => List.mem_takeWhile_imp, fun c => List.mem_takeWhile_imp, fun c => List.mem_takeWhile_imp⟩
    rw [htrim, List.takeWhile_append_dropWhile, htrim]

theorem kept_splitNumber {keepCase : Bool} {line : List Char} (hline : '\n' ∉ line) :
    kept keepCase (splitNumber line).1 ++ kept keepCase (splitNumber line).2 = kept keepCase line := by
  obtain ⟨lead, gap, heq, hlead, hgap, -⟩ := exists_splitNumber hline
  have hkept := congrArg (kept keepCase) heq
  simp only [kept_append, kept_of_allBlank hlead, kept_of_allBlank hgap, List.nil_append] at hkept
  exact hkept.symm

/-- The parts of a line number: none, or the number and a blank. -/
def lineNumberParts (number : List Char) : List (List Char) := if number.isEmpty then [] else [number, [' ']]

theorem kept_lineNumberParts (keepCase : Bool) (number : List Char) :
    kept keepCase (lineNumberParts number).flatten = kept keepCase number := by
  unfold lineNumberParts
  split
  · rename_i hempty
    rw [List.isEmpty_iff.1 hempty]
    rfl
  · exact kept_of_unspaced (Text.blind_unspaced.concat ' ' number rfl)

theorem partsOf_eq (keepCase : Bool) (line : List Char) : partsOf keepCase line =
    lineNumberParts (splitNumber line).1 ++ scanParts keepCase 0 (splitNumber line).2 := rfl

theorem kept_partsOf {keepCase : Bool} {line : List Char} (hline : '\n' ∉ line) :
    kept keepCase (partsOf keepCase line).flatten = kept keepCase line := by
  rw [partsOf_eq, List.flatten_append, kept_append, kept_lineNumberParts, kept_scanParts, kept_splitNumber hline]

theorem respace_eq {keepCase : Bool} {line : List Char} (h : Text.allBlank line = false) :
    respace keepCase line = Text.trimRight (joined (partsOf keepCase line)) := by
  rw [respace, if_neg (by simp [h])]
  cases partsOf keepCase line <;> rfl

/-- The characters of a respaced line are those of the line, their capitals and blanks. -/
theorem mem_respace {keepCase : Bool} {line : List Char} (hline : '\n' ∉ line) {c : Char} (hc : c ∈ respace keepCase line) :
    c = ' ' ∨ c ∈ line ∨ c ∈ Text.upper line := by
  cases hblank : Text.allBlank line with
  | true =>
    rw [respace, if_pos hblank] at hc
    exact .inr (.inl hc)
  | false =>
    rw [respace_eq hblank] at hc
    obtain ⟨lead, gap, heq, -⟩ := exists_splitNumber hline
    have hnumber : (splitNumber line).1 ⊆ line := fun d hd => by rw [heq]; simp [hd]
    have hcode : (splitNumber line).2 ⊆ line := fun d hd => by rw [heq]; simp [hd]
    rcases mem_joined (Text.mem_of_mem_trimRight hc) with hc | hc
    · exact .inl hc
    · rw [partsOf_eq, List.flatten_append, List.mem_append] at hc
      rcases hc with hc | hc
      · unfold lineNumberParts at hc
        split at hc
        · cases hc
        · rcases List.mem_append.1 hc with hc | hc
          · exact .inr (.inl (hnumber hc))
          · exact .inl (List.mem_singleton.1 hc)
      · exact .inr ((mem_scanParts hc).imp (fun h => hcode h) fun h => Text.upper_subset hcode h)

theorem newline_notMem_respace {keepCase : Bool} {line : List Char} (hline : '\n' ∉ line) :
    '\n' ∉ respace keepCase line := by
  intro hmem
  rcases mem_respace hline hmem with hblank | hmem | hmem
  · cases hblank
  · exact hline hmem
  · exact hline (Text.mem_of_mem_upper hmem rfl)

/-- **Respacing keeps all characters** but blanks, and their letter case if it is to be kept. -/
theorem kept_respace {keepCase : Bool} {line : List Char} (hline : '\n' ∉ line) :
    kept keepCase (respace keepCase line) = kept keepCase line := by
  cases hblank : Text.allBlank line with
  | true => rw [respace, if_pos hblank]
  | false =>
    rw [respace_eq hblank, kept_trimRight, kept_of_unspaced (unspaced_joined _), kept_partsOf hline]

theorem kept_false_respace {keepCase : Bool} {line : List Char} (hline : '\n' ∉ line) :
    kept false (respace keepCase line) = kept false line := by
  cases keepCase with
  | true =>
    have hexact : kept true (respace true line) = kept true line := kept_respace hline
    exact congrArg Text.upper hexact
  | false => exact kept_respace hline

end MsxWorkbench.Program
