import MsxWorkbench.Proofs.Editor.Renumber
import MsxWorkbench.Proofs.Program.RenumberedText
/-
# How a renumbering ends

The ways in which the command can end (`renumbers`). It does nothing to the text before all else has gone through, so a
failure leaves the text as it was, and the store too if it is the store that refuses the numbers; only the drawing comes
after the new text (`renumber_error`). With the store and without it the command writes the same text
(`renumber_with_or_without_store`).
-/
namespace MsxWorkbench.Editor

open Program Settings

/-! ## Stages -/

theorem of_assigned_eq_ok {s : State} {assigned : List (Line × Int)} (h : s.assigned = .ok assigned) :
    ∃ n lines, s.numbering = .ok n ∧ programLines s.buffer.text = .ok lines ∧ assigned = n.assign lines := by
  obtain ⟨n, hnumbering, h⟩ := of_bind_eq_ok h
  obtain ⟨lines, hlines, h⟩ := of_bind_eq_ok h
  cases h
  refine ⟨n, lines, hnumbering, ?_, rfl⟩
  rw [← programLines_program]
  exact of_mapError_eq_ok hlines

/-- Only a blank program has no lines. -/
theorem assigned_eq_nil_iff {s : State} {assigned : List (Line × Int)} (h : s.assigned = .ok assigned) :
    assigned = [] ↔ s.program = [] := by
  obtain ⟨n, lines, -, hlines, rfl⟩ := of_assigned_eq_ok h
  rw [← programLines_program] at hlines
  constructor
  · intro hnone
    by_contra hne
    obtain ⟨c, rest, hprogram⟩ := List.exists_cons_of_ne_nil hne
    -- the program starts with a character that is not blank, and so does its first row
    have htrim : Text.trim s.program = s.program := Text.blind_trim.trim_eq _
    have hc : Text.isBlank c = false := (Text.trim_eq_self_iff.1 htrim).1 c (by rw [hprogram]; rfl)
    obtain ⟨row, rows, hrows⟩ := Text.exists_rows rest
    have hfirst : Text.rows s.program = (c :: row) :: rows := by
      rw [hprogram]
      exact Text.rows_cons (by rintro rfl; cases hc) hrows
    have hbodies := body_of_programLines hlines
    have hlength := congrArg List.length hnone
    rw [Numbering.assign, List.length_map, List.length_zipIdx, List.length_nil, List.length_eq_zero_iff] at hlength
    rw [hlength, hfirst, List.filter_cons_of_pos (by simp [Text.allBlank, hc])] at hbodies
    cases hbodies
  · intro hnil
    rw [hnil] at hlines
    cases hlines
    rfl

theorem of_wholeSetting_eq_error {v : Json} {e : EditorError} (h : wholeSetting v = .error e) :
    (∃ type, e = .notNumber type) ∨ e = .infinite := by
  unfold wholeSetting at h
  split at h
  · cases h
    exact Or.inl ⟨_, rfl⟩
  · cases h
  · cases h
  · cases h
    exact Or.inr rfl
  · cases h
  · cases h
  · split at h
    · cases h
    · cases h
  · cases h
    exact Or.inl ⟨_, rfl⟩
  · cases h
    exact Or.inl ⟨_, rfl⟩

/-- Before anything is stored, a renumbering fails only because of numbers: of settings that are none, and of lines. -/
theorem of_assigned_eq_error {s : State} {e : EditorError} (h : s.assigned = .error e) :
    (∃ type, e = .notNumber type) ∨ e = .infinite ∨ ∃ e', e = .number e' := by
  have hsetting : ∀ {v : Json}, wholeSetting v = .error e → (∃ type, e = .notNumber type) ∨ e = .infinite ∨
      ∃ e', e = .number e' := fun hv => (of_wholeSetting_eq_error hv).imp_right Or.inl
  rcases of_bind_eq_error h with hnumbering | ⟨n, -, h⟩
  · rcases of_bind_eq_error hnumbering with hstart | ⟨start, -, hnumbering⟩
    · exact hsetting hstart
    · cases start with
      | none => cases hnumbering
      | some start =>
        rcases of_bind_eq_error hnumbering with hincrement | ⟨increment, -, hnumbering⟩
        · exact hsetting hincrement
        · cases increment with
          | none => cases hnumbering
          | some increment => cases hnumbering
  · rcases of_bind_eq_error h with hlines | ⟨lines, -, h⟩
    · obtain ⟨e', -, rfl⟩ := of_mapError_eq_error hlines
      exact Or.inr (Or.inr ⟨e', rfl⟩)
    · cases h

/-- The state with the table of numbers in its store, if that is in use. -/
def State.withTable (s : State) (assigned : List (Line × Int)) : State :=
  if s.connected then { s with store := { s.store with renumbering := numberPairs assigned } } else s

theorem content_withTable (s : State) (assigned : List (Line × Int)) :
    (s.withTable assigned).buffer = s.buffer ∧ (s.withTable assigned).connected = s.connected ∧
      (s.withTable assigned).settings = s.settings ∧ (s.withTable assigned).failing = s.failing := by
  unfold State.withTable
  split
  · exact ⟨rfl, rfl, rfl, rfl⟩
  · exact ⟨rfl, rfl, rfl, rfl⟩

theorem storeNumbers_eq_ok_iff {s s₁ : State} {assigned : List (Line × Int)} :
    s.storeNumbers assigned = .ok s₁ ↔
      (s.connected = true → TableFits (numberPairs assigned)) ∧ s₁ = s.withTable assigned := by
  cases hc : s.connected with
  | false =>
    rw [storeNumbers_unconnected hc, State.withTable, hc]
    simp [eq_comm]
  | true =>
    simp only [State.storeNumbers, State.withTable, hc, Bool.not_true, Bool.false_eq_true, if_false, if_true, true_implies]
    cases hset : s.store.setRenumbering (numberPairs assigned) with
    | ok store =>
      obtain ⟨hfits, rfl⟩ := setRenumbering_eq_ok_iff.1 hset
      exact ⟨fun h => ⟨hfits, (Except.ok.inj h).symm⟩, fun h => congrArg Except.ok h.2.symm⟩
    | error e =>
      have hno := (exists_setRenumbering_eq_error_iff s.store).1 ⟨e, hset⟩
      exact ⟨fun h => (by cases h), fun h => absurd h.1 hno⟩

/-- Only a store that is in use refuses a table. -/
theorem of_storeNumbers_eq_error {s : State} {assigned : List (Line × Int)} {e : EditorError}
    (h : s.storeNumbers assigned = .error e) :
    (∃ refusal, e = .store refusal) ∧ s.connected = true ∧ ¬ TableFits (numberPairs assigned) := by
  have hrefuses : ¬ (s.connected = true → TableFits (numberPairs assigned)) := by
    intro hfits
    rw [storeNumbers_eq_ok_iff.2 ⟨hfits, rfl⟩] at h
    cases h
  refine ⟨?_, Classical.not_imp.1 hrefuses⟩
  unfold State.storeNumbers at h
  split at h
  · cases h
  · cases hset : s.store.setRenumbering (numberPairs assigned) with
    | ok store =>
      rw [hset] at h
      cases h
    | error refusal =>
      rw [hset] at h
      cases h
      exact ⟨refusal, rfl⟩

/-- The store that has kept the table finds the new numbers of the lines. -/
theorem lookupStored_eq {store : Store} {assigned : List (Line × Int)} (hfits : TableFits (numberPairs assigned))
    {d : List Char} (hd : IsNumber d) :
    lookupStored { store with renumbering := numberPairs assigned } d = .ok (newReference true assigned d) := by
  rw [lookupStored, newNumber?_eq _ hd.1 hd.2, lookup_numberPairs, newReference]
  cases hall : d.all Char.isDigit with
  | false => simp
  | true =>
    by_cases hlt : Text.digitsValue d < 2 ^ 63
    · rw [if_pos ⟨rfl, hlt⟩]
      rfl
    · -- no line has a number that does not fit
      have hnone : newNumber? assigned (Text.digitsValue d) = none := by
        rw [newNumber?_eq_none_iff]
        intro line hline hnumber
        have hpair : ((Text.digitsValue d : Int), line.2) ∈ numberPairs assigned :=
          List.mem_filterMap.2 ⟨line, hline, by simp [hnumber]⟩
        have hcell := (hfits.fits _ hpair).1
        rw [fitsCell_natCast, decide_eq_true_eq] at hcell
        exact hlt hcell
      rw [if_neg fun h => hlt h.2, hnone]
      rfl

/-- What a look-up of a reference can give when the table is kept. -/
theorem lookup_withTable {s : State} {assigned : List (Line × Int)}
    (hfits : s.connected = true → TableFits (numberPairs assigned)) :
    let lookup := if (s.withTable assigned).connected then lookupStored (s.withTable assigned).store
      else lookupAssigned assigned
    ∀ d, IsNumber d → lookup d = .ok (newReference s.connected assigned d) ∨
      s.connected = false ∧ lookup d = lookupAssigned assigned d := by
  intro lookup d hd
  cases hc : s.connected with
  | false =>
    right
    simp only [lookup, State.withTable, hc, Bool.false_eq_true, if_false, and_self]
  | true =>
    left
    simp only [lookup, State.withTable, hc, if_true]
    exact lookupStored_eq (hfits hc) hd

theorem of_renumbered_eq_ok {s : State} {assigned : List (Line × Int)} {text : List Char}
    (hfits : s.connected = true → TableFits (numberPairs assigned))
    (h : (s.withTable assigned).renumbered assigned = .ok text) :
    AllWritable assigned ∧ text = newText s.connected assigned := by
  have h := of_mapError_eq_ok h
  refine ⟨writable_of_renumberLines h, eq_of_renumberLines (numeric_newReference _ _) (fun d hd => ?_) h⟩
  rcases lookup_withTable hfits d hd with hok | ⟨hc, heq⟩
  · exact Or.inl hok
  · rw [heq, hc]
    exact lookupAssigned_cases assigned d

theorem of_renumbered_eq_error {s : State} {assigned : List (Line × Int)} {e : EditorError}
    (h : s.renumbered assigned = .error e) : ∃ e', e = .number e' := by
  obtain ⟨e', -, rfl⟩ := of_mapError_eq_error h
  exact ⟨e', rfl⟩

/-- The new text is written if its numbers are not too long. Without the store, neither may references be. -/
theorem renumbered_eq_ok {s : State} {assigned : List (Line × Int)}
    (hfits : s.connected = true → TableFits (numberPairs assigned)) (hw : AllWritable assigned)
    (hshort : s.connected = false → ∀ d ∈ lineReferences assigned, d.length ≤ Text.mostDigits) :
    (s.withTable assigned).renumbered assigned = .ok (newText s.connected assigned) := by
  refine congrArg (Except.mapError _) (renumberLines_eq_ok (numeric_newReference _ _).not_latin hw ?_)
  intro line hline word hword d hd
  rcases lookup_withTable hfits d (mem_referenceNumbers hword hd).1 with hok | ⟨hc, heq⟩
  · exact hok
  · rw [heq, hc]
    exact lookupAssigned_eq_newReference hw (hshort hc d (mem_lineReferences hline hword hd))

/-! ## Runs -/

/-- The state with the table stored and the new text in the place of the old one. -/
def State.written (s : State) (assigned : List (Line × Int)) : State :=
  { s.withTable assigned with buffer := (s.withTable assigned).buffer.replace (newText s.connected assigned) }

theorem text_written (s : State) (assigned : List (Line × Int)) :
    (highlight.runOn (s.written assigned)).2.buffer.text = newText s.connected assigned := by
  rw [keepsBuffer_highlight]
  exact replace_text _ _

theorem failing_written (s : State) (assigned : List (Line × Int)) : (s.written assigned).failing = s.failing :=
  (content_withTable s assigned).2.2.2

/-- How a renumbering can end. -/
inductive Renumbers (s : State) : Except EditorError Unit × State → Prop where
  /-- There is nothing to renumber. -/
  | blank (hnil : s.program = []) : Renumbers s (.ok (), s)
  /-- The settings or a line number cannot be read. -/
  | unread {e : EditorError} (hne : s.program ≠ []) (hassigned : s.assigned = .error e) : Renumbers s (.error e, s)
  /-- The store refuses the numbers. -/
  | refused {assigned : List (Line × Int)} (refusal : StoreError) (hne : s.program ≠ [])
      (hassigned : s.assigned = .ok assigned) (hc : s.connected = true) (hno : ¬ TableFits (numberPairs assigned)) :
      Renumbers s (.error (.store refusal), s)
  /-- A number is too long, which comes out when the store has the table. -/
  | unwritten {assigned : List (Line × Int)} {e : Text.IntegerError} (hne : s.program ≠ [])
      (hassigned : s.assigned = .ok assigned) (hfits : s.connected = true → TableFits (numberPairs assigned))
      (herror : (s.withTable assigned).renumbered assigned = .error (.number e)) :
      Renumbers s (.error (.number e), s.withTable assigned)
  /-- The new text takes the place of the old one and is highlighted. -/
  | written {assigned : List (Line × Int)} (hne : s.program ≠ []) (hassigned : s.assigned = .ok assigned)
      (hfits : s.connected = true → TableFits (numberPairs assigned)) (hw : AllWritable assigned) :
      Renumbers s (highlight.runOn (s.written assigned))

theorem renumbers (s : State) : Renumbers s (renumber.runOn s) := by
  by_cases hnil : s.program = []
  · rw [renumber_blank hnil]
    exact .blank hnil
  cases hassigned : s.assigned with
  | error e =>
    rw [renumber_unread hnil hassigned]
    exact .unread hnil hassigned
  | ok assigned =>
    cases hstore : s.storeNumbers assigned with
    | error e =>
      obtain ⟨⟨refusal, rfl⟩, hc, hno⟩ := of_storeNumbers_eq_error hstore
      rw [renumber_refused hnil hassigned hstore]
      exact .refused refusal hnil hassigned hc hno
    | ok s₁ =>
      obtain ⟨hfits, rfl⟩ := storeNumbers_eq_ok_iff.1 hstore
      cases htext : (s.withTable assigned).renumbered assigned with
      | error e =>
        obtain ⟨e, rfl⟩ := of_renumbered_eq_error htext
        rw [renumber_unwritten hnil hassigned hstore htext]
        exact .unwritten hnil hassigned hfits htext
      | ok text =>
        obtain ⟨hw, rfl⟩ := of_renumbered_eq_ok hfits htext
        rw [renumber_written hnil hassigned hstore htext]
        exact .written hnil hassigned hfits hw

/-- What a renumbering needs to get to the new text: numbers that the store takes, if it is in use, and numbers and
references that are not too long. -/
structure Writes (s : State) (assigned : List (Line × Int)) : Prop where
  nonblank : s.program ≠ []
  read : s.assigned = .ok assigned
  fits : s.connected = true → TableFits (numberPairs assigned)
  writable : AllWritable assigned
  short : s.connected = false → ∀ d ∈ lineReferences assigned, d.length ≤ Text.mostDigits

theorem Writes.runOn_eq {s : State} {assigned : List (Line × Int)} (h : Writes s assigned) :
    renumber.runOn s = highlight.runOn (s.written assigned) :=
  renumber_written h.nonblank h.read (storeNumbers_eq_ok_iff.2 ⟨h.fits, rfl⟩)
    (renumbered_eq_ok h.fits h.writable h.short)

theorem Writes.text_eq {s : State} {assigned : List (Line × Int)} (h : Writes s assigned) :
    (renumber.runOn s).2.buffer.text = newText s.connected assigned := by
  rw [h.runOn_eq, text_written]

theorem Writes.table_eq {s : State} {assigned : List (Line × Int)} (h : Writes s assigned) (hc : s.connected = true) :
    (renumber.runOn s).2.store.renumbering = numberPairs assigned := by
  rw [h.runOn_eq, draws_highlight.store]
  simp only [State.written, State.withTable, hc, if_true]

theorem Writes.result_eq {s : State} {assigned : List (Line × Int)} (h : Writes s assigned) (hfailing : s.failing = []) :
    (renumber.runOn s).1 = .ok () := by
  rw [h.runOn_eq]
  obtain ⟨_, _, hrun, -⟩ := draws_highlight.works (s.written assigned) ((failing_written s assigned).trans hfailing)
  rw [hrun]

/-- A renumbering that went through has written the new text. -/
theorem of_renumber_eq_ok {s : State} (hrun : (renumber.runOn s).1 = .ok ()) (hne : s.program ≠ []) :
    ∃ assigned, s.assigned = .ok assigned ∧ AllWritable assigned ∧
      renumber.runOn s = highlight.runOn (s.written assigned) := by
  have hends := renumbers s
  generalize renumber.runOn s = result at hrun hends ⊢
  cases hends with
  | blank hnil => exact absurd hnil hne
  | unread _ _ => cases hrun
  | refused _ _ _ _ _ => cases hrun
  | unwritten _ _ _ _ => cases hrun
  | @written assigned _ hassigned _ hw => exact ⟨assigned, hassigned, hw, rfl⟩

theorem text_of_renumber {s : State} (hrun : (renumber.runOn s).1 = .ok ()) (hne : s.program ≠ []) :
    ∃ assigned, s.assigned = .ok assigned ∧ (renumber.runOn s).2.buffer.text = newText s.connected assigned := by
  obtain ⟨assigned, hassigned, -, hwritten⟩ := of_renumber_eq_ok hrun hne
  refine ⟨assigned, hassigned, ?_⟩
  rw [hwritten, text_written]

/-! ## Runs that fail -/

/-- What the store asks of the numbers of a text. -/
theorem tableFits_iff {text : List Char} {lines : List Line} (h : programLines text = .ok lines) (n : Numbering) :
    TableFits (numberPairs (n.assign lines)) ↔ (lineNumbers text).Nodup ∧ (∀ m ∈ lineNumbers text, m < 2 ^ 63) ∧
      ∀ line ∈ n.assign lines, line.1.number ≠ none → fitsCell line.2 = true := by
  have hfst : (numberPairs (n.assign lines)).map Prod.fst = (lineNumbers text).map Int.ofNat := by
    rw [fst_numberPairs, numbers_of_programLines h]
  have hold : (∀ p ∈ numberPairs (n.assign lines), fitsCell p.1 = true) ↔ ∀ m ∈ lineNumbers text, m < 2 ^ 63 := by
    rw [← List.forall_mem_map (P := fun old => fitsCell old = true), hfst, List.forall_mem_map]
    refine forall₂_congr fun m _ => ?_
    rw [Int.ofNat_eq_natCast, fitsCell_natCast, decide_eq_true_eq]
  have hnew : (∀ p ∈ numberPairs (n.assign lines), fitsCell p.2 = true) ↔
      ∀ line ∈ n.assign lines, line.1.number ≠ none → fitsCell line.2 = true := by
    constructor
    · intro hfits line hline hnumber
      obtain ⟨old, hold⟩ := Option.ne_none_iff_exists'.1 hnumber
      exact hfits ((old : Int), line.2) (List.mem_filterMap.2 ⟨line, hline, by simp [hold]⟩)
    · intro hfits p hp
      obtain ⟨line, hline, hpair⟩ := List.mem_filterMap.1 hp
      obtain ⟨old, hold, rfl⟩ := Option.map_eq_some_iff.1 hpair
      exact hfits line hline (by simp [hold])
  constructor
  · intro hfits
    refine ⟨List.Nodup.of_map _ (hfst ▸ hfits.nodup), hold.1 fun p hp => (hfits.fits p hp).1,
      hnew.1 fun p hp => (hfits.fits p hp).2⟩
  · rintro ⟨hnodup, hsmall, hcells⟩
    refine ⟨?_, fun p hp => ⟨hold.2 hsmall p hp, hnew.2 hcells p hp⟩⟩
    rw [hfst]
    exact hnodup.map fun _ _ => Int.ofNat.inj

/-- The three ways to fail: in drawing, with the new text there; in the store, with nothing done; or over a number, with
the text as it was. -/
theorem of_renumber_eq_error {s t : State} {e : EditorError} (h : renumber.runOn s = (.error e, t)) :
    (e = .window ∧ s.failing ≠ [] ∧ ∃ assigned, s.assigned = .ok assigned ∧
      t.buffer.text = newText s.connected assigned) ∨
    ((∃ refusal, e = .store refusal) ∧ t = s ∧ s.connected = true ∧ ∃ assigned, s.assigned = .ok assigned ∧
      ¬ TableFits (numberPairs assigned)) ∨
    ((∀ refusal, e ≠ .store refusal) ∧ e ≠ .window ∧ t.buffer = s.buffer) := by
  have hends := renumbers s
  generalize renumber.runOn s = result at h hends
  cases hends with
  | blank _ => cases h
  | unread _ hassigned =>
    cases h
    right
    right
    rcases of_assigned_eq_error hassigned with ⟨type, rfl⟩ | rfl | ⟨e', rfl⟩
    · exact ⟨by simp, by simp, rfl⟩
    · exact ⟨by simp, by simp, rfl⟩
    · exact ⟨by simp, by simp, rfl⟩
  | @refused assigned refusal _ hassigned hc hno =>
    cases h
    exact Or.inr (Or.inl ⟨⟨refusal, rfl⟩, rfl, hc, assigned, hassigned, hno⟩)
  | @unwritten assigned _ _ _ _ _ =>
    cases h
    exact Or.inr (Or.inr ⟨by simp, by simp, (content_withTable s assigned).1⟩)
  | @written assigned _ hassigned _ _ =>
    left
    refine ⟨draws_highlight.fails _ e (congrArg Prod.fst h), fun hnone => ?_, assigned, hassigned, ?_⟩
    · obtain ⟨_, _, hrun, -⟩ := draws_highlight.works (s.written assigned) ((failing_written s assigned).trans hnone)
      rw [hrun] at h
      cases h
    · rw [← text_written, h]

/-- A table that does not fit is refused before anything is done. -/
theorem exists_renumber_refused {s : State} {assigned : List (Line × Int)} (hc : s.connected = true)
    (hassigned : s.assigned = .ok assigned) (hno : ¬ TableFits (numberPairs assigned)) :
    ∃ refusal, renumber.runOn s = (.error (.store refusal), s) := by
  have hne : assigned ≠ [] := by
    rintro rfl
    exact hno ⟨List.nodup_nil, by simp [numberPairs]⟩
  cases hstore : s.storeNumbers assigned with
  | ok s₁ => exact absurd ((storeNumbers_eq_ok_iff.1 hstore).1 hc) hno
  | error e =>
    obtain ⟨⟨refusal, rfl⟩, -⟩ := of_storeNumbers_eq_error hstore
    exact ⟨refusal, renumber_refused ((assigned_eq_nil_iff hassigned).not.1 hne) hassigned hstore⟩

/-- A failure, whatever the text, the settings and the store are. If it is not one of the window, the text is as it was,
and so are the cursor and the selection. A part of the window can fail in the drawing alone, which comes last: the new
text is there then. If the store refuses the numbers, it is as it was too. It refuses them just if two lines have the same
number, or if an old or a new number does not fit into 64 bits. -/
theorem renumber_error (s : State) :
    (∀ e t, renumber.runOn s = (.error e, t) → e ≠ .window → t.buffer = s.buffer) ∧
    (∀ t, renumber.runOn s = (.error .window, t) → s.failing ≠ [] ∧ ∃ assigned, s.assigned = .ok assigned ∧
      t.buffer.text = newText s.connected assigned) ∧
    (∀ refusal t, renumber.runOn s = (.error (.store refusal), t) → t = s) ∧
    ((∃ refusal t, renumber.runOn s = (.error (.store refusal), t)) ↔
      s.connected = true ∧ ∃ assigned, s.assigned = .ok assigned ∧
        (¬ (lineNumbers s.buffer.text).Nodup ∨ (∃ m ∈ lineNumbers s.buffer.text, 2 ^ 63 ≤ m) ∨
          ∃ line ∈ assigned, line.1.number ≠ none ∧ fitsCell line.2 = false)) := by
  refine ⟨fun e t h hwindow => ?_, fun t h => ?_, fun refusal t h => ?_, ?_⟩
  · rcases of_renumber_eq_error h with ⟨he, -⟩ | ⟨-, rfl, -⟩ | ⟨-, -, hbuffer⟩
    · exact absurd he hwindow
    · rfl
    · exact hbuffer
  · rcases of_renumber_eq_error h with ⟨-, hfailing⟩ | ⟨⟨_, he⟩, -⟩ | ⟨-, hno, -⟩
    · exact hfailing
    · cases he
    · exact absurd rfl hno
  · rcases of_renumber_eq_error h with ⟨he, -⟩ | ⟨-, ht, -⟩ | ⟨hno, -⟩
    · cases he
    · exact ht
    · exact absurd rfl (hno refusal)
  · have htable : ∀ assigned, s.assigned = .ok assigned → (¬ TableFits (numberPairs assigned) ↔
        ¬ (lineNumbers s.buffer.text).Nodup ∨ (∃ m ∈ lineNumbers s.buffer.text, 2 ^ 63 ≤ m) ∨
          ∃ line ∈ assigned, line.1.number ≠ none ∧ fitsCell line.2 = false) := by
      intro assigned hassigned
      obtain ⟨n, lines, -, hlines, rfl⟩ := of_assigned_eq_ok hassigned
      rw [tableFits_iff hlines n]
      simp only [not_and_or, not_forall, Nat.not_lt, exists_prop, Bool.not_eq_true]
    constructor
    · rintro ⟨refusal, t, h⟩
      rcases of_renumber_eq_error h with ⟨he, -⟩ | ⟨-, -, hc, assigned, hassigned, hno⟩ | ⟨hno, -⟩
      · cases he
      · exact ⟨hc, assigned, hassigned, (htable assigned hassigned).1 hno⟩
      · exact absurd rfl (hno refusal)
    · rintro ⟨hc, assigned, hassigned, hwrong⟩
      obtain ⟨refusal, h⟩ := exists_renumber_refused hc hassigned ((htable assigned hassigned).2 hwrong)
      exact ⟨refusal, s, h⟩

/-- An editor on a program with one number twice, opened on a store with the table of an earlier renumbering. -/
def repeatingEditor : State :=
  { editorOn "7 CLS\n20 GOTO 7\n20 END".toList true with store := { renumbering := [(1, 7)] } }

theorem renumber_error_repeated :
    ∃ refusal, renumber.runOn repeatingEditor = (.error (.store refusal), repeatingEditor) := by
  obtain ⟨-, -, hsame, hrefused⟩ := renumber_error repeatingEditor
  have hrepeated : ¬ (lineNumbers repeatingEditor.buffer.text).Nodup := by decide
  obtain ⟨refusal, t, hrun⟩ := hrefused.2 ⟨rfl, _, rfl, Or.inl hrepeated⟩
  rw [hsame refusal t hrun] at hrun
  exact ⟨refusal, hrun⟩

/-- An editor whose window fails to draw. -/
def blindEditor : State := { editorOn "5 END".toList true with failing := [.configure] }

/-- The new text is there though the renumbering fails. -/
theorem renumber_undrawn :
    (renumber.runOn blindEditor).1 = .error .window ∧ blindEditor.buffer.text = "5 END".toList ∧
    (renumber.runOn blindEditor).2.buffer.text = "10 END".toList := by
  have hwrites : Writes blindEditor [(⟨some 5, "END".toList⟩, 10)] :=
    { nonblank := by decide
      read := rfl
      fits := fun _ => ⟨by decide, by decide⟩
      writable := List.forall_mem_singleton.2 (Text.natAbs_lt_of_le (by decide))
      short := by simp [blindEditor, editorOn] }
  have hresult : (renumber.runOn blindEditor).1 = .error .window := by
    rw [hwrites.runOn_eq]
    rfl
  exact ⟨hresult, rfl, hwrites.text_eq.trans (by decide)⟩

/-! ## With the store and without it -/

/-- The state with its store in use, or without it. -/
def State.connect (s : State) (connected : Bool) : State := { s with connected }

/-- A program with distinct numbers and ASCII digits, whose old and new numbers have 64 bits and whose references have at
most 4300 digits. With the store and without it the command leaves the same text, the new one if the lines can be read at
all. The result is the same too if no part of the window fails. -/
theorem renumber_with_or_without_store {s : State} (hnodup : (lineNumbers s.buffer.text).Nodup)
    (hascii : ∀ c ∈ s.buffer.text, Text.isDigit c = true → c.isDigit = true)
    (hold : ∀ m ∈ lineNumbers s.buffer.text, m < 2 ^ 63)
    (hnew : ∀ n, s.numbering = .ok n → ∀ i < (bodies s.buffer.text).length, fitsCell (n.number i) = true)
    (hshort : ∀ d ∈ allReferences s.buffer.text, d.length ≤ Text.mostDigits) :
    let stored := renumber.runOn (s.connect true)
    let unstored := renumber.runOn (s.connect false)
    stored.2.buffer.text = unstored.2.buffer.text ∧
    (s.program ≠ [] → ∀ assigned, s.assigned = .ok assigned → stored.2.buffer.text = newText true assigned) ∧
    (s.failing = [] → stored.1 = unstored.1) := by
  intro stored unstored
  by_cases hnil : s.program = []
  · have hstored : stored = (.ok (), s.connect true) := renumber_blank hnil
    have hunstored : unstored = (.ok (), s.connect false) := renumber_blank hnil
    rw [hstored, hunstored]
    exact ⟨rfl, fun hne => absurd hnil hne, fun _ => rfl⟩
  cases hassigned : s.assigned with
  | error e =>
    have hstored : stored = (.error e, s.connect true) := renumber_unread hnil hassigned
    have hunstored : unstored = (.error e, s.connect false) := renumber_unread hnil hassigned
    rw [hstored, hunstored]
    exact ⟨rfl, fun _ _ h => (by cases h), fun _ => rfl⟩
  | ok assigned =>
    obtain ⟨n, lines, hnumbering, hlines, rfl⟩ := of_assigned_eq_ok hassigned
    have hcells := forall_assign hlines (P := fun m => fitsCell m = true) (hnew n hnumbering)
    have hwrites : ∀ connected, Writes (s.connect connected) (n.assign lines) := fun connected =>
      { nonblank := hnil
        read := hassigned
        fits := fun _ => (tableFits_iff hlines n).2 ⟨hnodup, hold, fun line hline _ => hcells line hline⟩
        writable := fun line hline => natAbs_lt_of_fitsCell (hcells line hline)
        short := fun _ => lineReferences_assign hlines n ▸ hshort }
    refine ⟨?_, fun _ _ h => ?_, fun hfailing => ?_⟩
    · refine (hwrites true).text_eq.trans ((newText_of_ascii ?_ true).trans (hwrites false).text_eq.symm)
      rw [lineReferences_assign hlines n]
      intro d hd c hc
      obtain ⟨hnumber, hchars⟩ := of_mem_allReferences hd
      exact hascii c (hchars c hc) (hnumber.2 c hc)
    · rw [← Except.ok.inj h]
      exact (hwrites true).text_eq
    · exact ((hwrites true).result_eq hfailing).trans ((hwrites false).result_eq hfailing).symm

/-- An editor on a program with zeros before its numbers, a line without number and a reference to no line. -/
def untidyEditor : State := editorOn "005 GOTO 0007,9\n CLS\n07 END".toList true

theorem renumber_with_or_without_store_untidy :
    let stored := renumber.runOn (untidyEditor.connect true)
    let unstored := renumber.runOn (untidyEditor.connect false)
    stored.2.buffer.text = "10 GOTO 30, 9\n20 CLS\n30 END".toList ∧ unstored.2.buffer.text = stored.2.buffer.text ∧
    stored.1 = unstored.1 := by
  dsimp only
  have hascii : untidyEditor.buffer.text.all (fun c => !Text.isDigit c || c.isDigit) = true := by decide
  have hdigits : ∀ c ∈ untidyEditor.buffer.text, Text.isDigit c = true → c.isDigit = true := by
    intro c hc hdigit
    have hc := List.all_eq_true.1 hascii c hc
    rwa [hdigit] at hc
  have hcells : ∀ i < 3, fitsCell (({} : Numbering).number i) = true := by decide
  have hnew : ∀ n, untidyEditor.numbering = .ok n → ∀ i < (bodies untidyEditor.buffer.text).length,
      fitsCell (n.number i) = true := by
    intro n hn
    obtain rfl : {} = n := Except.ok.inj hn
    exact hcells
  have hshort : ∀ d ∈ allReferences untidyEditor.buffer.text, d.length ≤ Text.mostDigits := by
    with_unfolding_all decide
  obtain ⟨hsame, htext, hresult⟩ :=
    renumber_with_or_without_store (s := untidyEditor) (by decide) hdigits (by decide) hnew hshort
  have hnew := htext (by decide) [(⟨some 5, "GOTO 0007,9".toList⟩, 10), (⟨none, "CLS".toList⟩, 20),
    (⟨some 7, "END".toList⟩, 30)] rfl
  exact ⟨hnew.trans (by with_unfolding_all decide), hsame.symm, hresult rfl⟩

end MsxWorkbench.Editor
