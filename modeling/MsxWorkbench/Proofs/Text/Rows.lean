import MsxWorkbench.Text.Blank
import MsxWorkbench.Text.Lines
import MsxWorkbench.Proofs.Text.Classes
/-
# Rows of a text

How the rows of a text change with a character at one of its ends. Lines put together are those above a line, each
`ended` by a line feed, the line, and those below it, each `led` by one (`unrows_append_cons`).

A reading that ignores blanks around a text is `Blind`; one that is blind to each row is blind to the whole text
(`Blind.filterMap_rows`). Where line feeds are the only breaks, rows and lines differ by an empty last row
(`filterMap_lines`).
-/
namespace MsxWorkbench.Text

/-! ## Rows and characters -/

theorem splitAt_ne_nil (separator : Char) (s : List Char) : splitAt separator s ≠ [] := by
  cases s with
  | nil => simp [splitAt]
  | cons c s =>
    rw [splitAt]
    split
    · simp
    · split <;> simp

theorem splitAt_cons {separator c : Char} {s part : List Char} {parts : List (List Char)} (hc : c ≠ separator)
    (h : splitAt separator s = part :: parts) : splitAt separator (c :: s) = (c :: part) :: parts := by
  rw [splitAt, h]
  simp only [if_neg hc]

theorem rows_ne_nil (s : List Char) : rows s ≠ [] := splitAt_ne_nil '\n' s

theorem rows_newline (s : List Char) : rows ('\n' :: s) = [] :: rows s := by
  have hne := rows_ne_nil s
  rw [rows] at hne ⊢
  rw [splitAt]
  split
  · rename_i h
    exact absurd h hne
  · rename_i part parts h
    rw [if_pos rfl, rows, h]

theorem rows_cons {c : Char} {s row : List Char} {rest : List (List Char)} (hc : c ≠ '\n')
    (h : rows s = row :: rest) : rows (c :: s) = (c :: row) :: rest :=
  splitAt_cons hc h

theorem exists_rows (s : List Char) : ∃ row rest, rows s = row :: rest :=
  List.exists_cons_of_ne_nil (rows_ne_nil s)

/-- A character behind a text ends its last row or is added to it. -/
theorem rows_concat (c : Char) : ∀ s : List Char, ∃ init last, rows s = init ++ [last] ∧
    rows (s ++ [c]) = init ++ if c = '\n' then [last, []] else [last ++ [c]]
  | [] => by
    refine ⟨[], [], rfl, ?_⟩
    split
    · rename_i h
      rw [h]; rfl
    · rename_i h
      exact rows_cons h rfl
  | d :: s => by
    obtain ⟨init, last, hs, hc⟩ := rows_concat c s
    by_cases hd : d = '\n'
    · subst hd
      refine ⟨[] :: init, last, ?_, ?_⟩
      · rw [rows_newline, hs, List.cons_append]
      · rw [List.cons_append, rows_newline, hc, List.cons_append]
    · cases init with
      | nil =>
        refine ⟨[], d :: last, ?_, ?_⟩
        · exact rows_cons hd hs
        · rw [List.cons_append]
          split at hc <;> rename_i hcn
          · rw [if_pos hcn]
            exact rows_cons hd hc
          · rw [if_neg hcn]
            exact rows_cons hd hc
      | cons row init =>
        refine ⟨(d :: row) :: init, last, ?_, ?_⟩
        · exact rows_cons hd hs
        · exact rows_cons hd hc

theorem mem_of_mem_rows {c : Char} : ∀ {s row : List Char}, row ∈ rows s → c ∈ row → c ∈ s ∧ c ≠ '\n'
  | [], row, hrow, hc => by
    rw [show rows [] = [[]] from rfl, List.mem_singleton] at hrow
    rw [hrow] at hc
    cases hc
  | d :: s, row, hrow, hc => by
    by_cases hd : d = '\n'
    · subst hd
      rw [rows_newline, List.mem_cons] at hrow
      rcases hrow with rfl | hrow
      · cases hc
      · have ih := mem_of_mem_rows hrow hc
        exact ⟨List.mem_cons_of_mem _ ih.1, ih.2⟩
    · obtain ⟨first, rest, h⟩ := exists_rows s
      rw [rows_cons hd h, List.mem_cons] at hrow
      have ih : ∀ r ∈ first :: rest, c ∈ r → c ∈ s ∧ c ≠ '\n' := fun r hr hc =>
        mem_of_mem_rows (h ▸ hr) hc
      rcases hrow with rfl | hrow
      · rcases List.mem_cons.1 hc with rfl | hc
        · exact ⟨List.mem_cons_self, hd⟩
        · have := ih first List.mem_cons_self hc
          exact ⟨List.mem_cons_of_mem _ this.1, this.2⟩
      · have := ih row (List.mem_cons_of_mem _ hrow) hc
        exact ⟨List.mem_cons_of_mem _ this.1, this.2⟩

theorem rows_append_newline {row : List Char} (s : List Char) (h : '\n' ∉ row) :
    rows (row ++ '\n' :: s) = row :: rows s := by
  induction row with
  | nil => exact rows_newline s
  | cons c row ih =>
    rw [List.mem_cons, not_or] at h
    exact rows_cons (Ne.symm h.1) (ih h.2)

theorem rows_of_notMem {row : List Char} (h : '\n' ∉ row) : rows row = [row] := by
  induction row with
  | nil => rfl
  | cons c row ih =>
    rw [List.mem_cons, not_or] at h
    exact rows_cons (Ne.symm h.1) (ih h.2)

/-! ## Lines put together -/

/-- Lines with a line break behind each. -/
def ended (ls : List (List Char)) : List Char := ls.flatMap (· ++ ['\n'])

/-- Lines with a line break before each. -/
def led (ls : List (List Char)) : List Char := ls.flatMap ('\n' :: ·)

@[simp] theorem ended_nil : ended [] = [] := rfl

@[simp] theorem ended_cons (l : List Char) (ls : List (List Char)) : ended (l :: ls) = l ++ '\n' :: ended ls := by
  simp [ended]

@[simp] theorem led_nil : led [] = [] := rfl

@[simp] theorem led_cons (l : List Char) (ls : List (List Char)) : led (l :: ls) = '\n' :: (l ++ led ls) := by
  simp [led]

theorem unrows_cons (l : List Char) (ls : List (List Char)) : unrows (l :: ls) = l ++ led ls := by
  induction ls generalizing l with
  | nil => simp [unrows]
  | cons m ls ih =>
    have hm := ih m
    rw [unrows] at hm
    rw [unrows, List.intercalate_cons_cons, hm, led_cons, List.append_assoc, List.singleton_append]

theorem unrows_rows (s : List Char) : unrows (rows s) = s := by
  induction s with
  | nil => rfl
  | cons c s ih =>
    obtain ⟨row, rest, hrows⟩ := exists_rows s
    rw [hrows, unrows_cons] at ih
    by_cases hc : c = '\n'
    · rw [hc, rows_newline, hrows, unrows_cons, led_cons, ih, List.nil_append]
    · rw [rows_cons hc hrows, unrows_cons, List.cons_append, ih]

theorem unrows_append_cons (above : List (List Char)) (line : List Char) (below : List (List Char)) :
    unrows (above ++ line :: below) = ended above ++ (line ++ led below) := by
  have hled : ∀ ls : List (List Char), led (ls ++ line :: below) = '\n' :: (ended ls ++ (line ++ led below)) := by
    intro ls
    induction ls with
    | nil => simp
    | cons l ls ih => simp [ih]
  cases above with
  | nil => exact unrows_cons line below
  | cons l above => simp [unrows_cons, hled]

theorem led_append (ls ms : List (List Char)) : led (ls ++ ms) = led ls ++ led ms := List.flatMap_append

theorem led_eq {ls : List (List Char)} (h : ls ≠ []) : led ls = '\n' :: unrows ls := by
  obtain ⟨l, ms, rfl⟩ := List.exists_cons_of_ne_nil h
  rw [led_cons, unrows_cons]

/-- The text of lines between other lines. -/
theorem unrows_between (above : List (List Char)) {mid : List (List Char)} (h : mid ≠ []) (below : List (List Char)) :
    unrows (above ++ mid ++ below) = ended above ++ (unrows mid ++ led below) := by
  obtain ⟨l, ls, rfl⟩ := List.exists_cons_of_ne_nil h
  rw [List.append_assoc, List.cons_append, unrows_append_cons, unrows_cons, led_append, List.append_assoc]

theorem count_ended {ls : List (List Char)} (h : ∀ l ∈ ls, '\n' ∉ l) : (ended ls).count '\n' = ls.length := by
  induction ls with
  | nil => rfl
  | cons l ls ih =>
    rw [List.forall_mem_cons] at h
    rw [ended_cons, List.count_append, List.count_eq_zero.2 h.1, List.count_cons_self, ih h.2, List.length_cons,
      Nat.zero_add]

theorem takeWhile_reverse_ended (ls : List (List Char)) : (ended ls).reverse.takeWhile (· != '\n') = [] := by
  rcases List.eq_nil_or_concat ls with rfl | ⟨init, l, rfl⟩
  · rfl
  · simp [ended]

/-- Rows put together are found again. -/
theorem rows_unrows : ∀ {ls : List (List Char)}, ls ≠ [] → (∀ l ∈ ls, '\n' ∉ l) → rows (unrows ls) = ls
  | [], h, _ => absurd rfl h
  | [l], _, hl => by
    rw [unrows, List.intercalate_singleton]
    exact rows_of_notMem (hl l List.mem_cons_self)
  | l :: m :: ls, _, hl => by
    have ih : rows (unrows (m :: ls)) = m :: ls :=
      rows_unrows (by simp) fun x hx => hl x (List.mem_cons_of_mem _ hx)
    rw [unrows] at ih
    rw [unrows, List.intercalate_cons_cons, List.append_assoc, List.singleton_append,
      rows_append_newline _ (hl l List.mem_cons_self), ih]

theorem filterMap_rows_unrows {α : Type} {g : List Char → Option α} (hnil : g [] = none)
    {ls : List (List Char)} (hl : ∀ l ∈ ls, '\n' ∉ l) : (rows (unrows ls)).filterMap g = ls.filterMap g := by
  by_cases hne : ls = []
  · subst hne
    exact List.filterMap_cons_none hnil
  · rw [rows_unrows hne hl]

/-- The characters of rows put together are theirs and line feeds. -/
theorem mem_unrows {c : Char} : ∀ {ls : List (List Char)}, c ∈ unrows ls → (∃ l ∈ ls, c ∈ l) ∨ c = '\n'
  | [], h => by simp [unrows] at h
  | [l], h => by
    rw [unrows, List.intercalate_singleton] at h
    exact Or.inl ⟨l, List.mem_cons_self, h⟩
  | l :: m :: ls, h => by
    rw [unrows, List.intercalate_cons_cons] at h
    simp only [List.mem_append, List.mem_singleton] at h
    rcases h with (h | h) | h
    · exact Or.inl ⟨l, List.mem_cons_self, h⟩
    · exact Or.inr h
    · rcases mem_unrows h with ⟨x, hx, hc⟩ | h
      · exact Or.inl ⟨x, List.mem_cons_of_mem _ hx, hc⟩
      · exact Or.inr h

/-! ## Readings that are blind to blanks -/

/-- A reading of texts that ignores blanks around them. -/
structure Blind {α : Type} (g : List Char → α) : Prop where
  cons : ∀ b s, isBlank b = true → g (b :: s) = g s
  concat : ∀ b s, isBlank b = true → g (s ++ [b]) = g s

namespace Blind

variable {α : Type}

section
variable {g : List Char → α}

theorem trimLeft_eq (hg : Blind g) : ∀ s : List Char, g (trimLeft s) = g s
  | [] => rfl
  | c :: s => by
    rw [trimLeft]
    cases hc : isBlank c with
    | true =>
      rw [List.dropWhile_cons_of_pos hc, hg.cons c s hc]
      exact hg.trimLeft_eq s
    | false => rw [List.dropWhile_cons_of_neg (by simp [hc])]

theorem trimRight_eq (hg : Blind g) (s : List Char) : g (trimRight s) = g s := by
  have hrev : ∀ r : List Char, g (r.dropWhile isBlank).reverse = g r.reverse := by
    intro r
    induction r with
    | nil => rfl
    | cons c r ih =>
      cases hc : isBlank c with
      | true => rw [List.dropWhile_cons_of_pos hc, List.reverse_cons, hg.concat c _ hc, ih]
      | false => rw [List.dropWhile_cons_of_neg (by simp [hc])]
  have := hrev s.reverse
  rwa [List.reverse_reverse] at this

theorem trim_eq (hg : Blind g) (s : List Char) : g (trim s) = g s := by
  rw [trim, hg.trimRight_eq, hg.trimLeft_eq]

end

variable {g : List Char → Option α}

theorem filterMap_cons (hg : Blind g) (hnil : g [] = none) {b : Char} (hb : isBlank b = true) (s : List Char) :
    (rows (b :: s)).filterMap g = (rows s).filterMap g := by
  by_cases hn : b = '\n'
  · rw [hn, rows_newline, List.filterMap_cons_none hnil]
  · obtain ⟨row, rest, h⟩ := exists_rows s
    rw [rows_cons hn h, h, List.filterMap_cons, List.filterMap_cons, hg.cons b row hb]

theorem filterMap_concat (hg : Blind g) (hnil : g [] = none) {b : Char} (hb : isBlank b = true)
    (s : List Char) : (rows (s ++ [b])).filterMap g = (rows s).filterMap g := by
  obtain ⟨init, last, hs, hb'⟩ := rows_concat b s
  rw [hs, hb', List.filterMap_append, List.filterMap_append]
  congr 1
  split
  · simp only [List.filterMap_cons, hnil, List.filterMap_nil]
  · rw [List.filterMap_cons, List.filterMap_cons, hg.concat b last hb]

/-- What such a reading, blind to each row, gets from all rows of a text is blind to the text. -/
theorem filterMap_rows (hg : Blind g) (hnil : g [] = none) : Blind fun s => (rows s).filterMap g where
  cons _ s hb := hg.filterMap_cons hnil hb s
  concat _ s hb := hg.filterMap_concat hnil hb s

end Blind

theorem mem_of_mem_trim {c : Char} {s : List Char} (h : c ∈ trim s) : c ∈ s := by
  rw [trim, trimRight, dropRightWhile, List.mem_reverse] at h
  have h := (List.dropWhile_sublist _).subset h
  rw [List.mem_reverse] at h
  exact (List.dropWhile_sublist _).subset h

theorem trimRight_concat {b : Char} (hb : isBlank b = true) (s : List Char) :
    trimRight (s ++ [b]) = trimRight s := by
  rw [trimRight, trimRight, dropRightWhile, dropRightWhile, List.reverse_append, List.reverse_singleton,
    List.singleton_append, List.dropWhile_cons_of_pos hb]

theorem trimRight_visible {c : Char} (hc : isBlank c = false) (s : List Char) :
    trimRight (s ++ [c]) = s ++ [c] := by
  rw [trimRight, dropRightWhile, List.reverse_append, List.reverse_singleton, List.singleton_append,
    List.dropWhile_cons_of_neg (by simp [hc]), List.reverse_cons, List.reverse_reverse]

/-- Only what stands behind a visible character is trimmed. -/
theorem trimRight_append_cons {c : Char} (hc : isBlank c = false) (s t : List Char) :
    trimRight (s ++ c :: t) = s ++ c :: trimRight t := by
  rw [trimRight, trimRight, dropRightWhile, dropRightWhile, List.reverse_append, List.reverse_cons,
    List.append_assoc, List.dropWhile_append]
  split
  · rename_i h
    rw [List.isEmpty_iff.1 h, List.singleton_append, List.dropWhile_cons_of_neg (by simp [hc])]
    simp
  · simp

theorem trimRight_append_trimRight (s t : List Char) : trimRight (s ++ trimRight t) = trimRight (s ++ t) := by
  obtain ⟨u, rfl⟩ : ∃ u : List Char, t = u.reverse := ⟨t.reverse, by simp⟩
  induction u with
  | nil => rfl
  | cons c u ih =>
    rw [List.reverse_cons]
    cases hc : isBlank c with
    | true => rw [trimRight_concat hc, ih, ← List.append_assoc, trimRight_concat hc]
    | false => rw [trimRight_visible hc]

theorem trimRight_trimRight (s : List Char) : trimRight (trimRight s) = trimRight s :=
  trimRight_append_trimRight [] s

/-- Blanks are trimmed before and behind a middle part that has none at its ends. -/
theorem trim_append {pre mid post : List Char} {c d : Char} {s t : List Char} (hc : isBlank c = false)
    (hd : isBlank d = false) (hfirst : mid = c :: s) (hlast : mid = t ++ [d]) :
    trim (pre ++ (mid ++ post)) = trimLeft pre ++ (mid ++ trimRight post) := by
  have hleft : trimLeft (pre ++ (mid ++ post)) = trimLeft pre ++ (mid ++ post) := by
    rw [trimLeft, List.dropWhile_append]
    split
    · rename_i h
      rw [trimLeft, List.isEmpty_iff.1 h, hfirst, List.cons_append, List.dropWhile_cons_of_neg (by simp [hc])]
      rfl
    · rfl
  have hright : ∀ front, trimRight (front ++ (mid ++ post)) = front ++ (mid ++ trimRight post) := by
    intro front
    rw [trimRight, trimRight, dropRightWhile, dropRightWhile, ← List.append_assoc, List.reverse_append,
      List.dropWhile_append]
    split
    · rename_i h
      rw [List.isEmpty_iff.1 h, hlast, ← List.append_assoc, List.reverse_append, List.reverse_singleton,
        List.singleton_append, List.dropWhile_cons_of_neg (by simp [hd])]
      simp
    · simp
  rw [trim, hleft, hright]

theorem trimRight_prefix (s : List Char) : trimRight s <+: s := by
  rw [trimRight, dropRightWhile]
  have := List.dropWhile_suffix (l := s.reverse) isBlank
  rwa [← List.reverse_prefix, List.reverse_reverse] at this

theorem mem_of_mem_trimRight {c : Char} {s : List Char} (h : c ∈ trimRight s) : c ∈ s := by
  have hfront := trimRight_prefix s
  exact hfront.subset h

/-- Only a text with visible ends is left alone by trimming. -/
theorem trim_eq_self_iff {s : List Char} :
    trim s = s ↔ (∀ c ∈ s.head?, isBlank c = false) ∧ ∀ c ∈ s.getLast?, isBlank c = false := by
  have hfirst : ∀ t : List Char, ∀ c ∈ (t.dropWhile isBlank).head?, isBlank c = false := by
    intro t c hc
    have hvisible := List.head?_dropWhile_not isBlank t
    rw [Option.mem_def.1 hc] at hvisible
    simpa using hvisible
  have hsame : ∀ t : List Char, (∀ c ∈ t.head?, isBlank c = false) → t.dropWhile isBlank = t := by
    intro t ht
    cases t with
    | nil => rfl
    | cons c t => exact List.dropWhile_cons_of_neg (by simp [ht c rfl])
  constructor
  · intro h
    constructor
    · intro c hc
      -- what is trimmed at its end starts as it did before
      obtain ⟨tail, htail⟩ := trimRight_prefix (trimLeft s)
      refine hfirst s c ?_
      rw [← h] at hc
      rw [trimLeft] at htail
      rw [← htail, List.head?_append, ← trimLeft, ← trim, Option.mem_def.1 hc]
      rfl
    · intro c hc
      rw [← h, trim, trimRight, dropRightWhile, List.getLast?_reverse] at hc
      exact hfirst _ c hc
  · rintro ⟨hhead, hlast⟩
    rw [trim, trimLeft, hsame s hhead, trimRight, dropRightWhile, hsame s.reverse (by rwa [List.head?_reverse]),
      List.reverse_reverse]

/-- What stands between two texts does not matter to their ends. -/
theorem trim_between {s t : List Char} (hs : s ≠ []) (ht : t ≠ []) (hstrim : trim s = s) (httrim : trim t = t)
    (middle : List Char) : trim (s ++ (middle ++ t)) = s ++ (middle ++ t) := by
  have hhead : (s ++ (middle ++ t)).head? = s.head? := by
    rw [List.head?_append, List.head?_eq_some_head hs, Option.some_or]
  have hlast : (s ++ (middle ++ t)).getLast? = t.getLast? := by
    rw [← List.append_assoc, List.getLast?_append, List.getLast?_eq_some_getLast ht, Option.some_or]
  rw [trim_eq_self_iff] at *
  rw [hhead, hlast]
  exact ⟨hstrim.1, httrim.2⟩

theorem unrows_ne_nil {l : List Char} (hl : l ≠ []) (ls : List (List Char)) : unrows (l :: ls) ≠ [] := by
  cases ls with
  | nil => rwa [unrows, List.intercalate_singleton]
  | cons m ls =>
    rw [unrows, List.intercalate_cons_cons, List.append_assoc]
    exact List.append_ne_nil_of_left_ne_nil hl _

/-- Rows without blanks around them, of which none is empty, have none around them when they are put together. -/
theorem trim_unrows : ∀ {ls : List (List Char)}, (∀ l ∈ ls, l ≠ [] ∧ trim l = l) → trim (unrows ls) = unrows ls
  | [], _ => rfl
  | [l], h => by
    rw [unrows, List.intercalate_singleton]
    exact (h l List.mem_cons_self).2
  | l :: m :: ls, h => by
    obtain ⟨hl, htrim⟩ := h l List.mem_cons_self
    have hmore : ∀ x ∈ m :: ls, x ≠ [] ∧ trim x = x := fun x hx => h x (List.mem_cons_of_mem _ hx)
    have ih := trim_unrows hmore
    have hne := unrows_ne_nil (hmore m List.mem_cons_self).1 ls
    rw [unrows, List.intercalate_cons_cons, List.append_assoc]
    exact trim_between hl hne htrim ih ['\n']

theorem blind_trim : Blind trim where
  cons b s hb := by rw [trim, trim, trimLeft, trimLeft, List.dropWhile_cons_of_pos hb]
  concat b s hb := by
    rw [trim, trim, trimLeft, trimLeft, List.dropWhile_append]
    split
    · rename_i h
      rw [List.isEmpty_iff.1 h, List.dropWhile_cons_of_pos hb, List.dropWhile_nil]
    · exact trimRight_concat hb _

theorem blind_allBlank : Blind allBlank where
  cons b s hb := by rw [allBlank, allBlank, List.all_cons, hb, Bool.true_and]
  concat b s hb := by rw [allBlank, allBlank, List.all_append, List.all_cons, hb, List.all_nil,
    Bool.and_true, Bool.and_true]

/-! ## Lines -/

/-- Line feeds are the only characters of a text that break lines. -/
def OnlyFeeds (s : List Char) : Prop := ∀ c ∈ s, isLineBreak c = true → c = '\n'

/-- Under this condition lines are rows, but for an empty last row. -/
theorem breakLines_eq : ∀ {s : List Char}, OnlyFeeds s → ∀ line, ∃ row rest, rows s = row :: rest ∧
    ((line.reverse ++ row) :: rest = breakLines line s ∨ (line.reverse ++ row) :: rest = breakLines line s ++ [[]])
  | [], _, [] => ⟨[], [], rfl, Or.inr rfl⟩
  | [], _, c :: line => ⟨[], [], rfl, Or.inl (by simp [breakLines])⟩
  | c :: s, h, line => by
    have hs : OnlyFeeds s := fun d hd => h d (List.mem_cons_of_mem _ hd)
    by_cases hc : c = '\n'
    · subst hc
      obtain ⟨row, rest, hrows, ih⟩ := breakLines_eq hs []
      have hbreak : breakLines line ('\n' :: s) = line.reverse :: breakLines [] s := by
        rw [breakLines]
        · rfl
        · simp
      refine ⟨[], row :: rest, by rw [rows_newline, hrows], ?_⟩
      rw [hbreak, List.append_nil]
      rcases ih with ih | ih
      · exact Or.inl (by rw [← ih]; rfl)
      · exact Or.inr (by rw [List.cons_append, ← ih]; rfl)
    · obtain ⟨row, rest, hrows, ih⟩ := breakLines_eq hs (c :: line)
      have hno : isLineBreak c = false := by
        cases hb : isLineBreak c with
        | false => rfl
        | true => exact absurd (h c List.mem_cons_self hb) hc
      have hbreak : breakLines line (c :: s) = breakLines (c :: line) s := by
        rw [breakLines]
        · rw [hno, if_neg Bool.false_ne_true]
        · rintro t rfl
          rw [show isLineBreak '\r' = true by decide] at hno
          cases hno
      refine ⟨c :: row, rest, rows_cons hc hrows, ?_⟩
      rw [hbreak]
      rw [List.reverse_cons, List.append_assoc, List.singleton_append] at ih
      exact ih

theorem filterMap_lines {α : Type} {g : List Char → Option α} (hnil : g [] = none) {s : List Char}
    (h : OnlyFeeds s) : (lines s).filterMap g = (rows s).filterMap g := by
  obtain ⟨row, rest, hrows, hlines⟩ := breakLines_eq h []
  rw [List.reverse_nil, List.nil_append] at hlines
  rw [lines, hrows]
  rcases hlines with hlines | hlines
  · rw [hlines]
  · rw [hlines, List.filterMap_append, List.filterMap_cons_none hnil, List.filterMap_nil, List.append_nil]

/-- Lines put together are found again, unless the last one is empty. -/
theorem lines_unrows {ls : List (List Char)} (hbreaks : ∀ l ∈ ls, ∀ c ∈ l, isLineBreak c = false)
    (hlast : ls.getLast? ≠ some []) : lines (unrows ls) = ls := by
  by_cases hne : ls = []
  · subst hne
    rfl
  have hfeeds : OnlyFeeds (unrows ls) := by
    intro c hc hbreak
    rcases mem_unrows hc with ⟨l, hl, hcl⟩ | hfeed
    · rw [hbreaks l hl c hcl] at hbreak
      cases hbreak
    · exact hfeed
  have hrows : rows (unrows ls) = ls := by
    refine rows_unrows hne fun l hl hfeed => ?_
    have hbreak := hbreaks l hl '\n' hfeed
    revert hbreak
    decide
  obtain ⟨row, rest, hsplit, hlines⟩ := breakLines_eq hfeeds []
  rw [List.reverse_nil, List.nil_append, ← hsplit, hrows] at hlines
  rcases hlines with hlines | hlines
  · exact hlines.symm
  · rw [hlines, List.getLast?_concat] at hlast
    exact absurd rfl hlast

end MsxWorkbench.Text
