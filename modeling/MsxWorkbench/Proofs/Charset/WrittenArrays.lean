import MsxWorkbench.Proofs.Charset.Literals
import MsxWorkbench.Proofs.Steps
import MsxWorkbench.Proofs.Text.Occurrences
/-
# Written arrays

An array is declared by its name and literals in brackets. The name is looked for as a pattern, in which a dollar stands for
the end of the text, so an array whose name has one is never found (`readArray_dollar`). Any other one is read back from a
text in which no declaration of its name comes before it, however its characters are spelled (`readArray_plain`).

Two things have to be seen. The opening of a declaration cannot begin in what comes before and end inside another one,
because its bracket stands behind a blank and the other brackets do not. And a bracket among the characters does not close
the array, because its literal ends with an apostrophe before a semicolon can come.
-/
namespace MsxWorkbench.Charset

open Text (apostrophe hexDigitChars ne_nil_of_first not_infix_append not_infix_of_notMem_left
  not_infix_of_notMem_right not_prefix_of_first)

/-! ## The first occurrence of a pattern -/

section
variable {pattern before rest : List Char}

theorem afterFirst?_of_first (h : ¬ pattern <:+: before ++ pattern.dropLast) :
    afterFirst? (dropStart? pattern) (before ++ (pattern ++ rest)) = some rest := by
  induction before with
  | nil =>
    obtain ⟨c, s, rfl⟩ := List.exists_cons_of_ne_nil (ne_nil_of_first h)
    rw [List.nil_append, List.cons_append, afterFirst?, ← List.cons_append, dropStart?_append]
  | cons c before ih =>
    have hnot : ¬ pattern <+: c :: (before ++ (pattern ++ rest)) := not_prefix_of_first (List.cons_ne_nil c before) h
    rw [List.cons_append, afterFirst?, dropStart?_eq_none hnot]
    exact ih fun hinside => h (List.infix_cons hinside)

theorem beforeFirst?_of_first (h : ¬ pattern <:+: before ++ pattern.dropLast) :
    beforeFirst? pattern (before ++ (pattern ++ rest)) = some before := by
  induction before with
  | nil =>
    obtain ⟨c, s, rfl⟩ := List.exists_cons_of_ne_nil (ne_nil_of_first h)
    rw [List.nil_append, List.cons_append, beforeFirst?, ← List.cons_append, if_pos (by simp)]
  | cons c before ih =>
    have hnot : ¬ pattern <+: c :: (before ++ (pattern ++ rest)) := not_prefix_of_first (List.cons_ne_nil c before) h
    rw [List.cons_append, beforeFirst?, if_neg (by simpa using hnot), ih fun hinside => h (List.infix_cons hinside)]
    rfl

end

/-! ## Declarations -/

/-- The name of an array: letters, digits, underscores, dollars and characters beyond ASCII, not starting with a digit. -/
structure IsArrayName (name : List Char) : Prop where
  chars : ∀ c ∈ name, c.isAlphanum = true ∨ c = '_' ∨ c = '$' ∨ 128 ≤ c.toNat
  start : ∃ c ∈ name.head?, c.isDigit = false

/-- What stands between the literals of an array: commas, blanks and line breaks. -/
def Separates (gap : List Char) : Prop := ∀ c ∈ gap, c = ',' ∨ Text.isBlank c = true

/-- A literal of an array, the character that it spells, and what separates it from the next one. -/
structure Item where
  char : Char
  literal : List Char
  gap : List Char
  spells : Spells literal char
  separates : Separates gap

/-- The text of an item. -/
def Item.text (item : Item) : List Char := quote item.literal ++ item.gap

/-- How the declaration of an array starts. -/
def arrayOpening (name : List Char) : List Char := "const ".toList ++ name ++ ": string[] = [".toList

/-- What may stand in front of a declaration. -/
def exportMark (exported : Bool) : List Char := if exported then "export ".toList else []

/-- The declaration of an array: a gap and the items between brackets. -/
def declaration (exported : Bool) (name gap : List Char) (items : List Item) : List Char :=
  exportMark exported ++ arrayOpening name ++ gap ++ items.flatMap Item.text ++ [']', ';']

theorem dropStart?_append_left (u v s : List Char) : dropStart? (u ++ v) s = (dropStart? u s).bind (dropStart? v) := by
  ext rest
  simp only [Option.bind_eq_some_iff, dropStart?_eq_some_iff, List.append_assoc]
  constructor
  · rintro rfl
    exact ⟨_, rfl, rfl⟩
  · rintro ⟨_, rfl, rfl⟩
    rfl

theorem dropOpening?_eq (name s : List Char) : dropOpening? name s =
    ((dropStart? "const ".toList s).bind (dropName? name)).bind (dropStart? ": string[] = [".toList) := by
  rw [Option.bind_assoc]
  rfl

/-! ## Names with a dollar -/

/-- A name without a dollar stands for itself. -/
theorem dropName?_plain {name : List Char} (h : '$' ∉ name) (s : List Char) : dropName? name s = dropStart? name s := by
  induction name generalizing s with
  | nil => simp [dropName?, dropStart?]
  | cons c name ih =>
    rw [List.mem_cons, not_or] at h
    rw [dropName?, if_neg (Ne.symm h.1), funext (ih h.2), ← dropStart?_append_left, List.singleton_append]

/-- Behind a name stands the end of the text, and behind a dollar nothing of it but a line break. -/
theorem suffix_of_dropName? {name s rest : List Char} (h : dropName? name s = some rest) :
    rest <:+ s ∧ ('$' ∈ name → rest <:+ ['\n']) := by
  induction name generalizing s with
  | nil =>
    cases h
    exact ⟨List.suffix_refl _, by simp⟩
  | cons c name ih =>
    rw [dropName?] at h
    by_cases hc : c = '$'
    · rw [if_pos hc] at h
      by_cases hend : s = [] ∨ s = ['\n']
      · rw [if_pos hend] at h
        obtain ⟨hrest, -⟩ := ih h
        refine ⟨hrest, fun _ => hrest.trans ?_⟩
        rcases hend with rfl | rfl
        · exact List.nil_suffix
        · exact List.suffix_refl _
      · rw [if_neg hend] at h
        cases h
    · rw [if_neg hc] at h
      obtain ⟨behind, hbehind, hname⟩ := Option.bind_eq_some_iff.1 h
      obtain rfl := dropStart?_eq_some_iff.1 hbehind
      obtain ⟨hrest, hdollar⟩ := ih hname
      refine ⟨hrest.trans (List.suffix_cons c behind), fun hmem => hdollar ?_⟩
      exact (List.mem_cons.1 hmem).resolve_left (Ne.symm hc)

/-- A declaration of a name with a dollar is not found, whatever the text is. -/
theorem arrayBody?_dollar {name : List Char} (h : '$' ∈ name) (content : List Char) : arrayBody? content name = none := by
  have hopening : ∀ s, dropOpening? name s = none := by
    intro s
    rw [dropOpening?_eq, Option.bind_eq_none_iff]
    intro rest hrest
    obtain ⟨behind, -, hname⟩ := Option.bind_eq_some_iff.1 hrest
    refine dropStart?_eq_none fun hstart => ?_
    have hlength := (hstart.length_le).trans ((suffix_of_dropName? hname).2 h).length_le
    revert hlength
    decide
  have hnone : afterFirst? (dropOpening? name) content = none := by
    induction content with
    | nil => exact hopening []
    | cons c content ih => rw [afterFirst?, hopening, ih]
  exact congrArg (Option.bind · _) hnone

theorem arrayBody?_plain {name : List Char} (h : '$' ∉ name) (content : List Char) : arrayBody? content name =
    (afterFirst? (dropStart? (arrayOpening name)) content).bind (beforeFirst? [']', ';']) := by
  have hdrop : dropOpening? name = dropStart? (arrayOpening name) := by
    funext s
    have hopening : arrayOpening name = "const ".toList ++ name ++ ": string[] = [".toList := rfl
    rw [dropOpening?_eq, funext (dropName?_plain h), hopening, dropStart?_append_left, dropStart?_append_left]
  rw [← hdrop]
  rfl

/-! ## Where the array starts and ends -/

-- the equation of the definition takes long to make, so the two forms of the opening are given by computation
theorem arrayOpening_eq (name : List Char) :
    arrayOpening name = ("const ".toList ++ name ++ ": string[] =".toList) ++ [' ', '['] := by
  have hopening : arrayOpening name = "const ".toList ++ name ++ (": string[] =".toList ++ [' ', '[']) := rfl
  rw [hopening, List.append_assoc _ _ [' ', '[']]

theorem dropLast_arrayOpening (name : List Char) :
    (arrayOpening name).dropLast = "const ".toList ++ (name ++ ": string[] = ".toList) := by
  have hopening : arrayOpening name = "const ".toList ++ name ++ (": string[] = ".toList ++ ['[']) := rfl
  rw [hopening, ← List.append_assoc, List.dropLast_concat, List.append_assoc]

theorem IsArrayName.notMem {name : List Char} (h : IsArrayName name) : '[' ∉ name := by
  intro hmem
  have hchar := h.chars _ hmem
  revert hchar
  decide

theorem Separates.notMem {gap : List Char} (h : Separates gap) {c : Char} (hcomma : c ≠ ',')
    (hblank : Text.isBlank c = false) : c ∉ gap := by
  intro hmem
  rcases h c hmem with hc | hc
  · exact hcomma hc
  · rw [hblank] at hc
    cases hc

/-- The declaration of a name is the first one if there is none in front of it. -/
theorem not_infix_opening {name before : List Char} (hname : IsArrayName name) (h : ¬ arrayOpening name <:+: before)
    (exported : Bool) : ¬ arrayOpening name <:+: before ++ exportMark exported ++ (arrayOpening name).dropLast := by
  have hfront : ¬ [' ', '['] <:+: exportMark exported ++ "const ".toList := by
    cases exported <;> decide
  have hback : ¬ [' ', '['] <:+: name ++ ": string[] = ".toList :=
    not_infix_append (w := []) (not_infix_of_notMem_right hname.notMem) (by decide) (by decide)
  have hhead : (name ++ ": string[] = ".toList).head? ≠ some '[' := by
    cases hchars : name with
    | nil => decide
    | cons c tail =>
      have hmem := hname.notMem
      simp only [hchars, List.mem_cons, not_or] at hmem
      simpa using Ne.symm hmem.1
  have htail : ¬ [' ', '['] <:+: (exportMark exported ++ "const ".toList) ++ (name ++ ": string[] = ".toList) :=
    not_infix_append (w := []) hfront hback hhead
  rw [dropLast_arrayOpening, List.append_assoc, ← List.append_assoc (exportMark exported)]
  rw [arrayOpening_eq] at h ⊢
  refine not_infix_append h htail ?_
  cases exported <;> simp [exportMark]

theorem arrayBody?_declaration {name before body : List Char} (hname : IsArrayName name) (hdollar : '$' ∉ name)
    (h : ¬ arrayOpening name <:+: before) (hbody : ¬ [']', ';'] <:+: body ++ [']']) (exported : Bool) (after : List Char) :
    arrayBody? (before ++ exportMark exported ++ (arrayOpening name ++ (body ++ ([']', ';'] ++ after)))) name =
      some body := by
  rw [arrayBody?_plain hdollar, afterFirst?_of_first (not_infix_opening hname h exported)]
  exact beforeFirst?_of_first hbody

/-! ## The literals -/

theorem scanLiterals_items (items : List Item) : scanLiterals 0 (items.flatMap Item.text) = items.map Item.literal := by
  induction items with
  | nil => rfl
  | cons item items ih =>
    have hgap : apostrophe ∉ item.gap := item.separates.notMem (by decide) (by decide)
    rw [List.flatMap_cons, Item.text, List.append_assoc, scanLiterals_quote (.of_spells item.spells), scanLiterals_gap hgap,
      ih, List.map_cons]

/-- A text that does not close an array, whatever stands in front of it. -/
structure KeepsOpen (s : List Char) : Prop where
  pair : ¬ [']', ';'] <:+: s
  head : s.head? ≠ some ';'

theorem KeepsOpen.append {u v : List Char} (hu : KeepsOpen u) (hv : KeepsOpen v) : KeepsOpen (u ++ v) := by
  refine ⟨not_infix_append (w := []) hu.pair hv.pair hv.head, ?_⟩
  cases u with
  | nil => exact hv.head
  | cons c u => exact hu.head

theorem Separates.keepsOpen {gap : List Char} (h : Separates gap) : KeepsOpen gap := by
  refine ⟨not_infix_of_notMem_left (h.notMem (by decide) (by decide)), fun hhead => ?_⟩
  exact h.notMem (by decide) (by decide) (List.mem_of_head? hhead)

theorem HexOf.notMem_bracket {digits : List Char} {c : Char} (h : HexOf digits c) : ']' ∉ digits :=
  fun hmem => (hexDigit_spec (h.hex _ hmem)).2.2 (by decide)

/-- No spelling has both a bracket and a semicolon. -/
theorem Spells.bracket {text : List Char} {c : Char} (h : Spells text c) : ']' ∉ text ∨ ';' ∉ text := by
  cases h with
  | plain _ _ =>
    by_cases hc : c = ']'
    · exact Or.inr (by simp [hc])
    · exact Or.inl (by simpa using Ne.symm hc)
  | number hhex => exact Or.inl (by simp [hhex.notMem_bracket])
  | braced hhex => exact Or.inl (by simp [hhex.notMem_bracket])
  | byte hhex => exact Or.inl (by simp [hhex.notMem_bracket])
  | zero => exact Or.inl (by decide)
  | apostrophe => exact Or.inl (by decide)
  | backslash => exact Or.inl (by decide)

theorem keepsOpen_quote {text : List Char} {c : Char} (h : Spells text c) : KeepsOpen (quote text) := by
  have hmem : ∀ {d : Char}, d ≠ apostrophe → d ∉ text → d ∉ quote text := by
    intro d hd htext
    simp [quote, hd, htext]
  refine ⟨?_, by simp [quote, apostrophe]⟩
  rcases h.bracket with hbracket | hsemicolon
  · exact not_infix_of_notMem_left (hmem (by decide) hbracket)
  · exact not_infix_of_notMem_right (hmem (by decide) hsemicolon)

theorem keepsOpen_items (items : List Item) : KeepsOpen (items.flatMap Item.text) := by
  induction items with
  | nil => exact ⟨by decide, by decide⟩
  | cons item items ih =>
    rw [List.flatMap_cons]
    exact ((keepsOpen_quote item.spells).append item.separates.keepsOpen).append ih

theorem readArray_plain {name before gap : List Char} (hname : IsArrayName name) (hdollar : '$' ∉ name)
    (hfirst : ¬ arrayOpening name <:+: before) (hgap : Separates gap) (exported : Bool) (items : List Item)
    (after : List Char) : readArray (before ++ declaration exported name gap items ++ after) name =
      .ok (some (items.map fun item => [item.char])) := by
  have hopen : KeepsOpen (gap ++ items.flatMap Item.text ++ [']']) :=
    (hgap.keepsOpen.append (keepsOpen_items items)).append ⟨by decide, by decide⟩
  have hcontent : before ++ declaration exported name gap items ++ after = before ++ exportMark exported ++
      (arrayOpening name ++ (gap ++ items.flatMap Item.text ++ ([']', ';'] ++ after))) := by
    simp [declaration]
  have hliterals : scanLiterals 0 (gap ++ items.flatMap Item.text) = items.map Item.literal := by
    rw [scanLiterals_gap (hgap.notMem (by decide) (by decide)), scanLiterals_items]
  have htexts : (items.map Item.literal).mapM itemText = .ok (items.map fun item => [item.char]) := by
    rw [List.mapM_map]
    exact mapM_ok fun item _ => itemText_of_spells item.spells
  rw [readArray, hcontent, arrayBody?_declaration hname hdollar hfirst hopen.pair]
  dsimp only
  rw [hliterals, htexts]
  rfl

theorem readArray_dollar {name : List Char} (h : '$' ∈ name) (content : List Char) : readArray content name = .ok none := by
  rw [readArray, arrayBody?_dollar h]

/-- **An array is read back** from a text that declares its name for the first time exactly if there is no dollar in the
name. Every character may be spelled in every way that there is for it, and the literals may be separated by any commas,
blanks and line breaks. An array whose name has a dollar is found in no text. -/
theorem readArray_declaration_iff {name before gap : List Char} (hname : IsArrayName name)
    (hfirst : ¬ arrayOpening name <:+: before) (hgap : Separates gap) (exported : Bool) (items : List Item)
    (after : List Char) :
    (readArray (before ++ declaration exported name gap items ++ after) name =
      .ok (some (items.map fun item => [item.char])) ↔ '$' ∉ name) ∧
    ('$' ∈ name → ∀ content, readArray content name = .ok none) := by
  refine ⟨⟨fun hread hdollar => ?_, fun hdollar => ?_⟩, fun hdollar => readArray_dollar hdollar⟩
  · rw [readArray_dollar hdollar] at hread
    cases hread
  · exact readArray_plain hname hdollar hfirst hgap exported items after

theorem separates_comma : Separates [',', '\n'] := by simp [Separates, Text.isBlank]

/-- An item with a comma and a line break behind it. -/
def Item.onLine {literal : List Char} {char : Char} (spells : Spells literal char) : Item where
  char := char
  literal := literal
  gap := [',', '\n']
  spells := spells
  separates := separates_comma

theorem spells_bracket : Spells [']'] ']' := .plain (by decide) (by decide)

theorem spells_semicolon : Spells [';'] ';' := .plain (by decide) (by decide)

theorem hexOf_acute : HexOf ['0', '0', 'e', '9'] 'é' := ⟨by decide, by decide, by simp [hexDigitChars]⟩

theorem hexOf_face : HexOf ['1', 'F', '6', '0', '0'] '😀' := ⟨by decide, by decide, by simp [hexDigitChars]⟩

theorem hexOf_letter : HexOf ['4', '1'] 'A' := ⟨by decide, by decide, by simp [hexDigitChars]⟩

/-- Items with the marks of arrays and literals, and with every way to spell a character. -/
def mixedItems : List Item := [.onLine spells_bracket, .onLine spells_semicolon, .onLine .apostrophe, .onLine .backslash,
  .onLine .zero, .onLine (.number hexOf_acute), .onLine (.braced hexOf_face), .onLine (.byte hexOf_letter)]

theorem readArray_declaration_iff_mixed :
    IsArrayName "A_1".toList ∧ ¬ arrayOpening "A_1".toList <:+: "const A: string[] = ['x'];".toList ∧ Separates ['\n'] ∧
      readArray ("const A: string[] = ['x'];".toList ++ "export const A_1: string[] = [\n".toList ++
        "']',\n';',\n'\\'',\n'\\\\',\n'\\0',\n".toList ++ "'\\u00e9',\n'\\u\x7b1F600\x7d',\n'\\x41',\n];".toList ++
        "]; 'y'".toList) "A_1".toList =
          .ok (some [[']'], [';'], ['\''], ['\\'], [Char.ofNat 0], ['é'], ['😀'], ['A']]) := by
  have hname : IsArrayName "A_1".toList := ⟨by simp, 'A', rfl, by decide⟩
  have hfirst : ¬ arrayOpening "A_1".toList <:+: "const A: string[] = ['x'];".toList := by decide
  have hgap : Separates ['\n'] := by simp [Separates, Text.isBlank]
  have htext : "export const A_1: string[] = [\n".toList ++ "']',\n';',\n'\\'',\n'\\\\',\n'\\0',\n".toList ++
      "'\\u00e9',\n'\\u\x7b1F600\x7d',\n'\\x41',\n];".toList = declaration true "A_1".toList ['\n'] mixedItems := by decide
  have hread := (readArray_declaration_iff hname hfirst hgap true mixedItems "]; 'y'".toList).1.2 (by decide)
  rw [← htext] at hread
  simp only [← List.append_assoc] at hread
  exact ⟨hname, hfirst, hgap, hread⟩

theorem spells_letter : Spells ['x'] 'x' := .plain (by decide) (by decide)

/-- A dollar is a character of names like any other, but this array is not found. -/
theorem readArray_dollar_name : IsArrayName "A$".toList ∧
    "const A$: string[] = ['x',\n];".toList = declaration false "A$".toList [] [.onLine spells_letter] ∧
    readArray "const A$: string[] = ['x',\n];".toList "A$".toList = .ok none :=
  ⟨⟨by simp, 'A', rfl, by decide⟩, by decide, readArray_dollar (by decide) _⟩

end MsxWorkbench.Charset
