import MsxWorkbench.Proofs.Charset.Literals
import MsxWorkbench.Proofs.Charset.Tables
/-
# The Brazilian table

The high half of the Brazilian table is that of the international one with single texts assigned by a source of its own.
The source is read from left to right: at each place an assignment starts, and reading goes on behind it, or there is none
(`Assigns`). Of several assignments to one place the last one holds, and positions below 0x80 count from the end of the
half. Everything else in the table is as in the international one (`brazilian_overrides`).
-/
namespace MsxWorkbench.Charset

open Text (apostrophe hexDigitChars hexDigitValue hexValue)

/-! ## Assignments in a text -/

/-- An assignment: the digits of its position, which have capital letters, and its literal. -/
structure Assignment where
  digits : List Char
  literal : List Char
  nonempty : digits ≠ []
  capital : ∀ d ∈ digits, isPositionDigit d = true
  closed : IsLiteral literal

namespace Assignment

/-- The text of an assignment. -/
def text (a : Assignment) : List Char :=
  "chars[0x".toList ++ (a.digits ++ (" - 0x80] = '".toList ++ (a.literal ++ [apostrophe, ';'])))

/-- The position of an assignment. -/
def position (a : Assignment) : Nat := hexValue a.digits

/-- The place that is assigned in a list of `size` items. It is the position less 0x80, counted from the end if that is
negative. -/
def index (size : Nat) (a : Assignment) : Int :=
  if a.position < 0x80 then (a.position : Int) - 0x80 + size else (a.position : Int) - 0x80

end Assignment

/-- Whether an assignment starts a text. -/
def StartsAssignment (s : List Char) : Prop := ∃ (a : Assignment) (rest : List Char), s = a.text ++ rest

/-- The assignments of a text from left to right. -/
inductive Assigns : List Char → List Assignment → Prop
  | nil : Assigns [] []
  | other {c : Char} {s : List Char} {assignments : List Assignment} : ¬ StartsAssignment (c :: s) →
      Assigns s assignments → Assigns (c :: s) assignments
  | assignment {a : Assignment} {rest : List Char} {assignments : List Assignment} :
      Assigns rest assignments → Assigns (a.text ++ rest) (a :: assignments)

/-! ## Reading assignments -/

theorem Assignment.length_text (a : Assignment) :
    a.text.length = 8 + a.digits.length + 12 + a.literal.length + 2 := by
  have htext : a.text = "chars[0x".toList ++ (a.digits ++ (" - 0x80] = '".toList ++ (a.literal ++ [apostrophe, ';']))) := rfl
  have hopening : "chars[0x".toList.length = 8 := rfl
  have hmiddle : " - 0x80] = '".toList.length = 12 := rfl
  rw [htext, List.length_append, List.length_append, List.length_append, List.length_append, hopening, hmiddle,
    List.length_cons, List.length_singleton]
  omega

theorem Assignment.text_append (a : Assignment) (rest : List Char) : a.text ++ rest =
    "chars[0x".toList ++ (a.digits ++ (" - 0x80] = '".toList ++ (a.literal ++ apostrophe :: ';' :: rest))) := by
  delta Assignment.text
  rw [List.append_assoc, List.append_assoc, List.append_assoc, List.append_assoc, List.cons_append, List.cons_append,
    List.nil_append]

theorem mem_hexDigitChars_of_isPositionDigit {d : Char} (h : isPositionDigit d = true) : d ∈ hexDigitChars := by
  have hcode : 48 ≤ d.toNat ∧ d.toNat ≤ 57 ∨ 65 ≤ d.toNat ∧ d.toNat ≤ 70 := by
    rw [isPositionDigit, Bool.or_eq_true, Text.isDigit_iff_toNat, Bool.and_eq_true, decide_eq_true_eq,
      decide_eq_true_eq] at h
    exact h
  have hall : ∀ n < 71, 48 ≤ n ∧ n ≤ 57 ∨ 65 ≤ n ∧ n ≤ 70 → Char.ofNat n ∈ hexDigitChars := by decide
  rw [← Char.ofNat_toNat d]
  exact hall d.toNat (by omega) hcode

/-- The position that is read from digits is their value. -/
theorem foldl_baseDigit? {digits : List Char} (h : ∀ d ∈ digits, isPositionDigit d = true) (n : Nat) :
    digits.foldl (fun n d => 16 * n + (Text.baseDigit? 16 d).getD 0) n =
      digits.foldl (fun n d => 16 * n + hexDigitValue d) n := by
  induction digits generalizing n with
  | nil => rfl
  | cons d digits ih =>
    rw [List.forall_mem_cons] at h
    rw [List.foldl_cons, List.foldl_cons, (hexDigit_spec (mem_hexDigitChars_of_isPositionDigit h.1)).1, Option.getD_some]
    exact ih h.2 _

theorem matchAssignment?_eq (s : List Char) : matchAssignment? s =
    (dropStart? "chars[0x".toList s).bind fun rest =>
      if (rest.takeWhile isPositionDigit).isEmpty then none
      else (dropStart? " - 0x80] = '".toList (rest.drop (rest.takeWhile isPositionDigit).length)).bind fun behind =>
        (spanLiteral? behind).bind fun span =>
          if span.2.head? = some ';' then
            some ((rest.takeWhile isPositionDigit).foldl (fun n c => 16 * n + (Text.baseDigit? 16 c).getD 0) 0, span.1,
              8 + (rest.takeWhile isPositionDigit).length + 12 + span.1.length + 2)
          else none := by
  -- the definition has string literals, which `unfold` would evaluate
  delta matchAssignment?
  dsimp only [bind]
  cases dropStart? "chars[0x".toList s with
  | none => rfl
  | some rest =>
    dsimp only [Option.bind_some, Option.bind_none]
    split
    · rfl
    · cases dropStart? " - 0x80] = '".toList (rest.drop (rest.takeWhile isPositionDigit).length) with
      | none => rfl
      | some behind =>
        dsimp only [Option.bind_some]
        cases spanLiteral? behind with
        | none => rfl
        | some span =>
          dsimp only [Option.bind_some]
          by_cases h : span.2.head? = some ';'
          · rw [if_neg (fun hne => hne h), if_pos h]
            rfl
          · rw [if_pos h, if_neg h]

theorem matchAssignment?_text (a : Assignment) (rest : List Char) :
    matchAssignment? (a.text ++ rest) = some (a.position, a.literal, a.text.length) := by
  have hdigits : (a.digits ++ (" - 0x80] = '".toList ++ (a.literal ++ apostrophe :: ';' :: rest))).takeWhile
      isPositionDigit = a.digits := by
    have hmiddle : " - 0x80] = '".toList = ' ' :: "- 0x80] = '".toList := rfl
    rw [List.takeWhile_append_of_pos a.capital, hmiddle, List.cons_append, List.takeWhile_cons_of_neg (by decide),
      List.append_nil]
  rw [a.text_append, matchAssignment?_eq, dropStart?_append, Option.bind_some, hdigits, if_neg (by simpa using a.nonempty),
    List.drop_left, dropStart?_append, Option.bind_some, spanLiteral?_append a.closed, Option.bind_some,
    foldl_baseDigit? a.capital, a.length_text]
  exact if_pos rfl

theorem startsAssignment_of_match {s : List Char} {found : Nat × List Char × Nat} (h : matchAssignment? s = some found) :
    StartsAssignment s := by
  rw [matchAssignment?_eq] at h
  obtain ⟨rest, hrest, h⟩ := Option.bind_eq_some_iff.1 h
  split at h
  · cases h
  · rename_i hdigits
    obtain ⟨behind, hbehind, h⟩ := Option.bind_eq_some_iff.1 h
    obtain ⟨⟨literal, after⟩, hspan, h⟩ := Option.bind_eq_some_iff.1 h
    split at h
    · rename_i hend
      obtain ⟨hliteral, rfl⟩ := spanLiteral?_eq_some_iff.1 hspan
      obtain ⟨after, rfl⟩ := List.head?_eq_some_iff.1 hend
      let a : Assignment := ⟨rest.takeWhile isPositionDigit, literal, by simpa using hdigits,
        List.all_eq_true.1 List.all_takeWhile, hliteral⟩
      have htake : rest.take a.digits.length = a.digits := (List.prefix_iff_eq_take.1 (List.takeWhile_prefix _)).symm
      have hsplit : rest = a.digits ++ (" - 0x80] = '".toList ++ (literal ++ apostrophe :: ';' :: after)) := calc
        rest = rest.take a.digits.length ++ rest.drop a.digits.length := (List.take_append_drop _ rest).symm
        _ = a.digits ++ rest.drop a.digits.length := by rw [htake]
        _ = _ := congrArg (a.digits ++ ·) (dropStart?_eq_some_iff.1 hbehind)
      refine ⟨a, after, ?_⟩
      rw [a.text_append, dropStart?_eq_some_iff.1 hrest]
      exact congrArg ("chars[0x".toList ++ ·) hsplit
    · cases h

theorem matchAssignment?_eq_none {s : List Char} (h : ¬ StartsAssignment s) : matchAssignment? s = none := by
  cases hmatch : matchAssignment? s with
  | none => rfl
  | some found => exact absurd (startsAssignment_of_match hmatch) h

theorem scanAssignments_skip (skip : Nat) (s : List Char) :
    scanAssignments skip s = scanAssignments 0 (s.drop skip) := by
  induction skip generalizing s with
  | zero => rfl
  | succ skip ih =>
    cases s with
    | nil => rfl
    | cons c s => exact ih s

theorem scanAssignments_other {c : Char} {s : List Char} (h : ¬ StartsAssignment (c :: s)) :
    scanAssignments 0 (c :: s) = scanAssignments 0 s := by
  rw [scanAssignments, matchAssignment?_eq_none h]

theorem scanAssignments_text (a : Assignment) (rest : List Char) :
    scanAssignments 0 (a.text ++ rest) = (a.position, a.literal) :: scanAssignments 0 rest := by
  have hlength := a.length_text
  obtain ⟨c, text, htext⟩ := List.exists_cons_of_ne_nil (List.ne_nil_of_length_pos (l := a.text) (by omega))
  have hmatch := matchAssignment?_text a rest
  rw [htext, List.cons_append] at hmatch ⊢
  rw [scanAssignments, hmatch]
  dsimp only
  rw [scanAssignments_skip, List.length_cons, Nat.add_sub_cancel, List.drop_left]

/-- The scan finds the assignments of a text. -/
theorem scanAssignments_eq {s : List Char} {assignments : List Assignment} (h : Assigns s assignments) :
    scanAssignments 0 s = assignments.map fun a => (a.position, a.literal) := by
  induction h with
  | nil => rfl
  | other hnot _ ih => rw [scanAssignments_other hnot, ih]
  | assignment _ ih => rw [scanAssignments_text, ih, List.map_cons]

/-- Every text has assignments, if only none. -/
theorem exists_assigns (s : List Char) : ∃ assignments, Assigns s assignments := by
  -- reading goes on behind an assignment, so the induction is on the length of what is left
  induction hlength : s.length using Nat.strongRecOn generalizing s with
  | ind n ih =>
    subst hlength
    cases s with
    | nil => exact ⟨[], .nil⟩
    | cons c s =>
      by_cases hstart : StartsAssignment (c :: s)
      · obtain ⟨a, rest, hrest⟩ := hstart
        have hshorter : rest.length < (c :: s).length := by
          rw [hrest, List.length_append, a.length_text]
          omega
        obtain ⟨assignments, hassigns⟩ := ih rest.length hshorter rest rfl
        exact ⟨a :: assignments, hrest ▸ .assignment hassigns⟩
      · obtain ⟨assignments, hassigns⟩ := ih s.length (Nat.lt_succ_self _) s rfl
        exact ⟨assignments, .other hstart hassigns⟩

/-! ## Places -/

/-- A place in a list is an index that counts from the end if it is negative. -/
theorem of_positionIn_eq {size i : Nat} {index : Int} (h : (positionIn size index).toOption = some i) :
    (if index < 0 then index + size else index) = i ∧ i < size := by
  unfold positionIn at h
  dsimp only at h
  generalize (if index < 0 then index + size else index) = place at h ⊢
  split at h
  · cases h
  · split at h
    · cases h
      omega
    · cases h

theorem Assignment.index_eq {a : Assignment} {size i : Nat}
    (h : (positionIn size ((a.position : Int) - 0x80)).toOption = some i) : a.index size = i ∧ i < size := by
  obtain ⟨hindex, hlt⟩ := of_positionIn_eq h
  refine ⟨?_, hlt⟩
  rw [Assignment.index, ← hindex]
  split <;> split <;> omega

/-- Where assignments go through, each of them has a place. -/
theorem exists_place {assignments : List (Nat × List Char)} {chars out : List (List Char)}
    (h : assignAll chars assignments = .ok out) :
    ∀ a ∈ assignments, ∃ i, (positionIn chars.length ((a.1 : Int) - 0x80)).toOption = some i := by
  induction assignments generalizing chars with
  | nil => exact fun _ ha => absurd ha List.not_mem_nil
  | cons a assignments ih =>
    obtain ⟨text, -, h⟩ := of_bind_eq_ok h
    obtain ⟨next, hassign, h⟩ := of_bind_eq_ok h
    obtain ⟨place, hplace, rfl⟩ := of_assign_eq_ok hassign
    have hrest := ih h
    rw [List.length_set] at hrest
    exact List.forall_mem_cons.2 ⟨⟨place, hplace⟩, hrest⟩

theorem lastItem?_eq_none {size i : Nat} {assignments : List (Nat × List Char)}
    (h : ∀ a ∈ assignments, (positionIn size ((a.1 : Int) - 0x80)).toOption ≠ some i) :
    lastItem? size assignments i = none := by
  induction assignments with
  | nil => rfl
  | cons a assignments ih =>
    rw [List.forall_mem_cons] at h
    rw [lastItem?_cons, ih h.2, if_neg h.1, Option.or_none]

theorem lastItem?_append {size i : Nat} {before after : List (Nat × List Char)} {a : Nat × List Char}
    (ha : (positionIn size ((a.1 : Int) - 0x80)).toOption = some i)
    (h : ∀ b ∈ after, (positionIn size ((b.1 : Int) - 0x80)).toOption ≠ some i) :
    lastItem? size (before ++ a :: after) i = some a.2 := by
  induction before with
  | nil => rw [List.nil_append, lastItem?_cons, lastItem?_eq_none h, if_pos ha, Option.none_or]
  | cons b before ih => rw [List.cons_append, lastItem?_cons, ih, Option.some_or]

/-! ## The table -/

/-- Tables that are put together with the same first half agree on it. -/
theorem getD_of_assemble {graphics high high' : Option (List (List Char))} {ascii : List (List Char)}
    {house : List Char} {table table' : Table} (hascii : ascii.length = 95)
    (h : assemble graphics ascii house high = .ok table) (h' : assemble graphics ascii house high' = .ok table')
    {code : Nat} (hcode : code < 0x80) : table'.getD code [] = table.getD code [] := by
  obtain ⟨low, hlow, h⟩ := of_bind_eq_ok h
  obtain ⟨top, -, h⟩ := of_bind_eq_ok h
  obtain ⟨low', hlow', h'⟩ := of_bind_eq_ok h'
  obtain ⟨top', -, h'⟩ := of_bind_eq_ok h'
  cases h
  cases h'
  cases hlow.symm.trans hlow'
  obtain ⟨-, -, hlength, -⟩ := of_graphicPart_eq_ok hlow
  have hfront : code < (low ++ ascii ++ [house]).length := by
    simp only [List.length_append, hlength, hascii, List.length_singleton]
    omega
  rw [List.getD_eq_getElem?_getD, List.getD_eq_getElem?_getD, List.getElem?_append_left hfront,
    List.getElem?_append_left hfront]

/-- The cell of a code is that of the international table, or it holds what the last assignment to its place says. -/
structure Overridden (size : Nat) (assignments : List Assignment) (international brazilian : Table) (code : Nat) :
    Prop where
  kept : (∀ a ∈ assignments, a.index size ≠ (code : Int) - 0x80) →
    brazilian.getD code [] = international.getD code []
  assigned : ∀ before a after, assignments = before ++ a :: after → a.index size = (code : Int) - 0x80 →
    (∀ b ∈ after, b.index size ≠ (code : Int) - 0x80) → assignedText a.literal = .ok (brazilian.getD code [])

section
variable {assignments : List Assignment} {high top : List (List Char)}
variable (h : assignAll high (assignments.map fun a => (a.position, a.literal)) = .ok top)
include h

theorem place_iff {a : Assignment} (ha : a ∈ assignments) (i : Nat) :
    (positionIn high.length ((a.position : Int) - 0x80)).toOption = some i ↔ a.index high.length = i := by
  obtain ⟨place, hplace⟩ := exists_place h _ (List.mem_map_of_mem ha)
  dsimp only at hplace
  rw [hplace, (Assignment.index_eq hplace).1, Option.some_inj, Int.ofNat_inj]

theorem index_lt {a : Assignment} (ha : a ∈ assignments) : 0 ≤ a.index high.length ∧ a.index high.length < high.length := by
  obtain ⟨place, hplace⟩ := exists_place h _ (List.mem_map_of_mem ha)
  obtain ⟨hindex, hlt⟩ := Assignment.index_eq hplace
  omega

theorem getD_eq_of_unassigned {i : Nat} (hnone : ∀ a ∈ assignments, a.index high.length ≠ i) :
    top.getD i [] = high.getD i [] := by
  obtain ⟨hlength, hcells⟩ := of_assignAll_eq_ok h
  rw [List.getD_eq_getElem?_getD, List.getD_eq_getElem?_getD]
  by_cases hi : i < high.length
  · have hlast : lastItem? high.length (assignments.map fun a => (a.position, a.literal)) i = none :=
      lastItem?_eq_none (List.forall_mem_map.2 fun a ha hplace => hnone a ha ((place_iff h ha i).1 hplace))
    obtain ⟨-, hkept⟩ | ⟨item, text, hsome, -⟩ := hcells i hi
    · rw [hkept]
    · cases hlast.symm.trans hsome
  · rw [List.getElem?_eq_none (by omega), List.getElem?_eq_none (by omega)]

theorem assignedText_of_last {before after : List Assignment} {a : Assignment} (hsplit : assignments = before ++ a :: after)
    {i : Nat} (ha : a.index high.length = i) (hlater : ∀ b ∈ after, b.index high.length ≠ i) :
    assignedText a.literal = .ok (top.getD i []) := by
  have hmem : a ∈ assignments := by simp [hsplit]
  have hlast : lastItem? high.length (assignments.map fun a => (a.position, a.literal)) i = some a.literal := by
    rw [hsplit, List.map_append, List.map_cons]
    refine lastItem?_append ((place_iff h hmem i).2 ha) (List.forall_mem_map.2 fun b hb hplace => ?_)
    exact hlater b hb ((place_iff h (by simp [hsplit, hb]) i).1 hplace)
  have hi : i < high.length := by
    have hrange := index_lt h hmem
    omega
  obtain ⟨hnone, -⟩ | ⟨item, text, hsome, htext, hout⟩ := (of_assignAll_eq_ok h).2 i hi
  · cases hnone.symm.trans hlast
  · cases hsome.symm.trans hlast
    rw [htext, List.getD_eq_getElem?_getD, hout, Option.getD_some]

end

/-- **The Brazilian table.** In tables that are written the Brazilian one is the international one with the assignments of
its source: the high half that is read has as many texts as the international one, and each cell is the same in both
tables unless its place is assigned, where it holds the text of the last literal assigned to it. -/
theorem brazilian_overrides {files : SourceFiles} {tables : Tables} (h : buildFile files = .ok tables) :
    ∃ international brazilian high top source assignments,
      tables.lookup "International" = some international ∧ international.length = 256 ∧
      tables.lookup "Brazilian" = some brazilian ∧ brazilian.length = 256 ∧
      arrayRead? files .common "HIGH_CHARS_INTERNATIONAL" = some high ∧
      readSource files .brazilian = .ok source ∧ Assigns source assignments ∧
      readOverrides source high = .ok top ∧ top.length = high.length ∧
      ∀ code < 256, Overridden high.length assignments international brazilian code := by
  obtain ⟨international, japanese, brazilian, russian, arabic, source, top, russianTop, rfl, hinternational, -, hsource,
    htop, hbrazilian, -⟩ := of_build_eq_ok (of_buildFile_eq_ok h)
  obtain ⟨-, high, -, hhigh, hlength, -, hback⟩ := of_assemble_eq_ok (length_asciiPart _ _) hinternational
  obtain ⟨_, _, -, ⟨⟩, hlength', -, hback'⟩ := of_assemble_eq_ok (length_asciiPart _ _) hbrazilian
  obtain ⟨assignments, hassigns⟩ := exists_assigns source
  rw [hhigh, Option.getD_some] at htop
  have hassignAll : assignAll high (assignments.map fun a => (a.position, a.literal)) = .ok top := by
    rw [← scanAssignments_eq hassigns]
    exact htop
  refine ⟨international, brazilian, high, top, source, assignments, rfl, hlength, rfl, hlength', hhigh, hsource, hassigns,
    htop, (of_assignAll_eq_ok hassignAll).1, fun code hcode => ?_⟩
  by_cases hlow : code < 0x80
  · refine ⟨fun _ => getD_of_assemble (length_asciiPart _ _) hinternational hbrazilian hlow, ?_⟩
    -- no index is negative, so nothing is assigned to the first half
    intro before a after hsplit hindex
    have hrange := index_lt hassignAll (a := a) (by simp [hsplit])
    omega
  · obtain ⟨i, rfl⟩ : ∃ i, code = 0x80 + i := ⟨code - 0x80, by omega⟩
    have hplace : ((0x80 + i : Nat) : Int) - 0x80 = i := by omega
    constructor
    · rw [hplace, hback i (by omega), hback' i (by omega)]
      exact getD_eq_of_unassigned hassignAll
    · rw [hplace, hback' i (by omega)]
      intro before a after hsplit
      exact assignedText_of_last hassignAll hsplit

/-- The assignment of Á to 0x84, by its number. -/
def accented : Assignment where
  digits := ['8', '4']
  literal := ['\\', 'u', '0', '0', 'C', '1']
  nonempty := by simp
  capital := List.all_eq_true.1 (by decide)
  closed := .escaped (by decide) (.of_plain (by simp [Text.apostrophe]))

theorem assigns_wholeSources : ∃ source, readSource wholeSources .brazilian = .ok source ∧ Assigns source [accented] := by
  have hlookup : wholeSources.lookup "brazilian-br.ts" = some (accented.text ++ []) := rfl
  have hbreaks : Text.normalizeBreaks (accented.text ++ []) = accented.text ++ [] := by decide
  refine ⟨accented.text ++ [], ?_, .assignment .nil⟩
  rw [readSource, SourceFile.name, hlookup]
  exact congrArg Except.ok hbreaks

/-- Where one code is assigned, that cell has the assigned letter and the next one is as in the international table. -/
theorem brazilian_overrides_wholeSources : ∃ tables international brazilian, buildFile wholeSources = .ok tables ∧
    tables.lookup "International" = some international ∧ tables.lookup "Brazilian" = some brazilian ∧
    brazilian.getD 0x84 [] = ['Á'] ∧ brazilian.getD 0x85 [] = international.getD 0x85 [] := by
  obtain ⟨tables, -, hbuilt, -⟩ := buildFile_wholeSources
  obtain ⟨international, brazilian, high, top, source, assignments, hinternational, -, hbrazilian, -, -, hsource, hassigns,
    -, -, hcells⟩ := brazilian_overrides hbuilt
  obtain ⟨source', hsource', hassigns'⟩ := assigns_wholeSources
  obtain rfl := Except.ok.inj (hsource.symm.trans hsource')
  have hscan := (scanAssignments_eq hassigns).symm.trans (scanAssignments_eq hassigns')
  obtain ⟨a, others, rfl, ha, hothers⟩ := List.map_eq_cons_iff.1 hscan
  obtain rfl := List.map_eq_nil_iff.1 hothers
  obtain ⟨hposition, hliteral⟩ := Prod.mk.inj ha
  have hindex : a.index high.length = 4 := by
    have hvalue : accented.position = 0x84 := by decide
    rw [Assignment.index, hposition, hvalue]
    rfl
  refine ⟨tables, international, brazilian, hbuilt, hinternational, hbrazilian, ?_, ?_⟩
  · have hassigned := (hcells 0x84 (by decide)).assigned [] a [] rfl hindex (by simp)
    have hdecoded : assignedText accented.literal = .ok ['Á'] := by rfl
    rw [hliteral, hdecoded] at hassigned
    exact (Except.ok.inj hassigned).symm
  · exact (hcells 0x85 (by decide)).kept (by simp [hindex])

end MsxWorkbench.Charset
