import MsxWorkbench.Program.Spacing
import MsxWorkbench.Program.Analysis
import MsxWorkbench.Proofs.Text.Ascii
/-
# The words of the table

What all reserved words have in common, as far as cutting a line into parts and looking for jumps depend on it. Reading
the letters of the table is slow, so it is walked through once (`wordShape`), and other proofs take what they need from
there.
-/
namespace MsxWorkbench.Program

open Text (isBlank capital)

/-- Characters that no reserved word has. -/
def isSeparator (c : Char) : Bool := isBlank c || c == '"' || c == ':' || c.isDigit

/-- A character and its capital stand in the same classes. -/
theorem classes_capital {c : Char} (hascii : c.toNat < 0x80) : isSeparator (capital c) = isSeparator c ∧
    Text.isWord (capital c) = Text.isWord c :=
  Text.forall_ascii (p := fun c => isSeparator (capital c) = isSeparator c ∧ Text.isWord (capital c) = Text.isWord c)
    (by decide) hascii

/-- The form of the words in the table. -/
structure WordShape (w : List Char) : Prop where
  head : ∃ c v, w = c :: v ∧ c ≠ '('
  separators : ∀ c ∈ w, isSeparator c = false
  apostrophe : Text.apostrophe ∉ w.tail
  letters : ∀ c ∈ w.dropLast, Text.isWord c = true
  /-- A parenthesis in the word does not stand behind a text that one may follow closely. -/
  calls : ∀ i, callsNext (w.take i) = true → '(' ∉ w.drop i
  /-- No other word has the letters of REM in it. -/
  remark : w ≠ ['R', 'E', 'M'] → ∀ i, ¬ ['R', 'E', 'M'] <+: w.drop i
  /-- No other word starts with a jump word. -/
  jumps : ∀ kind : JumpKind, kind.name.toList <+: w → w = kind.name.toList

theorem WordShape.ne_nil {w : List Char} (h : WordShape w) : w ≠ [] := by
  obtain ⟨c, v, rfl, -⟩ := h.head
  exact List.cons_ne_nil c v

/-- The same form as a check that can be run on the table: it looks at places in the word only. -/
def hasWordShape (w : List Char) : Bool :=
  w.head?.any (· != '(') && w.all (fun c => !isSeparator c) && !w.tail.contains Text.apostrophe &&
    w.dropLast.all Text.isWord &&
    (List.range w.length).all (fun i => !(w.drop i).contains '(' || !callsNext (w.take i)) &&
    (w == ['R', 'E', 'M'] || (List.range w.length).all fun i => !(['R', 'E', 'M'].isPrefixOf (w.drop i))) &&
    [JumpKind.goto, .gosub].all fun kind => !kind.name.toList.isPrefixOf w || w == kind.name.toList

theorem wordShape_of_check {w : List Char} (h : hasWordShape w = true) : WordShape w := by
  simp only [hasWordShape, Bool.and_eq_true] at h
  obtain ⟨⟨⟨⟨⟨⟨hhead, hseparators⟩, hapostrophe⟩, hletters⟩, hcalls⟩, hremark⟩, hjumps⟩ := h
  refine ⟨?_, fun c hc => ?_, by simpa using hapostrophe, List.all_eq_true.1 hletters, fun i hi hmem => ?_,
    fun hne i hstarts => ?_, fun kind hstarts => ?_⟩
  · cases w with
    | nil => cases hhead
    | cons c v => exact ⟨c, v, rfl, bne_iff_ne.1 hhead⟩
  · simpa using List.all_eq_true.1 hseparators c hc
  · have hlt : i < w.length := Nat.lt_of_not_le fun hle => by
      rw [List.drop_eq_nil_of_le hle] at hmem
      cases hmem
    have hplace := List.all_eq_true.1 hcalls i (List.mem_range.2 hlt)
    simp [hi, hmem] at hplace
  · have hlt : i < w.length := Nat.lt_of_not_le fun hle => by
      rw [List.drop_eq_nil_of_le hle] at hstarts
      simp at hstarts
    have hplaces := (Bool.or_eq_true _ _ ▸ hremark).resolve_left (by simpa using hne)
    have hplace := List.all_eq_true.1 hplaces i (List.mem_range.2 hlt)
    rw [Bool.not_eq_true', ← Bool.not_eq_true, List.isPrefixOf_iff_prefix] at hplace
    exact hplace hstarts
  · have hkind : kind ∈ [JumpKind.goto, .gosub] := by cases kind <;> simp
    have hname := List.all_eq_true.1 hjumps kind hkind
    rw [List.isPrefixOf_iff_prefix.2 hstarts] at hname
    simpa using hname

theorem wordShape {w : List Char} (hw : w ∈ reservedWords.map String.toList) : WordShape w := by
  have hall : (reservedWords.map String.toList).all hasWordShape = true := by decide +kernel
  exact wordShape_of_check (List.all_eq_true.1 hall w hw)

/-! ## Functions -/

/-- The form of the function words: capitals, at most with a dollar behind them. -/
structure FunctionShape (w : List Char) : Prop where
  ne_nil : w ≠ []
  letters : ∀ c ∈ w.dropLast, c.isUpper = true
  last : ∀ c ∈ w.getLast?, c = '$' ∨ c.isUpper = true

theorem functionShape {w : List Char} (h : isFunctionWord w = true) : FunctionShape w := by
  have hall : (functionWords.all fun w => !w.toList.isEmpty && w.toList.dropLast.all Char.isUpper &&
      w.toList.getLast?.all fun c => c == '$' || c.isUpper) = true := by decide
  obtain ⟨v, hv, heq⟩ := List.any_eq_true.1 h
  obtain rfl := beq_iff_eq.1 heq
  have hword := List.all_eq_true.1 hall v hv
  simp only [Bool.and_eq_true, Bool.not_eq_true', List.isEmpty_eq_false_iff, List.all_eq_true] at hword
  obtain ⟨⟨hne, hletters⟩, hlast⟩ := hword
  refine ⟨hne, hletters, fun c hc => ?_⟩
  rw [Option.mem_def.1 hc] at hlast
  simpa using hlast

theorem FunctionShape.mem {w : List Char} (h : FunctionShape w) {c : Char} (hc : c ∈ w) : c = '$' ∨ c.isUpper = true := by
  rw [← List.dropLast_concat_getLast h.ne_nil, List.mem_append, List.mem_singleton] at hc
  rcases hc with hc | rfl
  · exact .inr (h.letters c hc)
  · exact h.last _ (List.getLast?_eq_some_getLast h.ne_nil)

theorem rem_mem_reservedWords : ['R', 'E', 'M'] ∈ reservedWords.map String.toList :=
  List.mem_map.2 ⟨"REM", by decide, rfl⟩

/-- A jump word is a reserved one. -/
theorem name_mem_reservedWords (kind : JumpKind) : kind.name.toList ∈ reservedWords.map String.toList := by
  refine List.mem_map_of_mem (List.mem_append_left _ ?_)
  cases kind <;> decide

end MsxWorkbench.Program
