import MsxWorkbench.Proofs.Program.FoundPass
import MsxWorkbench.Proofs.Text.Rows
/-
# What an analysis reads from a line

The digits of the line's number, the jumps and the variables of its code (`lineFacts?`). Blanks around a
line or around its body do not matter (`blind_lineFacts?`), so the numbered lines of a text with their
bodies trimmed (`numbered`) hold all that an analysis and a renumbering read.
-/
namespace MsxWorkbench.Program

open Text (isBlank isDigit Blind)

/-! ## Blanks around code -/

section
variable {b : Char} (hb : isBlank b = true)
include hb

theorem quote_notMem_blank : '"' ∉ [b] := by
  rw [List.mem_singleton]
  rintro rfl
  revert hb
  decide

theorem emptyStrings_concat (s : List Char) : emptyStrings (s ++ [b]) = emptyStrings s ++ [b] := by
  have hq := quote_notMem_blank hb
  induction s using induction_strings with
  | plain u hu =>
    rw [emptyStrings_append hu, emptyStrings_plain hq, emptyStrings_plain hu]
  | unclosed u v hu hv =>
    have hv' : '"' ∉ v ++ [b] := by
      rw [List.mem_append, not_or]
      exact ⟨hv, hq⟩
    rw [List.append_assoc, List.cons_append, emptyStrings_append hu, emptyStrings_unclosed hv',
      emptyStrings_append hu, emptyStrings_unclosed hv, List.append_assoc, List.cons_append]
  | closed u v t hu hv ih =>
    rw [List.append_assoc, List.cons_append, List.append_assoc, List.cons_append, emptyStrings_append hu,
      emptyStrings_closed hv, ih, emptyStrings_append hu, emptyStrings_closed hv]
    simp only [List.append_assoc, List.cons_append]

/-- A blank behind the code is part of it unless a remark comes before. -/
theorem beforeRemark_concat : ∀ s : List Char,
    beforeRemark (s ++ [b]) = beforeRemark s ++ [b] ∨ beforeRemark (s ++ [b]) = beforeRemark s
  | [] => by
    have h : atRemark [b] = false := atRemark_append_blank hb [] []
    left
    simp only [List.nil_append, beforeRemark, h, if_neg Bool.false_ne_true]
  | c :: s => by
    rw [List.cons_append, beforeRemark, beforeRemark, ← List.cons_append, atRemark_append_blank hb (c :: s) []]
    split
    · exact Or.inr rfl
    · rcases beforeRemark_concat s with h | h
      · exact Or.inl (by rw [h, List.cons_append])
      · exact Or.inr (by rw [h])

theorem codeOf_concat (s : List Char) : codeOf (s ++ [b]) = codeOf s ++ [b] ∨ codeOf (s ++ [b]) = codeOf s := by
  rw [codeOf, codeOf, emptyStrings_concat hb]
  exact beforeRemark_concat hb _

theorem codeOf_cons (s : List Char) : codeOf (b :: s) = b :: codeOf s := by
  have hremark := atRemark_append_blank hb [] (emptyStrings s)
  rw [List.nil_append] at hremark
  have hstrings := emptyStrings_append (quote_notMem_blank hb) s
  rw [List.singleton_append, List.singleton_append] at hstrings
  rw [codeOf, hstrings, beforeRemark, hremark]
  rfl

/-! ## Jumps and variables -/

theorem matchJumpWord?_concat (kind : JumpKind) (s : List Char) :
    matchJumpWord? kind (s ++ [b]) = matchJumpWord? kind s := by
  have hupper := isUpper_referenceWords _ (name_mem_referenceWords kind)
  rw [matchJumpWord?, matchJumpWord?, startsFolded_append_blank hb [] hupper]
  split
  · rename_i hstart
    rw [Text.startsFolded_iff hupper] at hstart
    have hlen := hstart.length_le
    rw [List.length_map] at hlen
    simp only [List.drop_append_of_le_length hlen]
    generalize s.drop kind.name.toList.length = rest
    have hword : Text.startsWord (rest ++ [b]) = Text.startsWord rest := by
      cases rest with
      | nil => exact Text.isWord_of_isBlank hb
      | cons c rest => rfl
    have hdigits : ((rest ++ [b]).dropWhile isBlank).takeWhile isDigit =
        (rest.dropWhile isBlank).takeWhile isDigit := by
      rw [List.dropWhile_append]
      split
      · rename_i h
        rw [List.isEmpty_iff.1 h, List.dropWhile_cons_of_pos hb, List.dropWhile_nil]
      · refine takeWhile_append_of_noHead _ fun c hc => ?_
        rw [List.head?_cons, Option.mem_some_iff] at hc
        rw [← hc]; exact isDigit_of_isBlank hb
    rw [hword, hdigits]
    split
    · rfl
    · rename_i hno
      simp only [Bool.or_eq_true, List.isEmpty_iff, not_or] at hno
      -- a digit comes behind the blanks, so the last blank is not one of them
      have hblanks : (rest ++ [b]).takeWhile isBlank = rest.takeWhile isBlank := by
        rw [List.takeWhile_append]
        split
        · rename_i hall
          have : rest.dropWhile isBlank = [] := by
            rw [← drop_length_takeWhile, hall, List.drop_length]
          rw [this] at hno
          exact absurd rfl hno.2
        · rfl
      rw [hblanks]
  · rfl

theorem scanJumps_concat : ∀ (s : List Char) (skip : Nat) (inWord : Bool),
    scanJumps skip inWord (s ++ [b]) = scanJumps skip inWord s
  | [], 0, inWord => by
    rw [List.nil_append, scanJumps_none (Or.inr (matchJump?_of_not_latin (Text.isLatin_of_isBlank hb) [])),
      scanJumps, scanJumps]
  | [], skip + 1, inWord => by rw [List.nil_append, scanJumps, scanJumps, scanJumps]
  | c :: s, skip + 1, inWord => by rw [List.cons_append, scanJumps, scanJumps, scanJumps_concat s]
  | c :: s, 0, inWord => by
    have hmatch : matchJump? (c :: (s ++ [b])) = matchJump? (c :: s) := by
      rw [← List.cons_append, matchJump?, matchJump?, matchJumpWord?_concat hb, matchJumpWord?_concat hb]
    rw [List.cons_append, scanJumps, scanJumps, hmatch]
    split
    · rw [scanJumps_concat s]
    · rw [scanJumps_concat s]

theorem jumpsOf_cons (s : List Char) : jumpsOf (b :: s) = jumpsOf s := by
  rw [jumpsOf, scanJumps_none (Or.inr (matchJump?_of_not_latin (Text.isLatin_of_isBlank hb) s)),
    Text.isWord_of_isBlank hb, jumpsOf]

theorem variablesOf_cons (s : List Char) : variablesOf (b :: s) = variablesOf s := by
  rw [variablesOf, scanNames_none (matchName?_of_not_latin (Text.isLatin_of_isBlank hb) s),
    Text.isWord_of_isBlank hb, variablesOf]

theorem variablesOf_concat (s : List Char) : variablesOf (s ++ [b]) = variablesOf s := by
  rw [variablesOf, scanNames_append_end (.of_isBlank hb) [] s 0 false (Nat.zero_le _), scanNames, List.append_nil,
    variablesOf]

end

theorem blind_jumpsOf_codeOf : Blind fun s => jumpsOf (codeOf s) where
  cons b s hb := by rw [codeOf_cons hb, jumpsOf_cons hb]
  concat b s hb := by
    rcases codeOf_concat hb s with h | h
    · rw [h, jumpsOf, scanJumps_concat hb, jumpsOf]
    · rw [h]

theorem blind_variablesOf_codeOf : Blind fun s => variablesOf (codeOf s) where
  cons b s hb := by rw [codeOf_cons hb, variablesOf_cons hb]
  concat b s hb := by
    rcases codeOf_concat hb s with h | h
    · rw [h, variablesOf_concat hb]
    · rw [h]

/-! ## Numbered lines -/

theorem spanLineNumber?_cons {b : Char} (hb : isBlank b = true) (s : List Char) :
    spanLineNumber? (b :: s) = spanLineNumber? s := by
  rw [spanLineNumber?, spanLineNumber?, Text.trimLeft, Text.trimLeft, List.dropWhile_cons_of_pos hb]

theorem spanLineNumber?_concat {b : Char} (hb : isBlank b = true) (s : List Char) :
    spanLineNumber? (s ++ [b]) = (spanLineNumber? s).map fun (digits, body) => (digits, body ++ [b]) := by
  have hstop : NoHead isDigit [b] := by
    intro c hc
    rw [List.head?_cons, Option.mem_some_iff] at hc
    rw [← hc]; exact isDigit_of_isBlank hb
  rw [spanLineNumber?, spanLineNumber?, Text.trimLeft, Text.trimLeft, List.dropWhile_append]
  split
  · rename_i h
    rw [List.isEmpty_iff.1 h, List.dropWhile_cons_of_pos hb]
    rfl
  · generalize s.dropWhile isBlank = t
    rw [takeWhile_append_of_noHead t hstop]
    split
    · rfl
    · rw [Option.map_some, List.dropWhile_append]
      split
      · rename_i h
        rw [List.isEmpty_iff.1 h, List.dropWhile_cons_of_neg (by simp [isDigit_of_isBlank hb])]
        rfl
      · rfl

/-- The digits of a line's number and its body without blanks around it. -/
def numberAndBody? (row : List Char) : Option (List Char × List Char) :=
  (spanLineNumber? row).map fun (digits, body) => (digits, Text.trim body)

theorem blind_numberAndBody? : Blind numberAndBody? where
  cons b s hb := by rw [numberAndBody?, spanLineNumber?_cons hb, numberAndBody?]
  concat b s hb := by
    rw [numberAndBody?, spanLineNumber?_concat hb, numberAndBody?, Option.map_map]
    congr 1
    funext ⟨digits, body⟩
    simp only [Function.comp_apply, Text.blind_trim.concat b body hb]

/-- The numbered lines of a text. -/
def numbered (text : List Char) : List (List Char × List Char) := (Text.rows text).filterMap numberAndBody?

theorem blind_numbered : Blind numbered := blind_numberAndBody?.filterMap_rows rfl

/-- The numbers of the lines of a text that have one. -/
def lineNumbers (text : List Char) : List Nat := (numbered text).map fun line => Text.digitsValue line.1

/-- The number of a numbered line is one, and line and body stand in the text. -/
theorem mem_of_mem_numbered {text : List Char} {line : List Char × List Char} (h : line ∈ numbered text) :
    IsNumber line.1 ∧ (∀ c ∈ line.1, c ∈ text) ∧ ∀ c ∈ line.2, c ∈ text ∧ c ≠ '\n' := by
  obtain ⟨row, hrow, hline⟩ := List.mem_filterMap.1 h
  rw [numberAndBody?, spanLineNumber?] at hline
  split at hline
  · cases hline
  · rename_i hne
    simp only [Option.map_some, Option.some.injEq] at hline
    subst hline
    have hdrop : ∀ c ∈ Text.trimLeft row, c ∈ row := fun c hc => (List.dropWhile_sublist _).subset hc
    refine ⟨⟨by simpa using hne, fun c hc => List.mem_takeWhile_imp hc⟩, fun c hc => ?_, fun c hc => ?_⟩
    · exact (Text.mem_of_mem_rows hrow (hdrop c ((List.takeWhile_sublist _).subset hc))).1
    · exact Text.mem_of_mem_rows hrow (hdrop c ((List.dropWhile_sublist _).subset (Text.mem_of_mem_trim hc)))

/-- What an analysis reads from a numbered line. -/
structure LineFacts where
  digits : List Char
  jumps : List (JumpKind × List Char)
  vars : List (List Char × VariableType)

/-- What an analysis reads from a number and a body. -/
def factsOf (line : List Char × List Char) : LineFacts :=
  ⟨line.1, jumpsOf (codeOf line.2), variablesOf (codeOf line.2)⟩

/-- What an analysis reads from a line that may have no number. -/
def lineFacts? (row : List Char) : Option LineFacts := (spanLineNumber? row).map factsOf

theorem lineFacts?_eq (row : List Char) : lineFacts? row = (numberAndBody? row).map factsOf := by
  rw [lineFacts?, numberAndBody?, Option.map_map]
  congr 1
  funext ⟨digits, body⟩
  simp only [Function.comp_apply, factsOf, blind_jumpsOf_codeOf.trim_eq body,
    blind_variablesOf_codeOf.trim_eq body]

theorem filterMap_lineFacts? (text : List Char) :
    (Text.rows text).filterMap lineFacts? = (numbered text).map factsOf := by
  rw [numbered, List.map_filterMap]
  congr 1
  funext row
  exact lineFacts?_eq row

/-- A number in front of a blank is the number of the line. -/
theorem spanLineNumber?_number {digits : List Char} (hd : IsNumber digits) (rest : List Char) :
    spanLineNumber? (digits ++ ' ' :: rest) = some (digits, ' ' :: rest) := by
  have hstop : NoHead isDigit (' ' :: rest) := by
    intro c hc
    rw [List.head?_cons, Option.mem_some_iff] at hc
    rw [← hc]; decide
  have htrim : Text.trimLeft (digits ++ ' ' :: rest) = digits ++ ' ' :: rest := by
    have := dropWhile_append_noHead (p := isBlank) (s := []) (by simp) (hd.noHead_blank (' ' :: rest))
    exact this
  rw [spanLineNumber?, htrim, takeWhile_append_noHead hd.2 hstop, dropWhile_append_noHead hd.2 hstop,
    if_neg (by simp [hd.1])]

/-- A line made of a number, a blank and a body with its references changed. -/
theorem lineFacts?_changed {f : List Char → List Char} (hf : ∀ d, IsNumber d → IsNumber (f d))
    {digits : List Char} (hd : IsNumber digits) (body : List Char) :
    lineFacts? (digits ++ ' ' :: changeAll f body) =
      some ⟨digits, (jumpsOf (codeOf body)).map fun j => (j.1, f j.2), variablesOf (codeOf body)⟩ := by
  rw [lineFacts?, spanLineNumber?_number hd, Option.map_some, factsOf, codeOf_cons (by decide),
    jumpsOf_cons (by decide), variablesOf_cons (by decide), codeOf_changeAll hf, jumpsOf_changeAll hf,
    variablesOf_changeAll hf]

end MsxWorkbench.Program
