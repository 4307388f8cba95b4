import MsxWorkbench.Proofs.Program.Literals
import MsxWorkbench.Proofs.Program.Renumbered
/-
# What a renumbering has done

Every renumbering that goes through, of lines with numbers or without, has written for each line its new number, a blank
and the body with its references changed (`eq_of_renumberLines`). The body is what stands behind the old number, without
blanks around it (`body_of_programLines`), and a reference has become the new number of its line (`newReference`).
-/
namespace MsxWorkbench.Program

open Text (isBlank isDigit Blind)

/-! ## Bodies -/

theorem blind_body : Blind fun row => Text.trim (dropNumber row) where
  cons b s hb := by
    simp only [dropNumber, spanLineNumber?_cons hb]
    cases spanLineNumber? s with
    | none => exact Text.blind_trim.cons b s hb
    | some span => rfl
  concat b s hb := by
    simp only [dropNumber, spanLineNumber?_concat hb]
    cases spanLineNumber? s with
    | none => exact Text.blind_trim.concat b s hb
    | some span =>
      simp only [Option.map_some, Text.blind_trim.trimLeft_eq]
      exact Text.blind_trim.concat b span.2 hb

theorem body_of_read {row : List Char} {line : Line} (h : Line.read row = .ok line) :
    line.body = Text.trim (dropNumber row) := by
  unfold Line.read at h
  unfold dropNumber
  cases hspan : spanLineNumber? row with
  | none =>
    rw [hspan] at h
    cases h
    rfl
  | some span =>
    obtain ⟨digits, rest⟩ := span
    rw [hspan] at h
    simp only at h ⊢
    cases hread : Text.readDigits digits with
    | error e =>
      rw [hread] at h
      cases h
    | ok n =>
      rw [hread] at h
      cases h
      rw [Text.blind_trim.trimLeft_eq]

/-- The lines of a program have the bodies of its rows that are not blank. -/
theorem body_of_programLines {text : List Char} {lines : List Line} (h : programLines text = .ok lines) :
    lines.map Line.body =
      ((Text.rows text).filter fun row => !Text.allBlank row).map fun row => Text.trim (dropNumber row) := by
  rw [programLines_eq, ← mapM_filter_eq] at h
  exact map_eq_of_mapM (fun _ _ => body_of_read) h

/-! ## Strings and remarks in bodies -/

theorem dropNumber_eq {line : List Char} (hline : '\n' ∉ line) : dropNumber line = (splitNumber line).2 := by
  rw [splitNumber_eq hline, dropNumber, spanLineNumber?]
  cases hempty : ((Text.trimLeft line).takeWhile isDigit).isEmpty <;> simp

section
variable {u w : List Char} {x : Char}

theorem trimLeft_dropNumber (hline : '\n' ∉ u ++ x :: w) (hblank : isBlank x = false) (hdigit : isDigit x = false) :
    Text.trimLeft (dropNumber (u ++ x :: w)) = Text.trimLeft (dropNumber u) ++ x :: w := by
  have hfront : '\n' ∉ u := fun hmem => hline (List.mem_append_left _ hmem)
  rw [dropNumber_eq hline, dropNumber_eq hfront, splitNumber_append hline hblank hdigit]
  exact dropWhile_append_cons hblank _ w

theorem OutsideStrings.trimLeft_dropNumber (h : OutsideStrings u) (hline : '\n' ∉ u) :
    OutsideStrings (Text.trimLeft (dropNumber u)) := by
  have hcount : Blind fun s : List Char => s.count '"' :=
    ⟨fun b s hb => List.count_cons_of_ne (by rintro rfl; cases hb),
      fun b s hb => by
        have hne : '"' ∉ [b] := by
          rw [List.mem_singleton]
          rintro rfl
          cases hb
        rw [List.count_append, List.count_eq_zero.2 hne, Nat.add_zero]⟩
  rw [OutsideStrings, hcount.trimLeft_eq, dropNumber_eq hline, count_splitNumber hline '"' rfl rfl]
  exact h

/-- A body from a visible character on that is no digit is the row from there on. -/
theorem body_eq_append {row : List Char} (hrow : '\n' ∉ row) (hplace : Text.trimRight row = u ++ x :: w)
    (hblank : isBlank x = false) (hdigit : isDigit x = false) :
    Text.trim (dropNumber row) = Text.trimLeft (dropNumber u) ++ x :: w := by
  have hline : '\n' ∉ u ++ x :: w := by
    rw [← hplace]
    exact fun hmem => hrow (Text.mem_of_mem_trimRight hmem)
  have hend : Text.trimRight w = w := by
    have htrim := Text.trimRight_trimRight row
    rw [hplace, Text.trimRight_append_cons hblank] at htrim
    simpa using htrim
  have hbody : Text.trim (dropNumber (Text.trimRight row)) = Text.trim (dropNumber row) := blind_body.trimRight_eq row
  rw [← hbody, hplace, Text.trim, trimLeft_dropNumber hline hblank hdigit, Text.trimRight_append_cons hblank, hend]

end

theorem exists_cons_mark {mark : List Char} (h : mark = [Text.apostrophe] ∨ IsRem mark) :
    ∃ x m, mark = x :: m ∧ isBlank x = false ∧ isDigit x = false := by
  rcases h with rfl | h
  · exact ⟨Text.apostrophe, [], rfl, by decide, by decide⟩
  · obtain ⟨x, y, z, rfl, hx, -, -⟩ := h.exists_letters
    refine ⟨x, [y, z], rfl, isBlank_of_capital hx (by decide), ?_⟩
    have hlatin := Text.isLatin_of_isUpper_capital (c := x) (by rw [hx]; decide)
    cases hdigit : isDigit x with
    | false => rfl
    | true =>
      rw [Text.isLatin_of_isDigit hdigit] at hlatin
      cases hlatin

/-- The strings and remarks of a row are those of its body. -/
theorem NotCode.body {row pre middle post : List Char} (hrow : '\n' ∉ row)
    (hplace : Text.trimRight row = pre ++ (middle ++ post)) (h : NotCode pre middle post) :
    Text.trim (dropNumber row) = Text.trimLeft (dropNumber pre) ++ (middle ++ post) ∧
      NotCode (Text.trimLeft (dropNumber pre)) middle post := by
  have hpre : '\n' ∉ pre := by
    intro hmem
    refine hrow (Text.mem_of_mem_trimRight ?_)
    rw [hplace]
    exact List.mem_append_left _ hmem
  cases h with
  | string hstring =>
    cases hstring with
    | closed hcode hv => exact ⟨body_eq_append hrow hplace rfl rfl, .string (.closed (hcode.trimLeft_dropNumber hpre) hv)⟩
    | unclosed hcode hv =>
      exact ⟨body_eq_append hrow hplace rfl rfl, .string (.unclosed (hcode.trimLeft_dropNumber hpre) hv)⟩
  | @remark code mark _ hcode hmark =>
    have hoff : '\n' ∉ code := fun hmem => hpre (List.mem_append_left _ hmem)
    obtain ⟨x, m, rfl, hblank, hdigit⟩ := exists_cons_mark hmark
    rw [List.append_assoc, List.cons_append] at hplace
    rw [body_eq_append hrow hplace hblank hdigit, trimLeft_dropNumber hpre hblank hdigit, List.append_assoc]
    exact ⟨rfl, .remark (hcode.trimLeft_dropNumber hoff) hmark⟩

theorem NotCode.prepend {front pre middle post : List Char} (hfront : '"' ∉ front) (h : NotCode pre middle post) :
    NotCode (front ++ pre) middle post := by
  have hcode : ∀ {code : List Char}, OutsideStrings code → OutsideStrings (front ++ code) := by
    intro code hcode
    rwa [OutsideStrings, List.count_append, List.count_eq_zero.2 hfront, Nat.zero_add]
  cases h with
  | string hstring =>
    cases hstring with
    | closed hpre hv => exact .string (.closed (hcode hpre) hv)
    | unclosed hpre hv => exact .string (.unclosed (hcode hpre) hv)
  | remark hpre hmark =>
    rw [← List.append_assoc]
    exact .remark (hcode hpre) hmark

/-! ## New references -/

/-- The new number of the first line that had the number `value`. -/
def newNumber? (assigned : List (Line × Int)) (value : Nat) : Option Int :=
  (assigned.find? fun line => line.1.number == some value).map Prod.snd

/-- The digits of a reference after renumbering: the new number of its line, or the same digits if there is no such
line. A store knows numbers in ASCII digits only. -/
def newReference (stored : Bool) (assigned : List (Line × Int)) (digits : List Char) : List Char :=
  if stored && !digits.all Char.isDigit then digits
  else ((newNumber? assigned (Text.digitsValue digits)).map fun n => (toString n).toList).getD digits

theorem toString_signed (n : Int) :
    IsNumber (toString n).toList ∨ ∃ e, IsNumber e ∧ (toString n).toList = '-' :: e := by
  by_cases h : 0 ≤ n
  · exact Or.inl (isNumber_toString h)
  · right
    refine ⟨Nat.toDigits 10 (-n).toNat, ⟨Nat.toDigits_ne_nil, fun c hc => ?_⟩, ?_⟩
    · exact Text.isDigit_of_ascii (Nat.isDigit_of_mem_toDigits (by decide) (by decide) hc)
    · rw [Int.toString_eq_repr, Int.repr_eq_if, if_neg h, String.toList_append, Nat.toList_repr]
      rfl

theorem numeric_newReference (stored : Bool) (assigned : List (Line × Int)) : Numeric (newReference stored assigned) := by
  intro d hd
  unfold newReference
  split
  · exact Or.inl hd
  · cases newNumber? assigned (Text.digitsValue d) with
    | none => exact Or.inl hd
    | some n => exact toString_signed n

theorem lookupAssigned_cases (assigned : List (Line × Int)) (d : List Char) :
    lookupAssigned assigned d = .ok (newReference false assigned d) ∨ ∃ e, lookupAssigned assigned d = .error e := by
  cases hlookup : lookupAssigned assigned d with
  | error e => exact Or.inr ⟨e, rfl⟩
  | ok t =>
    left
    obtain ⟨value, hvalue, h⟩ := of_bind_eq_ok hlookup
    have hdigits : value = Text.digitsValue d := by
      unfold Text.readDigits at hvalue
      split at hvalue
      · cases hvalue
      · cases hvalue
        rfl
    subst hdigits
    unfold newReference newNumber?
    simp only [Bool.false_and, Bool.false_eq_true, if_false]
    split at h
    · rename_i heq
      rw [heq, (Text.of_writeInteger_eq_ok h).2]
      rfl
    · rename_i heq
      rw [heq]
      cases h
      rfl

theorem lookup_numberPairs (v : Nat) : ∀ assigned : List (Line × Int),
    (numberPairs assigned).lookup (v : Int) = newNumber? assigned v
  | [] => rfl
  | (l, n) :: assigned => by
    have ih := lookup_numberPairs v assigned
    unfold numberPairs newNumber? at ih ⊢
    cases hnumber : l.number with
    | none => rw [List.filterMap_cons_none (by simp [hnumber]), ih, List.find?_cons_of_neg (by simp [hnumber])]
    | some old =>
      rw [List.filterMap_cons_some (b := ((old : Int), n)) (by simp [hnumber]), List.lookup_cons]
      by_cases hv : old = v
      · subst hv
        rw [List.find?_cons_of_pos (by simp [hnumber])]
        simp
      · have hne : ((v : Int) == (old : Int)) = false := by
          rw [beq_eq_false_iff_ne]
          omega
        rw [hne, List.find?_cons_of_neg (by simp [hnumber, hv])]
        exact ih

/-! ## New lines -/

section
variable {lookup : List Char → Except Text.IntegerError (List Char)} {f : List Char → List Char}

/-- An update that went through has found all references. -/
theorem lookup_of_updateReferences (hf : Numeric f)
    (hlookup : ∀ d, IsNumber d → lookup d = .ok (f d) ∨ ∃ e, lookup d = .error e) {s t : List Char}
    (h : updateReferences lookup s = .ok t) :
    ∀ word ∈ referenceWords, ∀ d ∈ referenceNumbers word s, lookup d = .ok (f d) := by
  intro word hw d hd
  rcases hlookup d (mem_referenceNumbers hw hd).1 with hok | herror
  · exact hok
  · obtain ⟨e, he⟩ := updateReferences_error hf.not_latin hlookup hw hd herror
    rw [he] at h
    cases h

/-- And it has changed them. -/
theorem eq_of_updateReferences (hf : Numeric f)
    (hlookup : ∀ d, IsNumber d → lookup d = .ok (f d) ∨ ∃ e, lookup d = .error e) {s t : List Char}
    (h : updateReferences lookup s = .ok t) : t = changeAll f s := by
  rw [updateReferences_eq_ok hf.not_latin (lookup_of_updateReferences hf hlookup h)] at h
  exact (Except.ok.inj h).symm

theorem lookup_of_renumberLines (hf : Numeric f)
    (hlookup : ∀ d, IsNumber d → lookup d = .ok (f d) ∨ ∃ e, lookup d = .error e) {assigned : List (Line × Int)}
    {text : List Char} (h : renumberLines lookup assigned = .ok text) :
    ∀ line ∈ assigned, ∀ word ∈ referenceWords, ∀ d ∈ referenceNumbers word line.1.body, lookup d = .ok (f d) := by
  intro line hline
  obtain ⟨rows, hrows, -⟩ := of_bind_eq_ok h
  obtain ⟨row, hrow⟩ := of_mapM_eq_ok hrows line hline
  obtain ⟨body, hbody, -⟩ := of_bind_eq_ok hrow
  exact lookup_of_updateReferences hf hlookup hbody

theorem eq_of_renumberLines (hf : Numeric f)
    (hlookup : ∀ d, IsNumber d → lookup d = .ok (f d) ∨ ∃ e, lookup d = .error e) {assigned : List (Line × Int)}
    {text : List Char} (h : renumberLines lookup assigned = .ok text) :
    text = Text.unrows (assigned.map (newRow f)) := by
  obtain ⟨rows, hrows, h⟩ := of_bind_eq_ok h
  cases h
  have hstep : ∀ line row, (do
        let body ← updateReferences lookup line.1.body
        return (← Text.writeInteger line.2) ++ ' ' :: body : Except Text.IntegerError (List Char)) = .ok row →
      id row = newRow f line := by
    intro line row hrow
    obtain ⟨body, hbody, hrow⟩ := of_bind_eq_ok hrow
    obtain ⟨digits, hdigits, hrow⟩ := of_bind_eq_ok hrow
    cases hrow
    rw [eq_of_updateReferences hf hlookup hbody, (Text.of_writeInteger_eq_ok hdigits).2]
    rfl
  have hall := map_eq_of_mapM hstep hrows
  rw [List.map_id] at hall
  rw [hall]

/-- Only numbers that can be written get into a new text. -/
theorem writable_of_renumberLines {assigned : List (Line × Int)} {text : List Char}
    (h : renumberLines lookup assigned = .ok text) : AllWritable assigned := by
  intro line hline
  obtain ⟨rows, hrows, -⟩ := of_bind_eq_ok h
  obtain ⟨row, hrow⟩ := of_mapM_eq_ok hrows line hline
  obtain ⟨body, -, hrow⟩ := of_bind_eq_ok hrow
  obtain ⟨digits, hdigits, -⟩ := of_bind_eq_ok hrow
  exact (Text.of_writeInteger_eq_ok hdigits).1

end

end MsxWorkbench.Program
