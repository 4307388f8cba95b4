import MsxWorkbench.Proofs.Program.Renaming
import MsxWorkbench.Proofs.Text.Ascii
import MsxWorkbench.Proofs.Text.Numerals
import Mathlib.Data.Char
import Mathlib.Data.List.Lex
import Mathlib.Data.List.Nodup
/-
# The states of an analysis

An analysis is used by calls that read its text and by calls that take a summary, in any order. A call that reads the
text fails where it meets a variable whose lines a summary has made final, and keeps what it recorded before that.
After any calls the state is consistent and a summary of it reports it in order (`consistent_after`).

`Consistent` is kept by each single update, so a call that fails part-way keeps it as well.
-/
namespace MsxWorkbench.Program

/-! ## Names -/

/-- The last character of a name if it declares a type. -/
def suffixOf (name : List Char) : Option Char := name.getLast?.filter isSuffix

/-- A name without the character that declares its type. -/
def wordOf (name : List Char) : List Char := if (suffixOf name).isSome then name.dropLast else name

/-- The types that suffixes declare and how many bytes they take. -/
inductive Declares : Option Char → String → Nat → Prop where
  | string : Declares (some '$') "STR" 3
  | integer : Declares (some '%') "INT" 2
  | single : Declares (some '!') "SNG" 4
  | unmarked : Declares none "SNG" 4
  | double : Declares (some '#') "DBL" 8

/-- A name that a variable may have, and its type. -/
structure Admitted (name : List Char) (type : VariableType) : Prop where
  declares : Declares (suffixOf name) type.name type.size
  name_free : ∀ w ∈ reservedWords, w.toList ≠ name
  word_free : ∀ w ∈ reservedWords, w.toList ≠ wordOf name
  start_free : 2 < (wordOf name).length → ∀ w ∈ reservedWords, 2 ≤ w.length → ¬ w.toList <+: wordOf name

theorem declares_ofSuffix {suffix : Option Char} (h : ∀ d ∈ suffix, isSuffix d = true) :
    Declares suffix (VariableType.ofSuffix suffix).name (VariableType.ofSuffix suffix).size := by
  cases suffix with
  | none => exact .unmarked
  | some d =>
    have hd := h d rfl
    simp only [isSuffix, Bool.or_eq_true, beq_iff_eq] at hd
    rcases hd with ((rfl | rfl) | rfl) | rfl
    · exact .string
    · exact .integer
    · exact .single
    · exact .double

theorem suffixOf_append {word : List Char} {suffix : Option Char} (hword : ∀ c ∈ word, isSuffix c = false)
    (hsuffix : ∀ d ∈ suffix, isSuffix d = true) : suffixOf (word ++ suffix.toList) = suffix := by
  cases suffix with
  | none =>
    rw [suffixOf, Option.toList_none, List.append_nil, Option.filter_eq_none_iff]
    intro c hc
    simp [hword c (List.mem_of_getLast? hc)]
  | some d => simp [suffixOf, hsuffix d rfl]

theorem wordOf_append {word : List Char} {suffix : Option Char} (hword : ∀ c ∈ word, isSuffix c = false)
    (hsuffix : ∀ d ∈ suffix, isSuffix d = true) : wordOf (word ++ suffix.toList) = word := by
  rw [wordOf, suffixOf_append hword hsuffix]
  cases suffix <;> simp

theorem isSuffix_upperChar {c : Char} (hc : isNameChar c = true) :
    (Text.upperChar c).all (fun d => !isSuffix d) = true := by
  rcases Bool.or_eq_true_iff.1 hc with hlatin | hdigit
  · exact Text.forall_latin (p := fun c => (Text.upperChar c).all (fun d => !isSuffix d) = true) (by decide +kernel)
      hlatin
  · have hascii : c.toNat < 0x80 := by
      have := Text.isDigit_iff_toNat.1 hdigit
      omega
    exact Text.forall_ascii (p := fun c => c.isDigit = true → (Text.upperChar c).all (fun d => !isSuffix d) = true)
      (by decide +kernel) hascii hdigit

theorem isReserved_eq_false {s : List Char} : isReserved s = false ↔ ∀ w ∈ reservedWords, w.toList ≠ s := by
  simp [isReserved, List.any_eq_false]

theorem startsReserved_eq_false {word : List Char} : startsReserved word = false ↔
    (2 < word.length → ∀ w ∈ reservedWords, 2 ≤ w.length → ¬ w.toList <+: word) := by
  simp [startsReserved, List.any_eq_false]

theorem admitted_of_variableOf? {name full : List Char} {suffix : Option Char} {type : VariableType}
    (hname : ∀ c ∈ name, isNameChar c = true) (hsuffix : ∀ d ∈ suffix, isSuffix d = true)
    (h : variableOf? name suffix = some (full, type)) : Admitted full type := by
  have hword : ∀ c ∈ Text.upper name, isSuffix c = false := by
    intro c hc
    obtain ⟨d, hd, hcd⟩ := List.mem_flatMap.1 hc
    simpa using List.all_eq_true.1 (isSuffix_upperChar (hname d hd)) c hcd
  simp only [variableOf?] at h
  split at h
  · cases h
  · rename_i hfree
    simp only [Bool.or_eq_true, not_or, Bool.not_eq_true] at hfree
    obtain ⟨⟨hreserved, hstarts⟩, hfull⟩ := hfree
    cases h
    constructor
    · rw [suffixOf_append hword hsuffix]
      exact declares_ofSuffix hsuffix
    · exact isReserved_eq_false.1 hfull
    · rw [wordOf_append hword hsuffix]
      exact isReserved_eq_false.1 hreserved
    · rw [wordOf_append hword hsuffix]
      exact startsReserved_eq_false.1 hstarts

/-! ## Names in a text -/

theorem matchName?_chars {s name : List Char} {suffix : Option Char} (h : matchName? s = some (name, suffix)) :
    (∀ c ∈ name, isNameChar c = true) ∧ ∀ d ∈ suffix, isSuffix d = true := by
  cases s with
  | nil => cases h
  | cons c rest =>
    have htail : ∀ d ∈ rest.takeWhile isNameChar, isNameChar d = true := fun d hd => List.mem_takeWhile_imp hd
    rw [matchName?] at h
    split at h
    · rename_i hlatin
      have hnone : ∀ d ∈ (none : Option Char), isSuffix d = true := by simp
      have hname : ∀ {tail : List Char}, (∀ d ∈ tail, d ∈ rest.takeWhile isNameChar) →
          ∀ d ∈ c :: tail, isNameChar d = true := by
        intro tail hsub
        exact List.forall_mem_cons.2 ⟨by rw [isNameChar, hlatin]; rfl, fun d hd => htail d (hsub d hd)⟩
      dsimp only at h
      split at h
      · cases h
        exact ⟨hname fun _ => id, hnone⟩
      · split at h
        · rename_i hsuffix
          split at h
          · cases h
            exact ⟨hname fun _ => id, hnone⟩
          · cases h
            exact ⟨hname fun _ => id, fun d hd => Option.some.inj hd ▸ hsuffix⟩
        · split at h
          · split at h
            · cases h
            · cases h
              exact ⟨hname fun _ hd => List.dropLast_subset _ hd, hnone⟩
          · cases h
            exact ⟨hname fun _ => id, hnone⟩
    · cases h

theorem scanNames_chars (skip : Nat) (inWord : Bool) (s : List Char) : ∀ p ∈ scanNames skip inWord s,
    (∀ c ∈ p.1, isNameChar c = true) ∧ ∀ d ∈ p.2, isSuffix d = true := by
  fun_induction scanNames skip inWord s with
  | case1 => simp
  | case2 skip inWord c rest ih => exact ih
  | case3 inWord c rest name suffix hmatch ih =>
    refine List.forall_mem_cons.2 ⟨?_, ih⟩
    split at hmatch
    · cases hmatch
    · exact matchName?_chars hmatch
  | case4 inWord c rest hmatch ih => exact ih

theorem admitted_of_mem_variablesOf {code : List Char} : ∀ p ∈ variablesOf code, Admitted p.1 p.2 := by
  rintro ⟨full, type⟩ hp
  obtain ⟨⟨name, suffix⟩, hscan, hvariable⟩ := List.mem_filterMap.1 hp
  obtain ⟨hname, hsuffix⟩ := scanNames_chars 0 false code _ hscan
  exact admitted_of_variableOf? hname hsuffix hvariable

/-! ## Consistent states -/

/-- What is true of a variable that was found. -/
structure Variable.Sound (v : Variable) : Prop where
  lines_ne : v.lines ≠ []
  lines_nodup : v.lines.Nodup
  length_le : v.lines.length ≤ v.count
  admitted : Admitted v.name v.type

/-- The subroutines are the targets of GOSUB, and each variable is sound and stands there once. -/
structure Analysis.Consistent (a : Analysis) : Prop where
  sound : ∀ v ∈ a.vars, v.Sound
  names_nodup : (a.vars.map Variable.name).Nodup
  mem_subroutines_iff : ∀ n, n ∈ a.subroutines ↔ ∃ j ∈ a.flow, j.kind = .gosub ∧ j.target = n
  subroutines_nodup : a.subroutines.Nodup

section
variable {xs : List Nat} {x y : Nat}

theorem mem_addOnce_iff : y ∈ addOnce xs x ↔ y ∈ xs ∨ y = x := by
  refine ⟨mem_addOnce, fun h => ?_⟩
  unfold addOnce
  split
  · rename_i hx
    rcases h with h | rfl
    · exact h
    · exact List.contains_iff_mem.1 hx
  · simpa using h

theorem nodup_addOnce (h : xs.Nodup) : (addOnce xs x).Nodup := by
  unfold addOnce
  split
  · exact h
  · rename_i hx
    simpa using h.concat (mt List.contains_iff_mem.2 hx)

theorem length_addOnce_le : (addOnce xs x).length ≤ xs.length + 1 := by
  unfold addOnce
  split
  · exact Nat.le_succ _
  · simp

end

theorem Variable.Sound.first {name : List Char} {type : VariableType} (h : Admitted name type) (line : Nat) :
    Variable.Sound ⟨name, type, [line], 1, false⟩ :=
  ⟨List.cons_ne_nil _ _, List.nodup_singleton line, Nat.le_refl 1, h⟩

theorem Variable.Sound.again {v : Variable} (h : v.Sound) (line : Nat) :
    Variable.Sound { v with lines := addOnce v.lines line, count := v.count + 1 } where
  lines_ne := List.ne_nil_of_mem (mem_addOnce_iff.2 (.inr rfl))
  lines_nodup := nodup_addOnce h.lines_nodup
  length_le := length_addOnce_le.trans (Nat.succ_le_succ h.length_le)
  admitted := h.admitted

theorem Variable.Sound.listed {v : Variable} (h : v.Sound) :
    Variable.Sound { v with lines := v.lines.mergeSort (· ≤ ·), final := true } := by
  have hperm := List.mergeSort_perm v.lines (· ≤ ·)
  refine ⟨fun hnil => h.lines_ne ?_, hperm.nodup_iff.2 h.lines_nodup, hperm.length_eq.trans_le h.length_le, h.admitted⟩
  rw [show v.lines.mergeSort (· ≤ ·) = [] from hnil] at hperm
  exact hperm.nil_eq.symm

namespace Analysis

variable {a : Analysis}

/-- What recording an occurrence can do: a new variable is added at the end, and one that is known changes its lines
and its count. -/
theorem addVariable_cases {line : Nat} {name : List Char} {type : VariableType} {vars vs : List Variable}
    (h : addVariable line name type vars = .ok vs) :
    (name ∉ vars.map Variable.name ∧ vs = vars ++ [⟨name, type, [line], 1, false⟩]) ∨
      ∃ before v after, vars = before ++ v :: after ∧
        vs = before ++ { v with lines := addOnce v.lines line, count := v.count + 1 } :: after := by
  induction vars generalizing vs with
  | nil =>
    cases h
    exact .inl ⟨List.not_mem_nil, rfl⟩
  | cons v vars ih =>
    rw [addVariable] at h
    split at h
    · split at h
      · cases h
      · cases h
        exact .inr ⟨[], v, vars, rfl, rfl⟩
    · rename_i hname
      cases hrest : addVariable line name type vars with
      | error e =>
        rw [hrest] at h
        cases h
      | ok ws =>
        rw [hrest] at h
        cases h
        rcases ih hrest with ⟨hnew, rfl⟩ | ⟨before, w, after, rfl, rfl⟩
        · refine .inl ⟨?_, rfl⟩
          rw [List.map_cons, List.mem_cons, not_or]
          exact ⟨Ne.symm hname, hnew⟩
        · exact .inr ⟨v :: before, w, after, rfl, rfl⟩

theorem Consistent.addVariable {line : Nat} {name : List Char} {type : VariableType} {vs : List Variable}
    (h : a.Consistent) (hname : Admitted name type) (hadd : addVariable line name type a.vars = .ok vs) :
    Consistent { a with vars := vs } := by
  rcases addVariable_cases hadd with ⟨hnew, rfl⟩ | ⟨before, v, after, hvars, rfl⟩
  · refine ⟨fun w hw => ?_, ?_, h.mem_subroutines_iff, h.subroutines_nodup⟩
    · rcases List.mem_append.1 hw with hw | hw
      · exact h.sound w hw
      · rw [List.mem_singleton.1 hw]
        exact .first hname line
    · simpa using h.names_nodup.concat hnew
  · have hsound := h.sound
    have hnames := h.names_nodup
    rw [hvars] at hsound hnames
    refine ⟨fun w hw => ?_, by simpa using hnames, h.mem_subroutines_iff, h.subroutines_nodup⟩
    rcases List.mem_append.1 hw with hw | hw
    · exact hsound w (List.mem_append_left _ hw)
    · rcases List.mem_cons.1 hw with rfl | hw
      · exact (hsound v (by simp)).again line
      · exact hsound w (by simp [hw])

theorem Consistent.addVariables (h : a.Consistent) (line : Nat) {occurrences : List (List Char × VariableType)}
    (hnames : ∀ p ∈ occurrences, Admitted p.1 p.2) : (addVariables line a occurrences).1.Consistent := by
  induction occurrences generalizing a with
  | nil => exact h
  | cons p occurrences ih =>
    rw [Analysis.addVariables]
    cases hadd : Analysis.addVariable line p.1 p.2 a.vars with
    | error e => exact h
    | ok vs =>
      exact ih (h.addVariable (hnames p List.mem_cons_self) hadd) fun q hq => hnames q (List.mem_cons_of_mem _ hq)

theorem Consistent.addJump (h : a.Consistent) (j : Jump) : (a.addJump j).Consistent := by
  refine ⟨h.sound, h.names_nodup, fun n => ?_, ?_⟩
  · have hflow : (∃ i ∈ a.flow ++ [j], i.kind = .gosub ∧ i.target = n) ↔
        n ∈ a.subroutines ∨ j.kind = .gosub ∧ j.target = n := by
      rw [h.mem_subroutines_iff n]
      simp only [List.mem_append, List.mem_singleton, or_and_right, exists_or, exists_eq_left]
    rw [Analysis.addJump, hflow]
    by_cases hgosub : j.kind = .gosub
    · rw [if_pos hgosub, mem_addOnce_iff, eq_comm]
      simp only [hgosub, true_and]
    · rw [if_neg hgosub]
      simp only [hgosub, false_and, or_false]
  · rw [Analysis.addJump]
    by_cases hgosub : j.kind = .gosub
    · simpa only [if_pos hgosub] using nodup_addOnce h.subroutines_nodup
    · simpa only [if_neg hgosub] using h.subroutines_nodup

theorem Consistent.addJumps (h : a.Consistent) (line : Nat) (jumps : List (JumpKind × List Char)) :
    (addJumps line a jumps).1.Consistent := by
  induction jumps generalizing a with
  | nil => exact h
  | cons j jumps ih =>
    rw [Analysis.addJumps]
    cases Text.readDigits j.2 with
    | error e => exact h
    | ok target => exact ih (h.addJump ⟨line, target, j.1⟩)

theorem Consistent.addLine (h : a.Consistent) (line : List Char) : (a.addLine line).1.Consistent := by
  unfold Analysis.addLine
  split
  · exact h
  · rename_i digits body hspan
    split
    · exact h
    · rename_i number hnumber
      -- the jumps of a line are recorded before its variables, and stay when one of these fails
      have hjumps := h.addJumps number (jumpsOf (codeOf body))
      dsimp only
      split
      · rename_i b e hfailed
        rwa [hfailed] at hjumps
      · rename_i b hread
        rw [hread] at hjumps
        exact hjumps.addVariables number admitted_of_mem_variablesOf

theorem Consistent.addLines (h : a.Consistent) (lines : List (List Char)) : (a.addLines lines).1.Consistent := by
  induction lines generalizing a with
  | nil => exact h
  | cons line lines ih =>
    have hline := h.addLine line
    rw [Analysis.addLines]
    split
    · rename_i b e hfailed
      rwa [hfailed] at hline
    · rename_i b hread
      rw [hread] at hline
      exact ih hline

/-! ## Summaries -/

/-- The bytes that variables take. -/
def bytesOf : List Variable → Nat
  | [] => 0
  | v :: vars => v.type.size + bytesOf vars

theorem foldl_size (vars : List Variable) (n : Nat) :
    (vars.map fun v => v.type.size).foldl (· + ·) n = n + bytesOf vars := by
  induction vars generalizing n with
  | nil => rfl
  | cons v vars ih =>
    rw [List.map_cons, List.foldl_cons, ih, bytesOf]
    omega

theorem bytesOf_perm {vars ws : List Variable} (h : vars.Perm ws) : bytesOf vars = bytesOf ws := by
  induction h with
  | nil => rfl
  | cons v h ih => rw [bytesOf, bytesOf, ih]
  | swap v w vars =>
    simp only [bytesOf]
    omega
  | trans h h' ih ih' => exact ih.trans ih'

/-- A summary reports a state: the variables by name, their lines and the subroutines in increasing order, and the
bytes of all variables. -/
structure Reports (a : Analysis) (s : Summary) : Prop where
  names_sorted : (s.vars.map Variable.name).Pairwise (List.Lex (· < ·))
  lines_sorted : ∀ v ∈ s.vars, v.lines.Pairwise (· < ·)
  subroutines_sorted : s.subroutines.Pairwise (· < ·)
  memory_eq : s.memory = bytesOf s.vars
  names_perm : (s.vars.map Variable.name).Perm (a.vars.map Variable.name)
  vars_of : ∀ v ∈ s.vars, ∃ u ∈ a.vars, v.name = u.name ∧ v.type = u.type ∧ v.count = u.count ∧ v.lines.Perm u.lines
  flow_eq : s.flow = a.flow
  subroutines_perm : s.subroutines.Perm a.subroutines

theorem textLe_iff {s t : List Char} : textLe s t = true ↔ s = t ∨ List.Lex (· < ·) s t := by
  induction s generalizing t with
  | nil => cases t <;> simp [textLe]
  | cons c s ih =>
    cases t with
    | nil => simp [textLe]
    | cons d t =>
      rw [textLe, Bool.or_eq_true, Bool.and_eq_true, decide_eq_true_eq, beq_iff_eq, ih, List.cons_lex_cons_iff,
        List.cons.injEq]
      tauto

theorem textLe_trans (s t u : List Char) (hst : textLe s t = true) (htu : textLe t u = true) : textLe s u = true := by
  rw [textLe_iff] at hst htu ⊢
  rcases hst with rfl | hst
  · exact htu
  · rcases htu with rfl | htu
    · exact .inr hst
    · exact .inr (List.lt_trans hst htu)

theorem textLe_total (s t : List Char) : textLe s t = true ∨ textLe t s = true := by
  rw [textLe_iff, textLe_iff]
  rcases trichotomous_of (List.Lex (· < ·)) s t with h | rfl | h
  · exact .inl (.inr h)
  · exact .inl (.inl rfl)
  · exact .inr (.inr h)

theorem pairwise_lt_mergeSort {xs : List Nat} (h : xs.Nodup) : (xs.mergeSort (· ≤ ·)).Pairwise (· < ·) := by
  have hle : (xs.mergeSort (· ≤ ·)).Pairwise fun x y => decide (x ≤ y) = true := by
    refine List.pairwise_mergeSort (fun x y z => ?_) (fun x y => ?_) xs
    · simpa using Nat.le_trans
    · simpa using Nat.le_total x y
  have hne := (List.mergeSort_perm xs (· ≤ ·)).nodup_iff.2 h
  exact (hle.and hne).imp fun hpair => Nat.lt_of_le_of_ne (of_decide_eq_true hpair.1) hpair.2

theorem pairwise_lex_mergeSort {vars : List Variable} (h : (vars.map Variable.name).Nodup) :
    ((vars.mergeSort fun v w => textLe v.name w.name).map Variable.name).Pairwise (List.Lex (· < ·)) := by
  have hle : (vars.mergeSort fun v w => textLe v.name w.name).Pairwise fun v w => textLe v.name w.name = true := by
    refine List.pairwise_mergeSort (fun u v w => textLe_trans u.name v.name w.name) (fun v w => ?_) vars
    simpa only [Bool.or_eq_true] using textLe_total v.name w.name
  have hne := ((List.mergeSort_perm vars fun v w => textLe v.name w.name).map Variable.name).nodup_iff.2 h
  rw [List.pairwise_map]
  exact (hle.and (List.pairwise_map.1 hne)).imp fun hpair => (textLe_iff.1 hpair.1).resolve_left hpair.2

theorem Consistent.summarize (h : a.Consistent) : a.summarize.1.Consistent := by
  refine ⟨?_, ?_, h.mem_subroutines_iff, h.subroutines_nodup⟩
  · intro v hv
    obtain ⟨u, hu, rfl⟩ := List.mem_map.1 hv
    exact (h.sound u hu).listed
  · simpa [Analysis.summarize, Function.comp_def] using h.names_nodup

theorem Consistent.reports (h : a.Consistent) : a.Reports a.summarize.2 := by
  have hnames := h.summarize.names_nodup
  have hperm : a.summarize.2.vars.Perm a.summarize.1.vars := List.mergeSort_perm _ _
  have hvars : ∀ v ∈ a.summarize.2.vars, ∃ u ∈ a.vars,
      v = { u with lines := u.lines.mergeSort (· ≤ ·), final := true } := by
    intro v hv
    obtain ⟨u, hu, rfl⟩ := List.mem_map.1 (hperm.mem_iff.1 hv)
    exact ⟨u, hu, rfl⟩
  constructor
  · exact pairwise_lex_mergeSort hnames
  · intro v hv
    obtain ⟨u, hu, rfl⟩ := hvars v hv
    exact pairwise_lt_mergeSort (h.sound u hu).lines_nodup
  · exact pairwise_lt_mergeSort h.subroutines_nodup
  · rw [bytesOf_perm hperm]
    exact (foldl_size _ 0).trans (Nat.zero_add _)
  · refine (hperm.map Variable.name).trans (.of_eq ?_)
    simp [Analysis.summarize, Function.comp_def]
  · intro v hv
    obtain ⟨u, hu, rfl⟩ := hvars v hv
    exact ⟨u, hu, rfl, rfl, rfl, List.mergeSort_perm _ _⟩
  · rfl
  · exact List.mergeSort_perm _ _

/-! ## Calls -/

/-- A call on an analysis. -/
inductive Call where
  | analyze
  | summary

/-- The state after a call. One that fails keeps what it recorded. -/
def call (text : List Char) (a : Analysis) : Call → Analysis
  | .analyze => (a.addText text).1
  | .summary => a.summarize.1

/-- The state after calls on a new analysis of a text. -/
def after (text : List Char) (calls : List Call) : Analysis := calls.foldl (call text) {}

theorem Consistent.call (h : a.Consistent) (text : List Char) (c : Call) : (a.call text c).Consistent := by
  cases c with
  | analyze => exact h.addLines _
  | summary => exact h.summarize

theorem Consistent.calls (h : a.Consistent) (text : List Char) (calls : List Call) :
    (calls.foldl (Analysis.call text) a).Consistent := by
  induction calls generalizing a with
  | nil => exact h
  | cons c calls ih => exact ih (h.call text c)

theorem consistent_empty : Consistent {} :=
  ⟨by simp, List.nodup_nil, by simp, List.nodup_nil⟩

/-- **Every state is consistent**, whatever calls came before and whichever of them failed, and a summary of it
reports it in order. -/
theorem consistent_after (text : List Char) (calls : List Call) :
    (after text calls).Consistent ∧ (after text calls).Reports (after text calls).summarize.2 := by
  have hconsistent := consistent_empty.calls text calls
  exact ⟨hconsistent, hconsistent.reports⟩

/-- The second reading of this text fails at its variable, when the jump has been recorded once more. -/
example : after "10 GOSUB 20:A$=A$".toList [.analyze, .summary, .analyze] =
    ⟨[⟨"A$".toList, .string, [10], 2, true⟩], [⟨10, 20, .gosub⟩, ⟨10, 20, .gosub⟩], [20]⟩ := by
  decide +kernel

end Analysis

end MsxWorkbench.Program
