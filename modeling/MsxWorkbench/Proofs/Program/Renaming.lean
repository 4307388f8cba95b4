import Mathlib.Data.List.Forall2
import MsxWorkbench.Proofs.Program.LineFacts
/-
# Analyses under new line numbers

Two analyses that read the same jumps and variables, from lines that have other numbers, find the same up
to the change of numbers (`addAll_renames`). Each step keeps this relation between their states
(`addFacts_renames`), as long as the change keeps the numbers of lines apart. What was done by steps that
went through is said by `addFacts_iff` and `addAll_cons_iff`.
-/
namespace MsxWorkbench.Program

/-- The variable with the numbers of its lines changed. -/
def Variable.rename (g : Nat → Nat) (v : Variable) : Variable := { v with lines := v.lines.map g }

/-- The jump with its line numbers changed. -/
def Jump.rename (g : Nat → Nat) (j : Jump) : Jump := { j with source := g j.source, target := g j.target }

@[simp] theorem Variable.rename_name (g : Nat → Nat) (v : Variable) : (v.rename g).name = v.name := rfl

@[simp] theorem Variable.rename_final (g : Nat → Nat) (v : Variable) : (v.rename g).final = v.final := rfl

/-- Adding once commutes with a map that keeps the new element apart. -/
theorem addOnce_map {g : Nat → Nat} {xs : List Nat} {x : Nat} (h : ∀ y ∈ xs, g y = g x → y = x) :
    addOnce (xs.map g) (g x) = (addOnce xs x).map g := by
  have hmem : (xs.map g).contains (g x) = xs.contains x := by
    rw [Bool.eq_iff_iff, List.contains_iff_mem, List.contains_iff_mem, List.mem_map]
    constructor
    · rintro ⟨y, hy, heq⟩
      rwa [← h y hy heq]
    · intro hx
      exact ⟨x, hx, rfl⟩
  rw [addOnce, addOnce, hmem]
  split
  · rfl
  · rw [List.map_append, List.map_singleton]

theorem mem_addOnce {xs : List Nat} {x y : Nat} (h : y ∈ addOnce xs x) : y ∈ xs ∨ y = x := by
  rw [addOnce] at h
  split at h
  · exact Or.inl h
  · simpa using h

namespace Analysis

/-! ## Analysing facts -/

/-- Records what was read from a numbered line. -/
def addFacts (a : Analysis) (k : LineFacts) : Analysis × Option AnalysisError :=
  match Text.readDigits k.digits with
  | .error e => (a, some (.number e))
  | .ok number =>
    match addJumps number a k.jumps with
    | (a, some e) => (a, some e)
    | (a, none) => addVariables number a k.vars

/-- Records what was read from lines up to the first that fails. -/
def addAll : Analysis → List LineFacts → Analysis × Option AnalysisError
  | a, [] => (a, none)
  | a, k :: ks =>
    match a.addFacts k with
    | (a, some e) => (a, some e)
    | (a, none) => addAll a ks

section
variable {a b : Analysis} {n : Nat}

theorem addJumps_cons_iff {j : JumpKind × List Char} {js : List (JumpKind × List Char)} :
    addJumps n a (j :: js) = (b, none) ↔
      ∃ target, Text.readDigits j.2 = .ok target ∧ addJumps n (a.addJump ⟨n, target, j.1⟩) js = (b, none) := by
  rw [addJumps]
  cases Text.readDigits j.2 <;> simp

theorem addVariables_cons_iff {x : List Char × VariableType} {xs : List (List Char × VariableType)} :
    addVariables n a (x :: xs) = (b, none) ↔
      ∃ vs, addVariable n x.1 x.2 a.vars = .ok vs ∧ addVariables n { a with vars := vs } xs = (b, none) := by
  rw [addVariables]
  cases addVariable n x.1 x.2 a.vars <;> simp

/-- A line goes through if its number is read and its jumps and variables go through. -/
theorem addFacts_iff {k : LineFacts} :
    a.addFacts k = (b, none) ↔ ∃ n c, Text.readDigits k.digits = .ok n ∧ addJumps n a k.jumps = (c, none) ∧
      addVariables n c k.vars = (b, none) := by
  rw [addFacts]
  cases Text.readDigits k.digits with
  | error e => simp
  | ok n =>
    rcases hjumps : addJumps n a k.jumps with ⟨c, _ | e⟩ <;> simp [hjumps]

theorem addAll_cons_iff {k : LineFacts} {ks : List LineFacts} :
    a.addAll (k :: ks) = (b, none) ↔ ∃ c, a.addFacts k = (c, none) ∧ c.addAll ks = (b, none) := by
  rw [addAll]
  rcases a.addFacts k with ⟨c, _ | e⟩ <;> simp

end

theorem addLine_eq (a : Analysis) (line : List Char) :
    a.addLine line = match lineFacts? line with
      | none => (a, none)
      | some k => a.addFacts k := by
  rw [addLine, lineFacts?]
  cases spanLineNumber? line with
  | none => rfl
  | some span => rfl

theorem addLines_eq : ∀ (ls : List (List Char)) (a : Analysis),
    a.addLines ls = a.addAll (ls.filterMap lineFacts?)
  | [], a => by rw [addLines, List.filterMap_nil, addAll]
  | line :: ls, a => by
    rw [addLines, addLine_eq]
    cases hk : lineFacts? line with
    | none => rw [List.filterMap_cons_none hk, ← addLines_eq ls a]
    | some k =>
      rw [List.filterMap_cons_some hk, addAll]
      simp only
      cases a.addFacts k with
      | mk a' error =>
        cases error with
        | none => exact addLines_eq ls a'
        | some e => rfl

theorem addText_eq {text : List Char} (h : Text.OnlyFeeds text) (a : Analysis) :
    a.addText text = a.addAll ((Text.rows text).filterMap lineFacts?) := by
  rw [addText, addLines_eq, Text.filterMap_lines rfl h]

/-- All numbers of lines that were analysed could be read. -/
theorem readDigits_of_addAll : ∀ {ks : List LineFacts} {a a' : Analysis}, a.addAll ks = (a', none) →
    ∀ k ∈ ks, ∃ n, Text.readDigits k.digits = .ok n
  | [], _, _, _, k, hk => by cases hk
  | k :: ks, a, a', h, k', hk' => by
    obtain ⟨a₁, hadd, h⟩ := addAll_cons_iff.1 h
    rcases List.mem_cons.1 hk' with rfl | hk'
    · obtain ⟨n, -, hread, -⟩ := addFacts_iff.1 hadd
      exact ⟨n, hread⟩
    · exact readDigits_of_addAll h k' hk'

/-! ## Renamed states -/

/-- The second analysis has found what the first has, with the numbers of lines changed; the first has
found variables on the given lines only. -/
structure Renames (g : Nat → Nat) (numbers : List Nat) (a b : Analysis) : Prop where
  flow : b.flow = a.flow.map (Jump.rename g)
  vars : b.vars = a.vars.map (Variable.rename g)
  lines : ∀ v ∈ a.vars, ∀ l ∈ v.lines, l ∈ numbers

theorem addVariable_rename {g : Nat → Nat} {line : Nat} {name : List Char} {type : VariableType} :
    ∀ {vars vs : List Variable}, (∀ v ∈ vars, ∀ l ∈ v.lines, g l = g line → l = line) →
    addVariable line name type vars = .ok vs →
    addVariable (g line) name type (vars.map (Variable.rename g)) = .ok (vs.map (Variable.rename g))
  | [], vs, _, h => by
    rw [addVariable, Except.ok.injEq] at h
    subst h
    rfl
  | v :: vars, vs, hinj, h => by
    rw [addVariable] at h
    rw [List.map_cons, addVariable, Variable.rename_name, Variable.rename_final]
    split at h
    · rename_i hname
      split at h
      · cases h
      · rename_i hfinal
        rw [Except.ok.injEq] at h
        subst h
        rw [if_pos hname, if_neg hfinal, List.map_cons]
        simp only [Variable.rename, addOnce_map (hinj v List.mem_cons_self)]
    · rename_i hname
      cases hrest : addVariable line name type vars with
      | error e => rw [hrest] at h; cases h
      | ok rest =>
        rw [hrest] at h
        cases h
        have ih := addVariable_rename (fun w hw => hinj w (List.mem_cons_of_mem _ hw)) hrest
        rw [if_neg hname, ih]
        rfl

theorem lines_addVariable {numbers : List Nat} {line : Nat} {name : List Char} {type : VariableType}
    (hline : line ∈ numbers) : ∀ {vars vs : List Variable}, (∀ v ∈ vars, ∀ l ∈ v.lines, l ∈ numbers) →
    addVariable line name type vars = .ok vs → ∀ v ∈ vs, ∀ l ∈ v.lines, l ∈ numbers
  | [], vs, _, h, v, hv, l, hl => by
    rw [addVariable, Except.ok.injEq] at h
    subst h
    rw [List.mem_singleton.1 hv, List.mem_singleton] at hl
    rwa [hl]
  | w :: vars, vs, hvars, h, v, hv, l, hl => by
    rw [addVariable] at h
    split at h
    · split at h
      · cases h
      · rw [Except.ok.injEq] at h
        subst h
        rcases List.mem_cons.1 hv with rfl | hv
        · rcases mem_addOnce hl with hl | hl
          · exact hvars w List.mem_cons_self l hl
          · rwa [hl]
        · exact hvars v (List.mem_cons_of_mem _ hv) l hl
    · cases hrest : addVariable line name type vars with
      | error e => rw [hrest] at h; cases h
      | ok rest =>
        rw [hrest] at h
        cases h
        rcases List.mem_cons.1 hv with rfl | hv
        · exact hvars v List.mem_cons_self l hl
        · exact lines_addVariable hline (fun w hw => hvars w (List.mem_cons_of_mem _ hw)) hrest v hv l hl

section
variable {g : Nat → Nat} {numbers : List Nat} (hinj : ∀ m ∈ numbers, ∀ n ∈ numbers, g m = g n → m = n)
include hinj

theorem addVariables_renames {line : Nat} (hline : line ∈ numbers) :
    ∀ {occurrences : List (List Char × VariableType)} {a a' b : Analysis}, Renames g numbers a b →
    addVariables line a occurrences = (a', none) →
    ∃ b', addVariables (g line) b occurrences = (b', none) ∧ Renames g numbers a' b'
  | [], a, a', b, hab, h => by
    rw [addVariables, Prod.mk.injEq] at h
    obtain ⟨rfl, -⟩ := h
    exact ⟨b, by rw [addVariables], hab⟩
  | (name, type) :: rest, a, a', b, hab, h => by
    obtain ⟨vs, hadd, h⟩ := addVariables_cons_iff.1 h
    have hnew := addVariable_rename (g := g) (fun v hv l hl => hinj l (hab.lines v hv l hl) line hline) hadd
    have hnext : Renames g numbers { a with vars := vs } { b with vars := vs.map (Variable.rename g) } :=
      ⟨hab.flow, rfl, lines_addVariable hline hab.lines hadd⟩
    obtain ⟨b', hb', hrenames⟩ := addVariables_renames hline hnext h
    exact ⟨b', addVariables_cons_iff.2 ⟨_, hab.vars ▸ hnew, hb'⟩, hrenames⟩

end

theorem addJumps_renames {g : Nat → Nat} {numbers : List Nat} {f : List Char → List Char} {line : Nat} :
    ∀ {jumps : List (JumpKind × List Char)} {a a' b : Analysis}, Renames g numbers a b →
    (∀ j ∈ jumps, ∀ n, Text.readDigits j.2 = .ok n → Text.readDigits (f j.2) = .ok (g n)) →
    addJumps line a jumps = (a', none) →
    ∃ b', addJumps (g line) b (jumps.map fun j => (j.1, f j.2)) = (b', none) ∧ Renames g numbers a' b'
  | [], a, a', b, hab, _, h => by
    rw [addJumps, Prod.mk.injEq] at h
    obtain ⟨rfl, -⟩ := h
    exact ⟨b, rfl, hab⟩
  | (kind, digits) :: rest, a, a', b, hab, hread, h => by
    obtain ⟨target, hdigits, h⟩ := addJumps_cons_iff.1 h
    have hnext : Renames g numbers (a.addJump ⟨line, target, kind⟩) (b.addJump ⟨g line, g target, kind⟩) := by
      refine ⟨?_, hab.vars, hab.lines⟩
      rw [addJump, addJump, hab.flow, List.map_append]
      rfl
    obtain ⟨b', hb', hrenames⟩ := addJumps_renames hnext (fun j hj => hread j (List.mem_cons_of_mem _ hj)) h
    exact ⟨b', addJumps_cons_iff.2 ⟨_, hread _ List.mem_cons_self target hdigits, hb'⟩, hrenames⟩

/-- The facts of two lines agree up to the change of numbers. -/
structure FactsRename (g : Nat → Nat) (numbers : List Nat) (f : List Char → List Char) (k k' : LineFacts) :
    Prop where
  number : ∀ n, Text.readDigits k.digits = .ok n → n ∈ numbers ∧ Text.readDigits k'.digits = .ok (g n)
  target : ∀ j ∈ k.jumps, ∀ n, Text.readDigits j.2 = .ok n → Text.readDigits (f j.2) = .ok (g n)
  jumps : k'.jumps = k.jumps.map fun j => (j.1, f j.2)
  vars : k'.vars = k.vars

section
variable {g : Nat → Nat} {numbers : List Nat} {f : List Char → List Char}
variable (hinj : ∀ m ∈ numbers, ∀ n ∈ numbers, g m = g n → m = n)
include hinj

theorem addFacts_renames {a a' b : Analysis} {k k' : LineFacts} (hab : Renames g numbers a b)
    (hk : FactsRename g numbers f k k') (h : a.addFacts k = (a', none)) :
    ∃ b', b.addFacts k' = (b', none) ∧ Renames g numbers a' b' := by
  obtain ⟨number, a₁, hread, hjumps, hvars⟩ := addFacts_iff.1 h
  obtain ⟨hmem, hread'⟩ := hk.number number hread
  obtain ⟨b₁, hb₁, hab₁⟩ := addJumps_renames hab hk.target hjumps
  obtain ⟨b', hb', hrenames⟩ := addVariables_renames hinj hmem hab₁ hvars
  exact ⟨b', addFacts_iff.2 ⟨_, b₁, hread', hk.jumps ▸ hb₁, hk.vars ▸ hb'⟩, hrenames⟩

theorem addAll_renames {ks ks' : List LineFacts} (hks : List.Forall₂ (FactsRename g numbers f) ks ks') :
    ∀ {a a' b : Analysis}, Renames g numbers a b → a.addAll ks = (a', none) →
    ∃ b', b.addAll ks' = (b', none) ∧ Renames g numbers a' b' := by
  induction hks with
  | nil =>
    intro a a' b hab h
    rw [addAll, Prod.mk.injEq] at h
    obtain ⟨rfl, -⟩ := h
    exact ⟨b, rfl, hab⟩
  | @cons k k' ks ks' hk _ ih =>
    intro a a' b hab h
    obtain ⟨a₁, hadd, h⟩ := addAll_cons_iff.1 h
    obtain ⟨b₁, hb₁, hab₁⟩ := addFacts_renames hinj hab hk hadd
    obtain ⟨b', hb', hrenames⟩ := ih hab₁ h
    exact ⟨b', addAll_cons_iff.2 ⟨b₁, hb₁, hb'⟩, hrenames⟩

end

end Analysis

end MsxWorkbench.Program
