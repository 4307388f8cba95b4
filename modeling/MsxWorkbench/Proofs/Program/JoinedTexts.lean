import MsxWorkbench.Proofs.Program.AnalysisStates
/-
# Analyses of joined texts

The lines of two texts with a line feed between them are the lines of both, but for an empty line that may come between
(`exists_lines_append`). An analysis that goes on with a second text from the state that the first has left records what a
new analysis of the second text records (`Follows.addAll`). So the analysis of both texts joins their analyses
(`addText_append`).
-/
namespace MsxWorkbench

/-! ## Lines -/

namespace Text

theorem breakLines_feed (line s : List Char) : breakLines line ('\n' :: s) = line.reverse :: breakLines [] s := by
  rw [breakLines]
  · rfl
  · simp

theorem breakLines_return_feed (line s : List Char) :
    breakLines line ('\r' :: '\n' :: s) = line.reverse :: breakLines [] s := by
  rw [breakLines]

/-- Behind a line feed the lines start anew. One that stands behind a carriage return breaks no further line. -/
theorem breakLines_append_feed (line t u : List Char) : ∃ gap, (gap = [] ∨ gap = [[]]) ∧
    breakLines line (t ++ '\n' :: u) = breakLines line t ++ (gap ++ breakLines [] u) := by
  fun_induction breakLines line t with
  | case1 => exact ⟨[[]], .inr rfl, breakLines_feed [] u⟩
  | case2 line => exact ⟨[], .inl rfl, breakLines_feed line u⟩
  | case3 line s ih =>
    obtain ⟨gap, hgap, heq⟩ := ih
    refine ⟨gap, hgap, ?_⟩
    rw [List.cons_append, List.cons_append, breakLines_return_feed, heq, List.cons_append]
  | case4 line c s hreturn hc ih =>
    by_cases hseam : c = '\r' ∧ s = []
    · -- the carriage return and the line feed between the texts break once
      obtain ⟨rfl, rfl⟩ := hseam
      exact ⟨[], .inl rfl, breakLines_return_feed line u⟩
    · obtain ⟨gap, hgap, heq⟩ := ih
      refine ⟨gap, hgap, ?_⟩
      rw [List.cons_append, breakLines, if_pos hc, heq, List.cons_append]
      rintro rest rfl hrest
      cases s with
      | nil => exact hseam ⟨rfl, rfl⟩
      | cons d s =>
        rw [List.cons_append, List.cons.injEq] at hrest
        exact hreturn s rfl (by rw [hrest.1])
  | case5 line c s hreturn hc ih =>
    obtain ⟨gap, hgap, heq⟩ := ih
    refine ⟨gap, hgap, ?_⟩
    rw [List.cons_append, breakLines, if_neg hc, heq]
    rintro rest rfl -
    exact hc (by decide)

/-- The lines of two texts with a line feed between them. -/
theorem exists_lines_append (t u : List Char) : ∃ gap, (gap = [] ∨ gap = [[]]) ∧
    lines (t ++ '\n' :: u) = lines t ++ (gap ++ lines u) := breakLines_append_feed [] t u

end Text

namespace Program

theorem filterMap_lines_append (t u : List Char) : (Text.lines (t ++ '\n' :: u)).filterMap lineFacts? =
    (Text.lines t).filterMap lineFacts? ++ (Text.lines u).filterMap lineFacts? := by
  obtain ⟨gap, hgap, hlines⟩ := Text.exists_lines_append t u
  rw [hlines, List.filterMap_append, List.filterMap_append]
  rcases hgap with rfl | rfl
  · rfl
  · rfl

/-- A suffix declares one type. -/
theorem Declares.name_eq {suffix : Option Char} {name other : String} {size size' : Nat} (h : Declares suffix name size)
    (hother : Declares suffix other size') : name = other := by
  cases h <;> cases hother <;> rfl

theorem VariableType.eq_of_name_eq {type other : VariableType} (h : type.name = other.name) : type = other := by
  cases type <;> cases other <;> first
    | rfl
    | simp [VariableType.name] at h

/-- The type of a variable is the one that its name declares. -/
theorem Admitted.type_eq {name : List Char} {type other : VariableType} (h : Admitted name type)
    (hother : Admitted name other) : type = other :=
  VariableType.eq_of_name_eq (h.declares.name_eq hother.declares)

namespace Analysis

/-! ## What is known of a name -/

section
variable {vars vs : List Variable} {line n : Nat} {name : List Char} {type : VariableType}

/-- The variable with a name. -/
def named? (vars : List Variable) (name : List Char) : Option Variable := vars.find? fun v => v.name == name

/-- How often a name was met. -/
def countOf (vars : List Variable) (name : List Char) : Nat := ((named? vars name).map Variable.count).getD 0

/-- The lines on which a name was met. -/
def linesOf (vars : List Variable) (name : List Char) : List Nat := ((named? vars name).map Variable.lines).getD []

/-- The type of the variable with a name. -/
def typeOf? (vars : List Variable) (name : List Char) : Option VariableType := (named? vars name).map Variable.type

/-- Recording an occurrence changes what is known of its name only. -/
theorem named?_addVariable (h : addVariable line name type vars = .ok vs) (other : List Char) :
    named? vs other =
      if name = other then
        some ((named? vars other).elim ⟨name, type, [line], 1, false⟩ fun v =>
          { v with lines := addOnce v.lines line, count := v.count + 1 })
      else named? vars other := by
  induction vars generalizing vs with
  | nil =>
    cases h
    by_cases hname : name = other
    · simp [named?, hname]
    · simp [named?, hname]
  | cons v vars ih =>
    rw [addVariable] at h
    split at h
    · rename_i hv
      split at h
      · cases h
      · cases h
        by_cases hname : name = other
        · simp [named?, hv, hname]
        · simp [named?, hv, hname]
    · rename_i hv
      cases hrest : addVariable line name type vars with
      | error e =>
        rw [hrest] at h
        cases h
      | ok ws =>
        rw [hrest] at h
        cases h
        have ih := ih hrest
        by_cases hother : v.name = other
        · subst hother
          simp [named?, Ne.symm hv]
        · simpa [named?, hother] using ih

theorem countOf_addVariable (h : addVariable line name type vars = .ok vs) (other : List Char) :
    countOf vs other = countOf vars other + if name = other then 1 else 0 := by
  rw [countOf, named?_addVariable h, countOf]
  split
  · cases named? vars other <;> rfl
  · rfl

theorem mem_linesOf_addVariable (h : addVariable line name type vars = .ok vs) (other : List Char) :
    n ∈ linesOf vs other ↔ n ∈ linesOf vars other ∨ name = other ∧ n = line := by
  rw [linesOf, named?_addVariable h, linesOf]
  split
  · rename_i hname
    cases named? vars other with
    | none => simp [hname]
    | some v => simp [mem_addOnce_iff, hname]
  · rename_i hname
    simp [hname]

theorem typeOf?_addVariable (h : addVariable line name type vars = .ok vs) (other : List Char) :
    typeOf? vs other = (typeOf? vars other).or (if name = other then some type else none) := by
  rw [typeOf?, named?_addVariable h, typeOf?]
  split
  · cases named? vars other <;> rfl
  · rw [Option.or_none]

/-- Before a summary an occurrence can always be recorded. -/
theorem exists_addVariable (h : ∀ v ∈ vars, v.final = false) (line : Nat) (name : List Char) (type : VariableType) :
    ∃ vs, addVariable line name type vars = .ok vs ∧ ∀ v ∈ vs, v.final = false := by
  induction vars with
  | nil => exact ⟨_, rfl, by simp⟩
  | cons v vars ih =>
    rw [List.forall_mem_cons] at h
    obtain ⟨vs, hadd, hfinal⟩ := ih h.2
    rw [addVariable]
    split
    · rw [h.1]
      exact ⟨_, rfl, List.forall_mem_cons.2 ⟨rfl, h.2⟩⟩
    · rw [hadd]
      exact ⟨_, rfl, List.forall_mem_cons.2 ⟨h.1, hfinal⟩⟩

end

/-! ## Joined states -/

/-- The third state has what the first two have: all jumps in order, all subroutines, and for each name the sum of the
counts, all lines and the type. -/
structure Joins (a b c : Analysis) : Prop where
  flow_eq : c.flow = a.flow ++ b.flow
  mem_subroutines_iff : ∀ n, n ∈ c.subroutines ↔ n ∈ a.subroutines ∨ n ∈ b.subroutines
  countOf_eq : ∀ name, countOf c.vars name = countOf a.vars name + countOf b.vars name
  mem_linesOf_iff : ∀ name n, n ∈ linesOf c.vars name ↔ n ∈ linesOf a.vars name ∨ n ∈ linesOf b.vars name
  typeOf?_eq : ∀ name, typeOf? c.vars name = (typeOf? a.vars name).or (typeOf? b.vars name)

variable {a b c : Analysis} {line : Nat}

theorem Joins.addVariable {name : List Char} {type : VariableType} {vs ws : List Variable} (h : Joins a b c)
    (hb : addVariable line name type b.vars = .ok vs) (hc : addVariable line name type c.vars = .ok ws) :
    Joins a { b with vars := vs } { c with vars := ws } where
  flow_eq := h.flow_eq
  mem_subroutines_iff := h.mem_subroutines_iff
  countOf_eq other := by
    rw [countOf_addVariable hb, countOf_addVariable hc, h.countOf_eq, Nat.add_assoc]
  mem_linesOf_iff other n := by
    rw [mem_linesOf_addVariable hb, mem_linesOf_addVariable hc, h.mem_linesOf_iff, or_assoc]
  typeOf?_eq other := by
    rw [typeOf?_addVariable hb, typeOf?_addVariable hc, h.typeOf?_eq, Option.or_assoc]

theorem Joins.addJump (h : Joins a b c) (j : Jump) : Joins a (b.addJump j) (c.addJump j) where
  flow_eq := by rw [Analysis.addJump, Analysis.addJump, h.flow_eq, List.append_assoc]
  mem_subroutines_iff n := by
    rw [Analysis.addJump, Analysis.addJump]
    by_cases hgosub : j.kind = .gosub
    · simp only [if_pos hgosub, mem_addOnce_iff, h.mem_subroutines_iff, or_assoc]
    · simp only [if_neg hgosub, h.mem_subroutines_iff]
  countOf_eq := h.countOf_eq
  mem_linesOf_iff := h.mem_linesOf_iff
  typeOf?_eq := h.typeOf?_eq

/-! ## Going on -/

/-- An analysis that went on from the first state is in the third when a new one is in the second, and no summary was
taken. -/
structure Follows (a b c : Analysis) : Prop extends Joins a b c where
  unlisted : ∀ v ∈ c.vars, v.final = false

theorem follows_empty (h : ∀ v ∈ a.vars, v.final = false) : Follows a {} a where
  flow_eq := (List.append_nil _).symm
  mem_subroutines_iff n := by simp
  countOf_eq name := rfl
  mem_linesOf_iff name n := by simp [linesOf, named?]
  typeOf?_eq name := (Option.or_none).symm
  unlisted := h

namespace Follows

variable {b' : Analysis}

theorem addVariables {xs : List (List Char × VariableType)} (h : Follows a b c)
    (hb : addVariables line b xs = (b', none)) : ∃ c', addVariables line c xs = (c', none) ∧ Follows a b' c' := by
  induction xs generalizing b c with
  | nil =>
    cases hb
    exact ⟨c, rfl, h⟩
  | cons x xs ih =>
    obtain ⟨vs, hadd, hb⟩ := addVariables_cons_iff.1 hb
    obtain ⟨ws, hws, hunlisted⟩ := exists_addVariable h.unlisted line x.1 x.2
    obtain ⟨c', hc', hfollows⟩ := ih ⟨h.toJoins.addVariable hadd hws, hunlisted⟩ hb
    exact ⟨c', addVariables_cons_iff.2 ⟨ws, hws, hc'⟩, hfollows⟩

theorem addJumps {xs : List (JumpKind × List Char)} (h : Follows a b c) (hb : addJumps line b xs = (b', none)) :
    ∃ c', addJumps line c xs = (c', none) ∧ Follows a b' c' := by
  induction xs generalizing b c with
  | nil =>
    cases hb
    exact ⟨c, rfl, h⟩
  | cons x xs ih =>
    obtain ⟨target, hread, hb⟩ := addJumps_cons_iff.1 hb
    obtain ⟨c', hc', hfollows⟩ := ih ⟨h.toJoins.addJump _, h.unlisted⟩ hb
    exact ⟨c', addJumps_cons_iff.2 ⟨target, hread, hc'⟩, hfollows⟩

theorem addFacts {k : LineFacts} (h : Follows a b c) (hb : b.addFacts k = (b', none)) :
    ∃ c', c.addFacts k = (c', none) ∧ Follows a b' c' := by
  obtain ⟨number, b₁, hread, hjumps, hvars⟩ := addFacts_iff.1 hb
  obtain ⟨c₁, hc₁, hfollows⟩ := h.addJumps hjumps
  obtain ⟨c', hc', hfollows⟩ := hfollows.addVariables hvars
  exact ⟨c', addFacts_iff.2 ⟨number, c₁, hread, hc₁, hc'⟩, hfollows⟩

/-- **What an analysis finds more is what a new one finds.** -/
theorem addAll {ks : List LineFacts} (h : Follows a b c) (hb : b.addAll ks = (b', none)) :
    ∃ c', c.addAll ks = (c', none) ∧ Follows a b' c' := by
  induction ks generalizing b c with
  | nil =>
    cases hb
    exact ⟨c, rfl, h⟩
  | cons k ks ih =>
    obtain ⟨b₁, hk, hb⟩ := addAll_cons_iff.1 hb
    obtain ⟨c₁, hc₁, hfollows⟩ := h.addFacts hk
    obtain ⟨c', hc', hfollows⟩ := ih hfollows hb
    exact ⟨c', addAll_cons_iff.2 ⟨c₁, hc₁, hc'⟩, hfollows⟩

end Follows

theorem addAll_append {ks : List LineFacts} (h : a.addAll ks = (b, none)) (ks' : List LineFacts) :
    a.addAll (ks ++ ks') = b.addAll ks' := by
  induction ks generalizing a with
  | nil =>
    cases h
    rfl
  | cons k ks ih =>
    obtain ⟨a₁, hk, h⟩ := addAll_cons_iff.1 h
    rw [List.cons_append, Analysis.addAll, hk]
    exact ih h

/-! ## Types -/

theorem admitted_of_typeOf? (h : a.Consistent) {name : List Char} {type : VariableType}
    (htype : typeOf? a.vars name = some type) : Admitted name type := by
  obtain ⟨v, hv, rfl⟩ := Option.map_eq_some_iff.1 htype
  have hname : v.name = name := by simpa using List.find?_some hv
  rw [← hname]
  exact (h.sound v (List.mem_of_find?_eq_some hv)).admitted

/-- **The analysis of two texts with a line feed between them joins their analyses**, and a variable of both has the same
type in both. -/
theorem addText_append {t u : List Char} (ha : ({} : Analysis).addText t = (a, none))
    (hb : ({} : Analysis).addText u = (b, none)) :
    ∃ c, ({} : Analysis).addText (t ++ '\n' :: u) = (c, none) ∧ Joins a b c ∧
      ∀ name type other, typeOf? a.vars name = some type → typeOf? b.vars name = some other → type = other := by
  have hconsistent : ∀ {s : List Char} {d : Analysis}, ({} : Analysis).addText s = (d, none) → d.Consistent := by
    intro s d hd
    have hlines := consistent_empty.addLines (Text.lines s)
    rw [Analysis.addText] at hd
    rwa [hd] at hlines
  have htypes : ∀ name type other, typeOf? a.vars name = some type → typeOf? b.vars name = some other →
      type = other := by
    intro name type other htype hother
    exact (admitted_of_typeOf? (hconsistent ha) htype).type_eq (admitted_of_typeOf? (hconsistent hb) hother)
  rw [Analysis.addText, addLines_eq] at ha hb
  obtain ⟨a', ha', hfirst⟩ := (follows_empty (a := {}) (by simp)).addAll ha
  obtain rfl : a' = a := congrArg Prod.fst (ha'.symm.trans ha)
  obtain ⟨c, hc, hfollows⟩ := (follows_empty hfirst.unlisted).addAll hb
  refine ⟨c, ?_, hfollows.toJoins, htypes⟩
  rw [Analysis.addText, addLines_eq, filterMap_lines_append, addAll_append ha, hc]

/-- The break between these texts is a carriage return and a line feed, and both use the same variable and subroutine. -/
theorem addText_append_return :
    ({} : Analysis).addText "10 A=1:GOSUB 20\r".toList =
        (⟨[⟨['A'], .single, [10], 1, false⟩], [⟨10, 20, .gosub⟩], [20]⟩, none) ∧
      ({} : Analysis).addText "20 B%=A:GOSUB 20".toList =
        (⟨[⟨['B', '%'], .integer, [20], 1, false⟩, ⟨['A'], .single, [20], 1, false⟩], [⟨20, 20, .gosub⟩], [20]⟩, none) ∧
      ∃ c, ({} : Analysis).addText ("10 A=1:GOSUB 20\r".toList ++ '\n' :: "20 B%=A:GOSUB 20".toList) = (c, none) ∧
        countOf c.vars ['A'] = 2 := by
  have ha : ({} : Analysis).addText "10 A=1:GOSUB 20\r".toList =
      (⟨[⟨['A'], .single, [10], 1, false⟩], [⟨10, 20, .gosub⟩], [20]⟩, none) := by with_unfolding_all decide
  have hb : ({} : Analysis).addText "20 B%=A:GOSUB 20".toList =
      (⟨[⟨['B', '%'], .integer, [20], 1, false⟩, ⟨['A'], .single, [20], 1, false⟩], [⟨20, 20, .gosub⟩], [20]⟩,
        none) := by with_unfolding_all decide
  obtain ⟨c, hc, hjoins, -⟩ := addText_append ha hb
  exact ⟨ha, hb, c, hc, by rw [hjoins.countOf_eq]; rfl⟩

end Analysis

end Program

end MsxWorkbench
