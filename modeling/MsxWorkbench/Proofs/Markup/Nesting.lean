import MsxWorkbench.Markup.Element
/-
# Nesting

What well nested tags build. Tags build elements (`Builds`) if, read anywhere, they leave those elements finished inside
whatever is open and change nothing else. An element without content is built by its opening tag alone
(`Builds.void`), any other by an opening tag, the tags of its content and a closing tag (`Builds.element`), and tags that
come one after the other build what they build alone (`Builds.append`). Tags that build elements are read as exactly
those (`elements_of_builds`).
-/
namespace MsxWorkbench.Markup

/-- A name of elements without content. -/
def IsVoid (name : List Char) : Prop := String.ofList name ∈ voidNames

instance (name : List Char) : Decidable (IsVoid name) := inferInstanceAs (Decidable (_ ∈ _))

namespace Growing

/-- The state with finished elements added inside the innermost open element. -/
def append (g : Growing) (es : List Element) : Growing :=
  match g.inner with
  | [] => { g with document := es.reverse ++ g.document }
  | o :: rest => { g with inner := { o with children := es.reverse ++ o.children } :: rest }

theorem append_nil (g : Growing) : g.append [] = g := by
  obtain ⟨inner, document, ended⟩ := g
  cases inner <;> rfl

theorem append_append (g : Growing) (es fs : List Element) : (g.append es).append fs = g.append (es ++ fs) := by
  obtain ⟨inner, document, ended⟩ := g
  cases inner <;> simp [append]

theorem append_ended (g : Growing) (es : List Element) (ended : List (List Char)) :
    ({ g with ended := ended } : Growing).append es = { g.append es with ended := ended } := by
  obtain ⟨inner, document, _⟩ := g
  cases inner <;> rfl

/-- Ending an element adds it to the one around it. -/
theorem pop_entered (g : Growing) (o : Open) :
    pop { g with inner := o :: g.inner } = g.append [finish o] := by
  obtain ⟨inner, document, ended⟩ := g
  cases inner <;> rfl

theorem popTo_innermost {g : Growing} {o : Open} {inner : List Open} (h : g.inner = o :: inner) :
    g.popTo o.name = g.pop := by
  rw [popTo, h, List.findIdx?_cons, if_pos (beq_self_eq_true _)]
  rfl

end Growing

/-- The tags build the elements. Closing tags of elements without content may still be due, no others. -/
def Builds (ts : List Tag) (es : List Element) : Prop :=
  ∀ g : Growing, (∀ name ∈ g.ended, IsVoid name) →
    ∃ ended : List (List Char), (∀ name ∈ ended, IsVoid name) ∧
      ts.foldl Growing.add g = { g.append es with ended := ended }

namespace Builds

theorem nil : Builds [] [] := by
  intro g hg
  exact ⟨g.ended, hg, by rw [g.append_nil]; rfl⟩

theorem append {ts us : List Tag} {es fs : List Element} (ht : Builds ts es) (hu : Builds us fs) :
    Builds (ts ++ us) (es ++ fs) := by
  intro g hg
  obtain ⟨between, hbetween, hfirst⟩ := ht g hg
  obtain ⟨ended, hended, hsecond⟩ := hu { g.append es with ended := between } hbetween
  refine ⟨ended, hended, ?_⟩
  rw [List.foldl_append, hfirst, hsecond, Growing.append_ended, g.append_append]

theorem void {name : List Char} (hname : IsVoid name) (attributes : List Attribute) :
    Builds [.opening name attributes false] [.node name attributes []] := by
  intro g hg
  refine ⟨name :: g.ended, List.forall_mem_cons.2 ⟨hname, hg⟩, ?_⟩
  have hpop := g.pop_entered ⟨name, attributes, []⟩
  rw [IsVoid] at hname
  simp [Growing.add, hname, hpop, Growing.finish]

theorem element {name : List Char} (hname : ¬ IsVoid name) (attributes : List Attribute) {ts : List Tag}
    {es : List Element} (h : Builds ts es) :
    Builds (.opening name attributes false :: (ts ++ [.closing name])) [.node name attributes es] := by
  intro g hg
  obtain ⟨ended, hended, hinside⟩ := h { g with inner := ⟨name, attributes, []⟩ :: g.inner } hg
  refine ⟨ended, hended, ?_⟩
  have hopen : g.add (.opening name attributes false) = { g with inner := ⟨name, attributes, []⟩ :: g.inner } := by
    rw [IsVoid] at hname
    simp [Growing.add, hname]
  have hnot : ended.contains name = false := by
    rw [List.contains_eq_mem, decide_eq_false_iff_not]
    exact fun hmem => hname (hended name hmem)
  rw [List.foldl_cons, hopen, List.foldl_append, hinside]
  simp only [Growing.append, List.append_nil, List.foldl_cons, List.foldl_nil, Growing.add, Growing.close, hnot]
  have hpop := Growing.pop_entered { g with ended := ended } ⟨name, attributes, es.reverse⟩
  rw [if_neg (by simp), Growing.popTo_innermost (o := ⟨name, attributes, es.reverse⟩) rfl, hpop, Growing.append_ended,
    Growing.finish, List.reverse_reverse]
  rfl

end Builds

theorem elements_of_builds {s : List Char} {ts : List Tag} {es : List Element} (hs : tags s = .ok ts)
    (h : Builds ts es) : elements s = .ok es := by
  obtain ⟨ended, _, hfold⟩ := h {} (by simp)
  rw [elements, hs]
  simp [Except.map, hfold, Growing.append, Growing.result, Nat.repeat]

end MsxWorkbench.Markup
