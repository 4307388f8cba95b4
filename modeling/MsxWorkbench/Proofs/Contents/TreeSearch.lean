import MsxWorkbench.Contents.ContentsViewer
/-
# The contents tree

The tree is filled by inserting one row after the other, each behind the last one of its level, and the rows below a
topic go to the place that the insertion of the topic's own row gave. A row behind the last one does not move the others,
so filling the tree is adding the rows of the topics at the end of the level (`addTopics_eq`), and the tree of an archive
has a row where its topics have an item, and nowhere else (`itemAt?_addTopics`).

The search looks at a row before the rows below it, and at those before the next row. That is the order of places as
lists of numbers, so it ends at the least place with a wanted row (`searchRows_outcome`). Both together are
`selectPage_among_topics`.
-/
namespace MsxWorkbench.Contents

/-! ## Rows right below a place -/

@[simp] theorem Row.children_withBelow (below : List Row) (r : Row) : (r.withBelow below).children = below := by
  cases r
  rfl

@[simp] theorem Row.withBelow_withBelow (below below' : List Row) (r : Row) :
    (r.withBelow below).withBelow below' = r.withBelow below' := by
  cases r
  rfl

@[simp] theorem Row.withBelow_children (r : Row) : r.withBelow r.children = r := by
  cases r
  rfl

section
variable {f g : List Row → List Row} {place : Place} {rows : List Row}

/-- What is done below a place and further down is done to the rows below that place. -/
theorem changeBelow_append (further : Place) :
    changeBelow f (place ++ further) rows = changeBelow (changeBelow f further) place rows := by
  induction place generalizing rows with
  | nil => rfl
  | cons i place ih => simp only [List.cons_append, changeBelow, ih]

theorem changeBelow_changeBelow :
    changeBelow g place (changeBelow f place rows) = changeBelow (fun below => g (f below)) place rows := by
  induction place generalizing rows with
  | nil => rfl
  | cons i place ih =>
    simp only [changeBelow, List.modify_modify_eq]
    congr 1
    funext r
    simp [ih]

/-- Only what happens to the rows that are below the place matters. -/
theorem changeBelow_congr (h : f (rowsBelow place rows) = g (rowsBelow place rows)) :
    changeBelow f place rows = changeBelow g place rows := by
  induction place generalizing rows with
  | nil => exact h
  | cons i place ih =>
    unfold changeBelow
    apply List.ext_getElem?
    intro k
    rw [List.getElem?_modify, List.getElem?_modify]
    by_cases hk : i = k
    · subst hk
      cases hr : rows[i]? with
      | none => rfl
      | some r =>
        have hbelow : changeBelow f place r.children = changeBelow g place r.children := by
          apply ih
          simpa [rowsBelow, hr] using h
        simp [hbelow]
    · simp [hk]

theorem changeBelow_id : changeBelow (fun below => below) place rows = rows := by
  induction place generalizing rows with
  | nil => rfl
  | cons i place ih =>
    simp only [changeBelow, ih, Row.withBelow_children]
    exact List.modify_id i rows

end

/-! ## Rows inserted one by one -/

mutual
/-- The row of a topic with all the rows below it. -/
def rowOf : Topic → Row
  | .node name page below =>
    .node (labelOf (if below.isEmpty then pageIcon else folderIcon) name) page (rowsOf below)
/-- The rows of topics. -/
def rowsOf : List Topic → List Row
  | [] => []
  | t :: ts => rowOf t :: rowsOf ts
end

/-- Rows put below a row that has just been inserted are the rows it might have come with. -/
theorem changeBelow_insertRow (rows : List Row) (parent : Place) (label page : String) (new : List Row) :
    changeBelow (· ++ new) (insertRow rows parent label page).2 (insertRow rows parent label page).1 =
      changeBelow (· ++ [.node label page new]) parent rows := by
  unfold insertRow
  rw [changeBelow_append, changeBelow_changeBelow]
  apply changeBelow_congr
  generalize rowsBelow parent rows = before
  induction before with
  | nil => rfl
  | cons r before ih => simpa [changeBelow] using ih

mutual
theorem addTopic_eq (parent : Place) (rows : List Row) :
    (t : Topic) → addTopic parent rows t = changeBelow (· ++ [rowOf t]) parent rows
  | .node name page below => by
    simp only [addTopic, rowOf]
    cases below with
    | nil => rfl
    | cons t ts =>
      simp only [List.isEmpty_cons, Bool.false_eq_true, if_false]
      rw [addTopics_eq _ _ (t :: ts), changeBelow_insertRow]
/-- Filling in topics puts their rows behind those that are there. -/
theorem addTopics_eq (parent : Place) (rows : List Row) :
    (ts : List Topic) → addTopics parent rows ts = changeBelow (· ++ rowsOf ts) parent rows
  | [] => by
    simp only [addTopics, rowsOf, List.append_nil, changeBelow_id]
  | t :: ts => by
    rw [addTopics, addTopic_eq parent rows t, addTopics_eq parent _ ts, changeBelow_changeBelow, rowsOf]
    simp
end

theorem rowsOf_eq_map (ts : List Topic) : rowsOf ts = ts.map rowOf := by
  induction ts with
  | nil => rfl
  | cons t ts ih => rw [rowsOf, ih, List.map_cons]

theorem children_rowOf (t : Topic) : (rowOf t).children = t.children.map rowOf := by
  cases t
  simp [rowOf, Row.children, Topic.children, rowsOf_eq_map]

theorem itemFrom?_rowOf (place : Place) (t : Topic) :
    itemFrom? Row.children place (rowOf t) = (itemFrom? Topic.children place t).map rowOf := by
  induction place generalizing t with
  | nil => rfl
  | cons i place ih =>
    simp only [itemFrom?, children_rowOf, List.getElem?_map]
    cases t.children[i]? with
    | none => rfl
    | some u => simp [ih]

/-- An empty tree that was filled with topics has the row of a topic where the topic is, and no others. -/
theorem itemAt?_addTopics (place : Place) (ts : List Topic) :
    itemAt? Row.children place (addTopics [] [] ts) = (itemAt? Topic.children place ts).map rowOf := by
  rw [addTopics_eq, changeBelow, List.nil_append, rowsOf_eq_map]
  cases place with
  | nil => rfl
  | cons i place =>
    simp only [itemAt?, List.getElem?_map]
    cases ts[i]? with
    | none => rfl
    | some t => simp [itemFrom?_rowOf]

/-! ## The first wanted row -/

/-- The order in which a tree is read: a row is ahead of the rows below it, and these of the next row. -/
def Place.Ahead (p q : Place) : Prop := List.Lex (· < ·) p q

/-- What a search must give, where `at?` tells the row of each place: the place of a wanted row with no wanted row ahead,
or nothing if no row is wanted. -/
inductive Outcome (at? : Place → Option Row) (wanted : Row → Bool) : Option Place → Prop where
  | first {place : Place} {r : Row} : at? place = some r → wanted r = true →
      (∀ other s, Place.Ahead other place → at? other = some s → wanted s = false) → Outcome at? wanted (some place)
  | missing : (∀ place r, at? place = some r → wanted r = false) → Outcome at? wanted none

section
variable {wanted : Row → Bool} {before rs : List Row} {r s : Row} {place : Place} {result : Option Place}

theorem itemFrom?_of_itemAt? (h : itemAt? Row.children place r.children = some s) :
    itemFrom? Row.children place r = some s := by
  cases place with
  | nil => simp [itemAt?] at h
  | cons i place => exact h

/-- In the tree of a row is the row itself and what is below it. -/
theorem eq_or_itemAt?_of_itemFrom? (h : itemFrom? Row.children place r = some s) :
    s = r ∨ itemAt? Row.children place r.children = some s := by
  cases place with
  | nil => exact .inl (Option.some.inj h).symm
  | cons i place => exact .inr h

namespace Outcome

theorem of_nil : Outcome (itemAt? Row.children · []) wanted none := by
  refine .missing ?_
  intro place s hs
  cases place <;> simp [itemAt?] at hs

/-- If a row is not wanted, the search in its tree is that through the rows below it. -/
theorem of_children (hr : wanted r = false) (h : Outcome (itemAt? Row.children · r.children) wanted result) :
    Outcome (itemFrom? Row.children · r) wanted result := by
  cases h with
  | first hat hwanted hahead =>
    refine .first (itemFrom?_of_itemAt? hat) hwanted ?_
    intro other s hother hs
    obtain rfl | hs := eq_or_itemAt?_of_itemFrom? hs
    · exact hr
    · exact hahead other s hother hs
  | missing hnone =>
    refine .missing ?_
    intro place s hs
    obtain rfl | hs := eq_or_itemAt?_of_itemFrom? hs
    · exact hr
    · exact hnone place s hs

/-- The first wanted row in a row's tree is the first of all if nothing is wanted before that row. -/
theorem behind (hbefore : Outcome (itemAt? Row.children · before) wanted none)
    (h : Outcome (itemFrom? Row.children · r) wanted (some place)) :
    Outcome (itemAt? Row.children · (before ++ r :: rs)) wanted (some (before.length :: place)) := by
  cases hbefore with | missing hbefore => ?_
  cases h with | first hat hwanted hahead => ?_
  refine .first (by simpa [itemAt?] using hat) hwanted ?_
  intro other s hother hs
  -- What is ahead is the place of the tree, a row that was passed, or in the row's own tree.
  cases hother with
  | nil => simp [itemAt?] at hs
  | @rel k sub _ _ hk =>
    apply hbefore (k :: sub)
    simpa [itemAt?, List.getElem?_append_left hk] using hs
  | @cons _ sub _ hsub => exact hahead sub s hsub (by simpa [itemAt?] using hs)

/-- A row in whose tree nothing is wanted joins those that the search has passed. -/
theorem concat (hbefore : Outcome (itemAt? Row.children · before) wanted none)
    (h : Outcome (itemFrom? Row.children · r) wanted none) :
    Outcome (itemAt? Row.children · (before ++ [r])) wanted none := by
  cases hbefore with | missing hbefore => ?_
  cases h with | missing hnone => ?_
  refine .missing ?_
  intro place s hs
  cases place with
  | nil => simp [itemAt?] at hs
  | cons k sub =>
    by_cases hk : k < before.length
    · apply hbefore (k :: sub)
      simpa [itemAt?, List.getElem?_append_left hk] using hs
    · rw [itemAt?, List.getElem?_append_right (by omega)] at hs
      obtain ⟨u, hu, hsub⟩ := Option.bind_eq_some_iff.1 hs
      obtain rfl : u = r := by simpa using List.mem_of_getElem? hu
      exact hnone sub s hsub

end Outcome

end

mutual
theorem searchRow_outcome (wanted : Row → Bool) :
    (r : Row) → Outcome (itemFrom? Row.children · r) wanted (searchRow wanted r)
  | .node label page below => by
    rw [searchRow]
    by_cases hr : wanted (.node label page below) = true
    · rw [if_pos hr]
      refine .first rfl hr ?_
      intro other s hother
      cases hother
    · rw [if_neg hr]
      exact .of_children (by simpa using hr) (searchRows_outcome wanted [] .of_nil below)
/-- The search through rows, when it has passed the rows `before` them and nothing was wanted there. -/
theorem searchRows_outcome (wanted : Row → Bool) (before : List Row)
    (hbefore : Outcome (itemAt? Row.children · before) wanted none) :
    (rs : List Row) → Outcome (itemAt? Row.children · (before ++ rs)) wanted (searchRows wanted before.length rs)
  | [] => by
    rw [searchRows, List.append_nil]
    exact hbefore
  | r :: rs => by
    have hr := searchRow_outcome wanted r
    rw [searchRows]
    cases hplace : searchRow wanted r with
    | some place =>
      rw [hplace] at hr
      exact hbefore.behind hr
    | none =>
      rw [hplace] at hr
      simpa using searchRows_outcome wanted (before ++ [r]) (hbefore.concat hr) rs
end

/-! ## The tree of an archive -/

theorem label_rowOf (t : Topic) :
    (rowOf t).label = labelOf (if t.children.isEmpty then pageIcon else folderIcon) t.name := by
  cases t
  rw [rowOf]
  rfl

theorem page_rowOf (t : Topic) : (rowOf t).page = t.page := by
  cases t
  rw [rowOf]
  rfl

namespace ContentsViewer

/-- Does a row lead to the page with this path, in any case of letters? -/
def LeadsTo (path : List Char) (r : Row) : Prop := Text.lower r.page.toList = Text.lower path

/-- The tree of an archive has a row at each place where its topics have one, with the name and the page of that topic
and the icon of a folder just if there are topics below it. Whatever rows a viewer shows, looking for a page selects the
first row in the order of reading that leads to it, and changes nothing if there is none. -/
theorem selectPage_among_topics (topics : List Topic) (v : ContentsViewer) (path : List Char) :
    (∀ place, (itemAt? Row.children place (addTopics [] [] topics)).map (fun r => (r.label, r.page)) =
      (itemAt? Topic.children place topics).map fun t =>
        (labelOf (if t.children.isEmpty then pageIcon else folderIcon) t.name, t.page)) ∧
    ((∃ place r, v.rowAt? place = some r ∧ LeadsTo path r ∧
        (∀ other s, Place.Ahead other place → v.rowAt? other = some s → ¬ LeadsTo path s) ∧
        v.selectPage path = { v with selected := some place }) ∨
      (∀ place r, v.rowAt? place = some r → ¬ LeadsTo path r) ∧ v.selectPage path = v) := by
  constructor
  · intro place
    rw [itemAt?_addTopics, Option.map_map]
    congr 1
    funext t
    simp only [Function.comp_apply, label_rowOf, page_rowOf]
  · have houtcome := searchRows_outcome (fun r => Text.lower r.page.toList == Text.lower path) [] .of_nil v.rows
    unfold selectPage
    cases hplace : searchRows (fun r => Text.lower r.page.toList == Text.lower path) 0 v.rows with
    | some place =>
      rw [List.length_nil, hplace] at houtcome
      cases houtcome with
      | first hat hleads hahead =>
        refine .inl ⟨place, _, hat, by simpa [LeadsTo] using hleads, ?_, rfl⟩
        intro other s hother hs
        simpa [LeadsTo] using hahead other s hother hs
    | none =>
      rw [List.length_nil, hplace] at houtcome
      cases houtcome with
      | missing hnone =>
        refine .inr ⟨?_, rfl⟩
        intro place r hr
        simpa [LeadsTo] using hnone place r hr

end ContentsViewer

end MsxWorkbench.Contents
