import MsxWorkbench.Contents.Topic
/-
# Items of a list

How the members of a list become topics. An item gives one topic, with the topics of the first list inside it below
(`topicsAfter_item`); a list behind an item takes the place of what was below it (`topicsAfter_list`); anything else gives
nothing (`topicsAfter_other`).

So a list falls into groups, each of an item and what stands behind it up to the next one. A group gives one topic, and
one list of the group gives what is below it: the last list behind the item, or else the first one inside it
(`topicsAfter_eq_map`).
-/
namespace MsxWorkbench.Contents

open Markup

theorem putBelow_concat (below : List Topic) : ∀ (ts : List Topic) (t : Topic),
    putBelow below (ts ++ [t]) = ts ++ [t.withBelow below]
  | [], _ => rfl
  | [_], _ => rfl
  | u :: v :: ts, t => congrArg (u :: ·) (putBelow_concat below (v :: ts) t)

theorem Topic.withBelow_withBelow (t : Topic) (us vs : List Topic) : (t.withBelow us).withBelow vs = t.withBelow vs := by
  cases t
  rfl

/-- The members of a list; none if there is no list. -/
def members (list : Option Element) : List Element := (list.map Element.children).getD []

variable {folder : Path} {before : List Topic} {e o : Element} {rest : List Element}

theorem topicsAfter_nil : topicsAfter folder before [] = before := by rw [topicsAfter]

/-- An item with its object gives one topic, with those of the first list inside it below. -/
theorem topicsAfter_item (he : e.isNamed "li" = true) (ho : e.find? isSitemap = some o) :
    topicsAfter folder before (e :: rest) = topicsAfter folder
      (before ++ [(topicOf folder o).withBelow (topicsAfter folder [] (members (e.find? fun d => d.isNamed "ul")))]) rest := by
  rw [topicsAfter, if_pos he, ho]
  split
  · rename_i list hlist
    show topicsAfter folder (putBelow _ (before ++ [topicOf folder o])) rest = _
    rw [putBelow_concat, hlist]
    rfl
  · rename_i hlist
    rw [hlist, members, Option.map_none, Option.getD_none, topicsAfter_nil]
    rfl

theorem not_isNamed_li (he : e.isNamed "ul" = true) : ¬ e.isNamed "li" = true := by
  rw [Element.isNamed, beq_iff_eq] at he ⊢
  rw [he]
  decide

/-- The topics of a list behind an item take the place of those below it. -/
theorem topicsAfter_list (he : e.isNamed "ul" = true) (t : Topic) :
    topicsAfter folder (before ++ [t]) (e :: rest) =
      topicsAfter folder (before ++ [t.withBelow (topicsAfter folder [] e.children)]) rest := by
  rw [topicsAfter, if_neg (not_isNamed_li he), if_pos he, putBelow_concat]

/-- A list before any item gives nothing. -/
theorem topicsAfter_list_first (he : e.isNamed "ul" = true) :
    topicsAfter folder [] (e :: rest) = topicsAfter folder [] rest := by
  rw [topicsAfter, if_neg (not_isNamed_li he), if_pos he, putBelow]

theorem topicsAfter_other (hi : ¬ e.isNamed "li" = true) (hl : ¬ e.isNamed "ul" = true) :
    topicsAfter folder before (e :: rest) = topicsAfter folder before rest := by
  rw [topicsAfter, if_neg hi, if_neg hl]

/-! ## Groups -/

/-- The members before the first item, and each item with the members behind it up to the next one. -/
def grouped : List Element → List Element × List (Element × List Element)
  | [] => ([], [])
  | e :: es =>
    if e.isNamed "li" then ([], (e, (grouped es).1) :: (grouped es).2) else (e :: (grouped es).1, (grouped es).2)

/-- The last list among the members. -/
def lastList (es : List Element) : Option Element := (es.filter fun e => e.isNamed "ul").getLast?

/-- The list of a group: the last one behind the item, or else the first one inside it. -/
def listOf (g : Element × List Element) : Option Element := (lastList g.2).or (g.1.find? fun d => d.isNamed "ul")

/-- The first element inside an item. -/
def objectOf (e : Element) : Element := e.children.headD e

/-- The item starts with its own object. -/
def StartsWithObject (e : Element) : Prop := ∃ o rest, e.children = o :: rest ∧ isSitemap o = true

/-- The topic of a group. -/
def groupTopic (folder : Path) (g : Element × List Element) : Topic :=
  (topicOf folder (objectOf g.1)).withBelow (topicsAfter folder [] (members (listOf g)))

theorem lastList_cons_list (he : e.isNamed "ul" = true) : lastList (e :: rest) = (lastList rest).or (some e) := by
  rw [lastList, List.filter_cons_of_pos he, List.getLast?_cons, lastList]
  cases (rest.filter fun e => e.isNamed "ul").getLast? <;> rfl

theorem lastList_cons_other (he : ¬ e.isNamed "ul" = true) : lastList (e :: rest) = lastList rest := by
  rw [lastList, List.filter_cons_of_neg he]
  rfl

theorem StartsWithObject.find?_eq (h : StartsWithObject e) : e.find? isSitemap = some (objectOf e) := by
  obtain ⟨o, more, hchildren, ho⟩ := h
  obtain ⟨name, attributes, children⟩ := e
  rw [Element.children] at hchildren
  subst hchildren
  simp [Element.find?, Element.findIn?, ho, objectOf, Element.children]

/-- Behind an item with the list `list`, the members up to the next item may bring another list. -/
theorem topicsAfter_behind (folder : Path) {es : List Element}
    (hes : ∀ e ∈ es, e.isNamed "li" = true → StartsWithObject e) (before : List Topic) (t : Topic) (list : Option Element) :
    topicsAfter folder (before ++ [t.withBelow (topicsAfter folder [] (members list))]) es =
      before ++ t.withBelow (topicsAfter folder [] (members ((lastList (grouped es).1).or list))) ::
        (grouped es).2.map (groupTopic folder) := by
  induction es generalizing before t list with
  | nil => simp [topicsAfter_nil, grouped, lastList]
  | cons e es ih =>
    have hrest := fun d hd => hes d (List.mem_cons_of_mem e hd)
    by_cases hitem : e.isNamed "li" = true
    · rw [topicsAfter_item hitem (hes e List.mem_cons_self hitem).find?_eq, ih hrest, grouped, if_pos hitem]
      simp [lastList, groupTopic, listOf]
    · rw [grouped, if_neg hitem]
      by_cases hlist : e.isNamed "ul" = true
      · have hbelow : topicsAfter folder [] e.children = topicsAfter folder [] (members (some e)) := rfl
        rw [topicsAfter_list hlist, Topic.withBelow_withBelow, hbelow, ih hrest, lastList_cons_list hlist, Option.or_assoc,
          Option.some_or]
      · rw [topicsAfter_other hitem hlist, ih hrest, lastList_cons_other hlist]

/-- A list gives one topic for each of its groups. -/
theorem topicsAfter_eq_map (folder : Path) {es : List Element}
    (hes : ∀ e ∈ es, e.isNamed "li" = true → StartsWithObject e) :
    topicsAfter folder [] es = (grouped es).2.map (groupTopic folder) := by
  induction es with
  | nil => exact topicsAfter_nil
  | cons e es ih =>
    have hrest := fun d hd => hes d (List.mem_cons_of_mem e hd)
    by_cases hitem : e.isNamed "li" = true
    · rw [topicsAfter_item hitem (hes e List.mem_cons_self hitem).find?_eq, topicsAfter_behind folder hrest, grouped,
        if_pos hitem]
      rfl
    · rw [grouped, if_neg hitem]
      by_cases hlist : e.isNamed "ul" = true
      · rw [topicsAfter_list_first hlist, ih hrest]
      · rw [topicsAfter_other hitem hlist, ih hrest]

end MsxWorkbench.Contents
