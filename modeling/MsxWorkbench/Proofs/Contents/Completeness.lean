import MsxWorkbench.Proofs.Contents.WrittenContents
/-
# Which entries of a table of contents are kept

The items of a table of contents are the items at any depth of its first list, and each starts with the object that
names its entry. The topics of the archive come from these objects in the order of the text, none of them twice
(`allIn_sublist`). Every item has its topic just if the table is `Tidy` (`allIn_eq_iff`): in each list that is read no items
stand ahead of the first one, and the one list that counts for an item holds all the items inside it and behind it.

Items whose closing tags are left out are inside each other and not behind each other, so the table is not tidy
(`topics_unclosed`).
-/
namespace MsxWorkbench.Contents

open Markup

/-! ## Items and topics -/

/-- The items among elements, at any depth. -/
def items (es : List Element) : List Element := Element.findAllIn (fun e => e.isNamed "li") es

mutual
/-- A topic and those below it, each on its own, in the order of the text. -/
def Topic.all : Topic → List Topic
  | .node name page below => .node name page [] :: Topic.allIn below
/-- Topics and those below them, each on its own. -/
def Topic.allIn : List Topic → List Topic
  | [] => []
  | t :: ts => t.all ++ Topic.allIn ts
end

/-- The members of a list keep all their items: none is ahead of the first item, and the list of each group holds the
items that are inside the group's item and behind it, and keeps them all. -/
inductive Tidy : List Element → Prop where
  | intro {es : List Element} : items (grouped es).1 = [] →
      (∀ g ∈ (grouped es).2, items (members (listOf g)) = items g.1.children ++ items g.2) →
      (∀ g ∈ (grouped es).2, Tidy (members (listOf g))) → Tidy es

theorem tidy_iff {es : List Element} : Tidy es ↔ items (grouped es).1 = [] ∧
    ∀ g ∈ (grouped es).2, items (members (listOf g)) = items g.1.children ++ items g.2 ∧ Tidy (members (listOf g)) := by
  constructor
  · rintro ⟨hlead, hwhole, hbelow⟩
    exact ⟨hlead, fun g hg => ⟨hwhole g hg, hbelow g hg⟩⟩
  · rintro ⟨hlead, hgroups⟩
    exact .intro hlead (fun g hg => (hgroups g hg).1) (fun g hg => (hgroups g hg).2)

theorem Topic.allIn_map {f : α → Topic} (xs : List α) : Topic.allIn (xs.map f) = xs.flatMap fun x => (f x).all := by
  induction xs with
  | nil => rfl
  | cons x xs ih => rw [List.map_cons, Topic.allIn, ih, List.flatMap_cons]

/-! ## Items of groups -/

theorem items_cons (e : Element) (es : List Element) :
    items (e :: es) = (if e.isNamed "li" then [e] else []) ++ (items e.children ++ items es) := by
  obtain ⟨name, attributes, children⟩ := e
  rw [← List.append_assoc]
  rfl

theorem items_children_sublist (e : Element) (es : List Element) : (items e.children).Sublist (items (e :: es)) := by
  rw [items_cons]
  exact (List.sublist_append_left _ _).trans (List.sublist_append_right _ _)

theorem items_tail_sublist (e : Element) (es : List Element) : (items es).Sublist (items (e :: es)) := by
  rw [items_cons]
  exact (List.sublist_append_right _ _).trans (List.sublist_append_right _ _)

theorem items_grouped (es : List Element) :
    items es = items (grouped es).1 ++ (grouped es).2.flatMap fun g => g.1 :: (items g.1.children ++ items g.2) := by
  induction es with
  | nil => rfl
  | cons e es ih =>
    rw [items_cons, ih, grouped]
    by_cases he : e.isNamed "li" = true
    · simp [he, items, Element.findAllIn]
    · simp [he, items_cons e (grouped es).1]

theorem items_of_mem {e : Element} {es : List Element} (he : e ∈ es) : (items e.children).Sublist (items es) := by
  induction es with
  | nil => cases he
  | cons d es ih =>
    rcases List.mem_cons.1 he with rfl | he
    · exact items_children_sublist e es
    · exact (ih he).trans (items_tail_sublist d es)

mutual
theorem items_of_find? {p : Element → Bool} : ∀ {e d : Element}, e.find? p = some d →
    (items d.children).Sublist (items e.children)
  | .node _ _ cs, d, h => items_of_findIn? (by simpa [Element.find?] using h : Element.findIn? p cs = some d)
theorem items_of_findIn? {p : Element → Bool} : ∀ {es : List Element} {d : Element}, Element.findIn? p es = some d →
    (items d.children).Sublist (items es)
  | [], _, h => by simp [Element.findIn?] at h
  | e :: es, d, h => by
    rw [Element.findIn?] at h
    split at h
    · cases h
      exact items_children_sublist e es
    · rcases Option.or_eq_some_iff.1 h with h | ⟨_, h⟩
      · exact (items_of_find? h).trans (items_children_sublist e es)
      · exact (items_of_findIn? h).trans (items_tail_sublist e es)
end

/-- The list of a group is inside its item or behind it. -/
theorem listOf_cases {g : Element × List Element} {list : Element} (h : listOf g = some list) :
    list ∈ g.2 ∨ g.1.find? (fun d => d.isNamed "ul") = some list := by
  rcases Option.or_eq_some_iff.1 h with h | ⟨_, h⟩
  · exact .inl (List.mem_filter.1 (List.mem_of_getLast? h)).1
  · exact .inr h

theorem items_listOf (g : Element × List Element) :
    (items (members (listOf g))).Sublist (items g.1.children ++ items g.2) := by
  cases h : listOf g with
  | none => exact List.nil_sublist _
  | some list =>
    rcases listOf_cases h with hmem | hfind
    · exact (items_of_mem hmem).trans (List.sublist_append_right _ _)
    · exact (items_of_find? hfind).trans (List.sublist_append_left _ _)

theorem sizeAll_lead (es : List Element) : Element.sizeAll (grouped es).1 ≤ Element.sizeAll es := by
  induction es with
  | nil => exact Nat.le_refl _
  | cons e es ih =>
    rw [grouped]
    split <;> simp only [Element.sizeAll] <;> omega

theorem sizeAll_group {es : List Element} {g : Element × List Element} (hg : g ∈ (grouped es).2) :
    g.1.size + Element.sizeAll g.2 ≤ Element.sizeAll es := by
  induction es with
  | nil => simp [grouped] at hg
  | cons e es ih =>
    have hlead := sizeAll_lead es
    rw [grouped] at hg
    simp only [Element.sizeAll]
    split at hg
    · rcases List.mem_cons.1 hg with rfl | hg
      · exact Nat.add_le_add_left hlead _
      · have := ih hg
        omega
    · have := ih hg
      omega

theorem sizeAll_of_mem {e : Element} {es : List Element} (he : e ∈ es) : e.size ≤ Element.sizeAll es := by
  induction es with
  | nil => cases he
  | cons d es ih =>
    simp only [Element.sizeAll]
    rcases List.mem_cons.1 he with rfl | he
    · omega
    · have := ih he
      omega

theorem sizeAll_listOf {es : List Element} {g : Element × List Element} (hg : g ∈ (grouped es).2) :
    Element.sizeAll (members (listOf g)) < Element.sizeAll es := by
  have hgroup := sizeAll_group hg
  have hitem := Element.sizeAll_children g.1
  cases h : listOf g with
  | none =>
    simp only [members, Option.map_none, Option.getD_none, Element.sizeAll]
    omega
  | some list =>
    have hlist := Element.sizeAll_children list
    simp only [members, Option.map_some, Option.getD_some]
    rcases listOf_cases h with hmem | hfind
    · have := sizeAll_of_mem hmem
      omega
    · have := Element.find?_size hfind
      omega

/-! ## Lists and the longest they can be -/

theorem append_eq_iff_of_sublist {a b c d : List α} (h : a.Sublist b) (h' : c.Sublist d) :
    a ++ c = b ++ d ↔ a = b ∧ c = d := by
  constructor
  · intro heq
    have hlength := congrArg List.length heq
    rw [List.length_append, List.length_append] at hlength
    have := h.length_le
    have := h'.length_le
    exact ⟨h.eq_of_length (by omega), h'.eq_of_length (by omega)⟩
  · rintro ⟨rfl, rfl⟩
    rfl

theorem eq_map_iff_of_sublist {f : α → β} {a : List β} {b c : List α} (ha : a.Sublist (b.map f)) (hb : b.Sublist c) :
    a = c.map f ↔ b = c ∧ a = b.map f := by
  constructor
  · intro heq
    have hlength := ha.length_le
    rw [heq, List.length_map, List.length_map] at hlength
    have hbc := hb.eq_of_length_le hlength
    exact ⟨hbc, hbc ▸ heq⟩
  · rintro ⟨rfl, heq⟩
    exact heq

theorem flatMap_sublist {f f' : α → List β} {xs : List α} (h : ∀ x ∈ xs, (f x).Sublist (f' x)) :
    (xs.flatMap f).Sublist (xs.flatMap f') := by
  induction xs with
  | nil => exact List.nil_sublist _
  | cons x xs ih =>
    rw [List.forall_mem_cons] at h
    exact h.1.append (ih h.2)

theorem flatMap_eq_iff_of_sublist {f f' : α → List β} {xs : List α} (h : ∀ x ∈ xs, (f x).Sublist (f' x)) :
    xs.flatMap f = xs.flatMap f' ↔ ∀ x ∈ xs, f x = f' x := by
  induction xs with
  | nil => simp
  | cons x xs ih =>
    rw [List.forall_mem_cons] at h ⊢
    rw [List.flatMap_cons, List.flatMap_cons, append_eq_iff_of_sublist h.1 (flatMap_sublist h.2), ih h.2]

/-! ## Topics of items -/

/-- The topic of an item, without what is below it. -/
def itemTopic (folder : Path) (e : Element) : Topic := topicOf folder (objectOf e)

theorem mem_items {e : Element} {es : List Element} (he : e ∈ es) (hitem : e.isNamed "li" = true) : e ∈ items es := by
  induction es with
  | nil => cases he
  | cons d es ih =>
    rcases List.mem_cons.1 he with rfl | he
    · simp [items_cons, hitem]
    · exact (items_tail_sublist d es).subset (ih he)

theorem items_listOf_subset {es : List Element} {g : Element × List Element} (hg : g ∈ (grouped es).2) {e : Element}
    (he : e ∈ items (members (listOf g))) : e ∈ items es := by
  rw [items_grouped]
  refine List.mem_append_right _ (List.mem_flatMap.2 ⟨g, hg, List.mem_cons_of_mem _ ?_⟩)
  exact (items_listOf g).subset he

theorem allIn_topicsAfter (folder : Path) {es : List Element} (hes : ∀ e ∈ items es, StartsWithObject e) :
    Topic.allIn (topicsAfter folder [] es) = (grouped es).2.flatMap fun g =>
      itemTopic folder g.1 :: Topic.allIn (topicsAfter folder [] (members (listOf g))) := by
  rw [topicsAfter_eq_map folder fun e he hitem => hes e (mem_items he hitem), Topic.allIn_map]
  rfl

theorem map_items (folder : Path) (es : List Element) :
    (items es).map (itemTopic folder) = (items (grouped es).1).map (itemTopic folder) ++ (grouped es).2.flatMap fun g =>
      itemTopic folder g.1 :: (items g.1.children ++ items g.2).map (itemTopic folder) := by
  rw [items_grouped, List.map_append, List.map_flatMap]
  rfl

/-- What a group gives comes from its items if what its list gives comes from the items of the list. -/
theorem group_sublist {folder : Path} {g : Element × List Element}
    (h : (Topic.allIn (topicsAfter folder [] (members (listOf g)))).Sublist
      ((items (members (listOf g))).map (itemTopic folder))) :
    (itemTopic folder g.1 :: Topic.allIn (topicsAfter folder [] (members (listOf g)))).Sublist
      (itemTopic folder g.1 :: (items g.1.children ++ items g.2).map (itemTopic folder)) :=
  (h.trans ((items_listOf g).map _)).cons_cons _

/-- The topics come from the items, in their order and none twice. -/
theorem allIn_sublist (folder : Path) (es : List Element) (hes : ∀ e ∈ items es, StartsWithObject e) :
    (Topic.allIn (topicsAfter folder [] es)).Sublist ((items es).map (itemTopic folder)) := by
  rw [allIn_topicsAfter folder hes, map_items]
  refine (flatMap_sublist fun g hg => ?_).trans (List.sublist_append_right _ _)
  exact group_sublist (allIn_sublist folder (members (listOf g)) fun e he => hes e (items_listOf_subset hg he))
termination_by Element.sizeAll es
decreasing_by exact sizeAll_listOf hg

/-- Every item has its topic just if the table is tidy. -/
theorem allIn_eq_iff (folder : Path) (es : List Element) (hes : ∀ e ∈ items es, StartsWithObject e) :
    Topic.allIn (topicsAfter folder [] es) = (items es).map (itemTopic folder) ↔ Tidy es := by
  have hbelow : ∀ g ∈ (grouped es).2, (Topic.allIn (topicsAfter folder [] (members (listOf g)))).Sublist
      ((items (members (listOf g))).map (itemTopic folder)) := fun g hg =>
    allIn_sublist folder _ fun e he => hes e (items_listOf_subset hg he)
  -- Both sides go through the groups and one is part of the other, so they are equal just if they are so at each group.
  have hgroup := fun g hg => group_sublist (hbelow g hg)
  have hlead := append_eq_iff_of_sublist (List.nil_sublist ((items (grouped es).1).map (itemTopic folder)))
    (flatMap_sublist hgroup)
  rw [List.nil_append] at hlead
  rw [allIn_topicsAfter folder hes, map_items, hlead, flatMap_eq_iff_of_sublist hgroup, tidy_iff, eq_comm, List.map_eq_nil_iff]
  refine and_congr_right fun _ => forall_congr' fun g => forall_congr' fun hg => ?_
  have ih := allIn_eq_iff folder (members (listOf g)) fun e he => hes e (items_listOf_subset hg he)
  rw [List.cons.injEq, and_iff_right rfl, eq_map_iff_of_sublist (hbelow g hg) (items_listOf g), ih]
termination_by Element.sizeAll es
decreasing_by exact sizeAll_listOf hg

/-- The topics of an archive are those of items of its table of contents, in their order and none twice. All items are
there just if the table is tidy. -/
theorem topics_keep_items {a : Archive} {tree : FileTree} {bytes : List UInt8} {es : List Element} {list : Element}
    (hfile : (a.fileEnding? tree ".hhc").or (a.fileEnding? tree ".hhk") = some bytes)
    (helements : elements (Text.normalizeBreaks (Text.decodeLatin1 bytes)) = .ok es)
    (hlist : Element.findIn? (fun e => e.isNamed "ul") es = some list)
    (hitems : ∀ e ∈ items list.children, StartsWithObject e) :
    ∃ forest, a.topics tree = .ok forest ∧
      (Topic.allIn forest).Sublist ((items list.children).map (itemTopic a.folder)) ∧
      (Topic.allIn forest = (items list.children).map (itemTopic a.folder) ↔ Tidy list.children) := by
  refine ⟨topicsAfter a.folder [] list.children, ?_, allIn_sublist a.folder _ hitems, allIn_eq_iff a.folder _ hitems⟩
  rw [Archive.topics, hfile]
  simp only [topics, helements, Except.map, hlist]

theorem elements_of_text {ts : List Tag} (hplain : ts.all Tag.isPlain = true) :
    elements (ts.flatMap Tag.text) = .ok (ts.foldl Growing.add {}).result := by
  rw [elements, tags_of_markupText (markupText_text (List.all_eq_true.1 hplain))]
  rfl

/-- The item of an entry with a name, in front of other elements inside it. -/
def namedItem (name : String) (more : List Element) : Element :=
  .node "li".toList [] (objectNode [⟨"Name".toList, name.toList⟩] :: more)

theorem startsWithObject_namedItem (name : String) (more : List Element) : StartsWithObject (namedItem name more) :=
  ⟨_, more, rfl, rfl⟩

theorem tidy_nil : Tidy [] := .intro rfl (by simp [grouped]) (by simp [grouped])

/-- An item alone is tidy if the first list inside it holds all the items inside it and is tidy. -/
theorem tidy_singleton {e : Element} (he : e.isNamed "li" = true)
    (hwhole : items (members (e.find? fun d => d.isNamed "ul")) = items e.children)
    (h : Tidy (members (e.find? fun d => d.isNamed "ul"))) : Tidy [e] := by
  have hgroups : grouped [e] = ([], [(e, [])]) := by simp [grouped, he]
  have hlist : listOf (e, []) = e.find? fun d => d.isNamed "ul" := rfl
  rw [tidy_iff, hgroups]
  refine ⟨rfl, fun g hg => ?_⟩
  rw [List.mem_singleton.1 hg, hlist]
  exact ⟨by rw [hwhole]; simp [items, Element.findAllIn], h⟩

/-- A table with an item in a list inside another item. -/
def nestedTags : List Tag :=
  elementTags "ul" [] (elementTags "li" [] (objectTags [⟨"Name".toList, "A".toList⟩] ++
    elementTags "ul" [] (elementTags "li" [] (objectTags [⟨"Name".toList, "B".toList⟩]))))

theorem topics_keep_items_nested :
    ∃ forest, guide.topics (guideWith nestedTags) = .ok forest ∧
      Topic.allIn forest = [.node "A".toList "" [], .node "B".toList "" []] := by
  have htext : Text.normalizeBreaks (Text.decodeLatin1 (Text.latin1Bytes (nestedTags.flatMap Tag.text))) =
      nestedTags.flatMap Tag.text := by decide +kernel
  have helements : elements (nestedTags.flatMap Tag.text) =
      .ok [.node "ul".toList [] [namedItem "A" [.node "ul".toList [] [namedItem "B" []]]]] := elements_of_text (by decide)
  rw [← htext] at helements
  have hitems : items [namedItem "A" [.node "ul".toList [] [namedItem "B" []]]] =
      [namedItem "A" [.node "ul".toList [] [namedItem "B" []]], namedItem "B" []] := rfl
  have hstart : ∀ e ∈ items [namedItem "A" [.node "ul".toList [] [namedItem "B" []]]], StartsWithObject e := by
    rw [hitems]
    simp [startsWithObject_namedItem]
  have htidy : Tidy [namedItem "A" [.node "ul".toList [] [namedItem "B" []]]] :=
    tidy_singleton rfl rfl (tidy_singleton rfl rfl tidy_nil)
  obtain ⟨forest, htopics, _, hall⟩ := topics_keep_items (fileEnding?_guideWith nestedTags) helements rfl hstart
  exact ⟨forest, htopics, (hall.2 htidy).trans rfl⟩

/-- A table of two items whose closing tags are left out. -/
def unclosedTags : List Tag :=
  elementTags "ul" [] (.opening "li".toList [] false :: (objectTags [⟨"Name".toList, "A".toList⟩] ++
    .opening "li".toList [] false :: objectTags [⟨"Name".toList, "B".toList⟩]))

/-- The second of two items without closing tags is inside the first, in no list, and gets no topic. -/
theorem topics_unclosed :
    ∃ es list, elements (unclosedTags.flatMap Tag.text) = .ok es ∧
      Element.findIn? (fun e => e.isNamed "ul") es = some list ∧ (∀ e ∈ items list.children, StartsWithObject e) ∧
      (items list.children).length = 2 ∧ guide.topics (guideWith unclosedTags) = .ok [.node "A".toList "" []] := by
  have htext : Text.normalizeBreaks (Text.decodeLatin1 (Text.latin1Bytes (unclosedTags.flatMap Tag.text))) =
      unclosedTags.flatMap Tag.text := by decide +kernel
  have helements : elements (unclosedTags.flatMap Tag.text) =
      .ok [.node "ul".toList [] [namedItem "A" [namedItem "B" []]]] := elements_of_text (by decide)
  have hitems : items [namedItem "A" [namedItem "B" []]] = [namedItem "A" [namedItem "B" []], namedItem "B" []] := rfl
  have hfirst : Element.findIn? (fun e => e.isNamed "ul") [.node "ul".toList [] [namedItem "A" [namedItem "B" []]]] =
      some (.node "ul".toList [] [namedItem "A" [namedItem "B" []]]) := rfl
  have htopics : topicsAfter guide.folder [] [namedItem "A" [namedItem "B" []]] = [.node "A".toList "" []] := by
    have hmembers : members ((namedItem "A" [namedItem "B" []]).find? fun d => d.isNamed "ul") = [] := rfl
    rw [topicsAfter_item rfl (startsWithObject_namedItem _ _).find?_eq, hmembers, topicsAfter_nil, topicsAfter_nil]
    rfl
  refine ⟨_, _, helements, hfirst, ?_, congrArg List.length hitems, ?_⟩
  · rw [Element.children, hitems]
    simp [startsWithObject_namedItem]
  · rw [Archive.topics, fileEnding?_guideWith]
    simp only [topics, htext, helements, Except.map, hfirst, Element.children, htopics]

end MsxWorkbench.Contents
