import MsxWorkbench.Contents.Archive
import MsxWorkbench.Proofs.Contents.Items
import MsxWorkbench.Proofs.Markup.Nesting
import MsxWorkbench.Proofs.Markup.WrittenTags
import MsxWorkbench.Proofs.Text.Bytes
/-
# Written tables of contents

A table of contents is a list with one closed item for each entry. The item holds the object with the entry's name and
page. The entries below are in a list inside the item, behind the object, or in a list that follows the item: each item
has it one way or the other.

`topics_of_contentsText` says that an archive with such a table of contents gives exactly the topics it was written from.
The tags of the table build a tree (`Builds`), and reading the members of a list in that tree keeps what was read before
and adds the topics of the entries (`ItemsTags.exists_elements`).
-/
namespace MsxWorkbench.Contents

open Markup

/-! ## Entries -/

/-- What an entry says: its name, and its page, which may be missing. -/
structure Label where
  name : List Char
  page : List Char
  named : name ≠ []

/-- An entry and the entries below it. -/
inductive Entry where
  | node (label : Label) (below : List Entry)

/-- The path of the page in a folder. Backslashes divide names as slashes do. -/
def Label.path (folder : Path) (l : Label) : String :=
  if l.page = [] then "" else (folder / String.ofList (l.page.map fun c => if c = '\\' then '/' else c)).text

mutual
/-- The topic that an entry stands for. -/
def Entry.topic (folder : Path) : Entry → Topic
  | .node l below => .node l.name (l.path folder) (Entry.topics folder below)
/-- The topics that entries stand for. -/
def Entry.topics (folder : Path) : List Entry → List Topic
  | [] => []
  | e :: es => Entry.topic folder e :: Entry.topics folder es
end

/-! ## Tags -/

/-- A parameter of an object: what it gives, and the value. -/
structure Param where
  kind : List Char
  value : List Char

/-- The attributes of a parameter. -/
def Param.attributes (p : Param) : List Attribute := [⟨"name".toList, p.kind⟩, ⟨"value".toList, p.value⟩]

/-- The parameters of an entry. What they give may be said in any case of letters. -/
inductive Params (l : Label) : List Param → Prop where
  | nameFirst {n p : List Char} : Spells n "name".toList → Spells p "local".toList →
      Params l [⟨n, l.name⟩, ⟨p, l.page⟩]
  | pageFirst {n p : List Char} : Spells n "name".toList → Spells p "local".toList →
      Params l [⟨p, l.page⟩, ⟨n, l.name⟩]

/-- Tags between the opening and the closing tag of an element. -/
def elementTags (name : String) (attributes : List Attribute) (ts : List Tag) : List Tag :=
  .opening name.toList attributes false :: (ts ++ [.closing name.toList])

/-- The object of an item. -/
def objectTags (params : List Param) : List Tag :=
  elementTags "object" [⟨"type".toList, "text/sitemap".toList⟩]
    (params.map fun p => .opening "param".toList p.attributes false)

/-- The items of a list of entries. -/
inductive ItemsTags : List Entry → List Tag → Prop where
  | nil : ItemsTags [] []
  | leaf {l : Label} {params : List Param} {rest : List Entry} {ts : List Tag} :
      Params l params → ItemsTags rest ts →
      ItemsTags (.node l [] :: rest) (elementTags "li" [] (objectTags params) ++ ts)
  | inside {l : Label} {params : List Param} {below rest : List Entry} {us ts : List Tag} :
      Params l params → ItemsTags below us → ItemsTags rest ts →
      ItemsTags (.node l below :: rest) (elementTags "li" [] (objectTags params ++ elementTags "ul" [] us) ++ ts)
  | behind {l : Label} {params : List Param} {below rest : List Entry} {us ts : List Tag} :
      Params l params → ItemsTags below us → ItemsTags rest ts →
      ItemsTags (.node l below :: rest) (elementTags "li" [] (objectTags params) ++ (elementTags "ul" [] us ++ ts))

/-- The text of a table of contents. -/
def ContentsText (forest : List Entry) (s : List Char) : Prop :=
  ∃ ts, ItemsTags forest ts ∧ MarkupText (elementTags "ul" [] ts) s

/-! ## Elements -/

/-- The element of a parameter. -/
def Param.element (p : Param) : Element := .node "param".toList p.attributes []

/-- The element of an object. -/
def objectNode (params : List Param) : Element :=
  .node "object".toList [⟨"type".toList, "text/sitemap".toList⟩] (params.map Param.element)

theorem builds_elementTags (name : String) (hname : ¬ IsVoid name.toList) (attributes : List Attribute) {ts : List Tag}
    {es : List Element} (h : Builds ts es) :
    Builds (elementTags name attributes ts) [.node name.toList attributes es] :=
  Builds.element hname attributes h

theorem builds_objectTags (params : List Param) : Builds (objectTags params) [objectNode params] := by
  have hparams : Builds (params.map fun p => .opening "param".toList p.attributes false)
      (params.map Param.element) := by
    induction params with
    | nil => exact Builds.nil
    | cons p params ih => exact (Builds.void (by decide) p.attributes).append ih
  exact builds_elementTags "object" (by decide) _ hparams

theorem findAllIn_params (params : List Param) :
    Element.findAllIn (fun e => e.isNamed "param") (params.map Param.element) = params.map Param.element := by
  induction params with
  | nil => rfl
  | cons p params ih => exact congrArg (p.element :: ·) ih

theorem findIn?_params (params : List Param) :
    Element.findIn? (fun e => e.isNamed "ul") (params.map Param.element) = none := by
  induction params with
  | nil => rfl
  | cons p params ih => exact ih

theorem parameter?_params (kind : String) (params : List Param) :
    parameter? kind (params.map Param.element) =
      (params.reverse.find? fun p => Text.lower p.kind == kind.toList).map (·.value) := by
  rw [parameter?, ← List.map_reverse, List.find?_map, Option.map_map]
  rfl

theorem pagePath_eq (folder : Path) (l : Label) : pagePath folder l.page = l.path folder := by
  simp [pagePath, Label.path]

theorem Params.topicOf_eq {l : Label} {params : List Param} (h : Params l params) (folder : Path) :
    topicOf folder (objectNode params) = .node l.name (l.path folder) [] := by
  have hname : parameter? "name" (params.map Param.element) = some l.name := by
    rw [parameter?_params]
    cases h with
    | nameFirst hn hp => simp [hn.lower_eq, hp.lower_eq]
    | pageFirst hn hp => simp [hn.lower_eq]
  have hpage : parameter? "local" (params.map Param.element) = some l.page := by
    rw [parameter?_params]
    cases h with
    | nameFirst hn hp => simp [hp.lower_eq]
    | pageFirst hn hp => simp [hn.lower_eq, hp.lower_eq]
  rw [topicOf, objectNode, Element.findAll, findAllIn_params, hname, hpage]
  simp [l.named, pagePath_eq]

/-! ## Reading -/

/-- An item gives the topic of its object, above the topics of the first list behind the object. -/
theorem Params.topicsAfter_eq {l : Label} {params : List Param} (h : Params l params) (folder : Path)
    (before : List Topic) (more rest : List Element) :
    topicsAfter folder before (.node "li".toList [] (objectNode params :: more) :: rest) = topicsAfter folder
      (before ++ [.node l.name (l.path folder)
        (topicsAfter folder [] (members (Element.findIn? (fun e => e.isNamed "ul") more)))]) rest := by
  have hlist : Element.find? (fun e => e.isNamed "ul") (.node "li".toList [] (objectNode params :: more)) =
      Element.findIn? (fun e => e.isNamed "ul") more := by
    show (Element.findIn? (fun e => e.isNamed "ul") (params.map Param.element)).or _ = _
    rw [findIn?_params, Option.none_or]
  rw [topicsAfter_item (o := objectNode params) rfl rfl, h.topicOf_eq, hlist]
  rfl

/-- The tags of items build elements that are read as their topics, behind whatever was read before. -/
theorem ItemsTags.exists_elements {forest : List Entry} {ts : List Tag} (h : ItemsTags forest ts) :
    ∃ es, Builds ts es ∧ ∀ folder before, topicsAfter folder before es = before ++ Entry.topics folder forest := by
  -- `before` is free in the statement: the next items are read behind the topic of this one.
  induction h with
  | nil => exact ⟨[], Builds.nil, fun folder before => by rw [topicsAfter_nil, Entry.topics, List.append_nil]⟩
  | @leaf l params rest ts hparams _ ih =>
    obtain ⟨es, hbuilds, htopics⟩ := ih
    refine ⟨_, (builds_elementTags "li" (by decide) [] (builds_objectTags params)).append hbuilds, fun folder before => ?_⟩
    rw [List.singleton_append, hparams.topicsAfter_eq, htopics, List.append_assoc, Entry.topics, Entry.topic]
    simp [members, Element.findIn?, topicsAfter_nil, Entry.topics]
  | @inside l params below rest us ts hparams _ _ ihbelow ih =>
    obtain ⟨bs, hlist, hbelow⟩ := ihbelow
    obtain ⟨es, hbuilds, htopics⟩ := ih
    have hinside := (builds_objectTags params).append (builds_elementTags "ul" (by decide) [] hlist)
    refine ⟨_, (builds_elementTags "li" (by decide) [] hinside).append hbuilds, fun folder before => ?_⟩
    have hfirst : members (Element.findIn? (fun e => e.isNamed "ul") [.node "ul".toList [] bs]) = bs := rfl
    rw [List.singleton_append, List.singleton_append, hparams.topicsAfter_eq, hfirst, hbelow, htopics,
      List.append_assoc, Entry.topics, Entry.topic]
    rfl
  | @behind l params below rest us ts hparams _ _ ihbelow ih =>
    obtain ⟨bs, hlist, hbelow⟩ := ihbelow
    obtain ⟨es, hbuilds, htopics⟩ := ih
    have hbehind := (builds_elementTags "ul" (by decide) [] hlist).append hbuilds
    refine ⟨_, (builds_elementTags "li" (by decide) [] (builds_objectTags params)).append hbehind, fun folder before => ?_⟩
    rw [List.singleton_append, List.singleton_append, hparams.topicsAfter_eq, topicsAfter_list rfl, Element.children,
      hbelow, htopics, List.append_assoc, Entry.topics, Entry.topic]
    rfl

/-! ## Writing -/

theorem exists_itemsTags : ∀ forest : List Entry, ∃ ts, ItemsTags forest ts
  | [] => ⟨[], .nil⟩
  | .node l below :: rest => by
    obtain ⟨us, hbelow⟩ := exists_itemsTags below
    obtain ⟨ts, hrest⟩ := exists_itemsTags rest
    have hparams : Params l [⟨"name".toList, l.name⟩, ⟨"local".toList, l.page⟩] :=
      .nameFirst (spells_self (by decide)) (spells_self (by decide))
    exact ⟨_, .inside hparams hbelow hrest⟩

theorem isPlain_elementTags (name : String) (attributes : List Attribute) {ts : List Tag}
    (hopen : (Tag.opening name.toList attributes false).isPlain = true) (hclose : (Tag.closing name.toList).isPlain = true)
    (h : ∀ t ∈ ts, t.isPlain = true) : ∀ t ∈ elementTags name attributes ts, t.isPlain = true := by
  intro t ht
  rw [elementTags, List.mem_cons, List.mem_append, List.mem_singleton] at ht
  rcases ht with rfl | ht | rfl
  · exact hopen
  · exact h t ht
  · exact hclose

theorem isPlain_objectTags (params : List Param) : ∀ t ∈ objectTags params, t.isPlain = true := by
  refine isPlain_elementTags "object" _ (by decide) (by decide) fun t ht => ?_
  obtain ⟨p, _, rfl⟩ := List.mem_map.1 ht
  rfl

theorem ItemsTags.isPlain {forest : List Entry} {ts : List Tag} (h : ItemsTags forest ts) : ∀ t ∈ ts, t.isPlain = true := by
  induction h with
  | nil => simp
  | leaf _ _ ih =>
    exact List.forall_mem_append.2 ⟨isPlain_elementTags "li" [] (by decide) (by decide) (isPlain_objectTags _), ih⟩
  | inside _ _ _ ihbelow ih =>
    have hlist := isPlain_elementTags "ul" [] (by decide) (by decide) ihbelow
    refine List.forall_mem_append.2 ⟨isPlain_elementTags "li" [] (by decide) (by decide) ?_, ih⟩
    exact List.forall_mem_append.2 ⟨isPlain_objectTags _, hlist⟩
  | behind _ _ _ ihbelow ih =>
    have hlist := isPlain_elementTags "ul" [] (by decide) (by decide) ihbelow
    refine List.forall_mem_append.2 ⟨isPlain_elementTags "li" [] (by decide) (by decide) (isPlain_objectTags _), ?_⟩
    exact List.forall_mem_append.2 ⟨hlist, ih⟩

/-- However the lists stand, the table has a text. -/
theorem ItemsTags.contentsText {forest : List Entry} {ts : List Tag} (h : ItemsTags forest ts) :
    ContentsText forest ((elementTags "ul" [] ts).flatMap Tag.text) :=
  ⟨ts, h, markupText_text (isPlain_elementTags "ul" [] (by decide) (by decide) h.isPlain)⟩

/-- Every table of contents can be written, and an archive with it gives the topics it was written from. -/
theorem topics_of_contentsText (forest : List Entry) :
    (∃ s, ContentsText forest s) ∧
    ∀ (a : Archive) (tree : FileTree) (bytes : List UInt8),
      (a.fileEnding? tree ".hhc").or (a.fileEnding? tree ".hhk") = some bytes →
      ContentsText forest (Text.normalizeBreaks (Text.decodeLatin1 bytes)) →
      a.topics tree = .ok (Entry.topics a.folder forest) := by
  constructor
  · obtain ⟨ts, hitems⟩ := exists_itemsTags forest
    exact ⟨_, hitems.contentsText⟩
  · rintro a tree bytes hfile ⟨ts, hitems, htext⟩
    obtain ⟨es, hbuilds, htopics⟩ := hitems.exists_elements
    have helements := elements_of_builds (tags_of_markupText htext) (builds_elementTags "ul" (by decide) [] hbuilds)
    have hlist : Element.findIn? (fun e => e.isNamed "ul") [.node "ul".toList [] es] = some (.node "ul".toList [] es) := rfl
    rw [Archive.topics, hfile]
    simp only [topics, helements, Except.map, hlist, Element.children, htopics, List.nil_append]

/-- An archive in a folder of its own. -/
def guide : Archive := ⟨.read "/guide"⟩

/-- The files of the archive, with a table of contents of the given tags. -/
def guideWith (ts : List Tag) : FileTree := { files := [(["guide", "guide.hhc"], Text.latin1Bytes (ts.flatMap Tag.text))] }

theorem fileEnding?_guideWith (ts : List Tag) :
    (guide.fileEnding? (guideWith ts) ".hhc").or (guide.fileEnding? (guideWith ts) ".hhk") =
      some (Text.latin1Bytes (ts.flatMap Tag.text)) := by
  rfl

/-- The items of two entries: what is below the first is inside its item, what is below the second behind it. -/
def mixedItems : List Tag :=
  elementTags "li" [] (objectTags [⟨"Name".toList, "Q & A".toList⟩, ⟨"LOCAL".toList, "a\\b.htm".toList⟩] ++
    elementTags "ul" [] (elementTags "li" [] (objectTags [⟨"local".toList, []⟩, ⟨"nAmE".toList, "\"Go\"".toList⟩]) ++ [])) ++
  (elementTags "li" [] (objectTags [⟨"name".toList, "Rest".toList⟩, ⟨"Local".toList, []⟩]) ++
    (elementTags "ul" []
      (elementTags "li" [] (objectTags [⟨"name".toList, "<End>".toList⟩, ⟨"local".toList, "e.htm".toList⟩]) ++ []) ++ []))

/-- The entries of `mixedItems`. -/
def mixedEntries : List Entry :=
  [.node ⟨"Q & A".toList, "a\\b.htm".toList, by decide⟩ [.node ⟨"\"Go\"".toList, [], by decide⟩ []],
    .node ⟨"Rest".toList, [], by decide⟩ [.node ⟨"<End>".toList, "e.htm".toList, by decide⟩ []]]

theorem topics_of_contentsText_mixed :
    ContentsText mixedEntries ((elementTags "ul" [] mixedItems).flatMap Tag.text) ∧
    guide.topics (guideWith (elementTags "ul" [] mixedItems)) = .ok [
      .node "Q & A".toList "/guide/a/b.htm" [.node "\"Go\"".toList "" []],
      .node "Rest".toList "" [.node "<End>".toList "/guide/e.htm" []]] := by
  have hitems : ItemsTags mixedEntries mixedItems :=
    .inside (.nameFirst (spells_of (by decide) (by decide)) (spells_of (by decide) (by decide)))
      (.leaf (.pageFirst (spells_of (by decide) (by decide)) (spells_of (by decide) (by decide))) .nil)
      (.behind (.nameFirst (spells_of (by decide) (by decide)) (spells_of (by decide) (by decide)))
        (.leaf (.nameFirst (spells_of (by decide) (by decide)) (spells_of (by decide) (by decide))) .nil) .nil)
  have hcontents := hitems.contentsText
  refine ⟨hcontents, ?_⟩
  have htext : Text.normalizeBreaks (Text.decodeLatin1 (Text.latin1Bytes
      ((elementTags "ul" [] mixedItems).flatMap Tag.text))) = (elementTags "ul" [] mixedItems).flatMap Tag.text := by
    decide +kernel
  rw [← htext] at hcontents
  exact ((topics_of_contentsText mixedEntries).2 guide _ _ (fileEnding?_guideWith _) hcontents).trans rfl

end MsxWorkbench.Contents
