import MsxWorkbench.Contents.Topic
/-
# Sample tables of contents

A table of contents of any length, with lists inside items and after them, down to three levels. Every
list ends with an entry that is a keyword.
-/
namespace MsxWorkbench.Suite

/-- The entry of a topic or a keyword with its page. -/
def contentsEntry (kind name page : String) : String :=
  "<object type=\"text/sitemap\"><param name=\"" ++ kind ++ "\" value=\"" ++ name ++
    "\"><param name=\"Local\" value=\"" ++ page ++ "\"></object>"

/-- A list of items; `deeper` is how many levels of lists may still stand below it. -/
def contentsList : Nat → Nat → Nat → String
  | deeper, level, count =>
    let below := match deeper with
      | 0 => ""
      | deeper + 1 => contentsList deeper (level + 1) 2
    let item (i : Nat) := "<li>" ++ contentsEntry "Name" s!"Topic {level}-{i}" s!"page_{level}_{i}.htm" ++
      (if i % 5 = 1 then below else "") ++ "</li>" ++ (if i % 3 = 0 then below else "")
    "<ul>" ++ String.join ((List.range count).map item) ++ "<li>" ++
      contentsEntry "Keyword" "KW" "kw.htm" ++ "</li></ul>"

/-- A table of contents with a number of items on its first level. -/
def contentsPage (items : Nat) : String :=
  "<html><body>" ++ contentsList 2 0 items ++ "</body></html>"

mutual
/-- The names of a topic and those below it. -/
def topicNames : Contents.Topic → List (List Char)
  | .node name _ below => name :: topicsNames below
/-- The names of topics and those below them. -/
def topicsNames : List Contents.Topic → List (List Char)
  | [] => []
  | t :: ts => topicNames t ++ topicsNames ts
end

/-- The names of all topics of a sample table of contents. -/
def sampleNames (items : Nat) : List (List Char) :=
  topicsNames ((Contents.topics (.read "/work") (contentsPage items).toList).toOption.getD [])

end MsxWorkbench.Suite
