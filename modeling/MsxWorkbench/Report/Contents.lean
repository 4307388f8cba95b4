import MsxWorkbench.Contents.ContentsViewer
import MsxWorkbench.Json.Build
/-
# Reports on contents

Topics and the rows of the contents tree, as JSON.
-/
namespace MsxWorkbench.Contents

mutual

/-- A topic with the topics below it. -/
def Topic.report : Topic → Json
  | .node name page below =>
    .obj [("name", .ofChars name), ("local", .str page), ("children", .arr (topicReports below))]

/-- Topics, each with those below it. -/
def topicReports : List Topic → List Json
  | [] => []
  | t :: rest => t.report :: topicReports rest

end

mutual

/-- A row with the rows below it. -/
def Row.report : Row → Json
  | .node label page below => .arr [.str label, .str page, .arr (rowReports below)]

/-- Rows, each with those below it. -/
def rowReports : List Row → List Json
  | [] => []
  | r :: rest => r.report :: rowReports rest

end

/-- What the contents viewer shows. -/
def ContentsViewer.report (v : ContentsViewer) : List (String × Json) :=
  [("tree", .arr (rowReports v.rows)), ("selected", .ofList .str v.selectedLabel?.toList)]

end MsxWorkbench.Contents
