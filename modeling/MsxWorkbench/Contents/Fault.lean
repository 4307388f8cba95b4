import MsxWorkbench.Markup.Refusal
import MsxWorkbench.Notice
/-
# Faults of the help viewers

What ends a step of a help viewer early: the view that shows pages fails, a path cannot be looked at,
or a table of contents is refused.
-/
namespace MsxWorkbench.Contents

/-- Why a step ended early. -/
inductive Fault where
  /-- The page view failed. -/
  | view
  | file (error : FileError)
  | markup (refusal : Markup.Refusal)
deriving DecidableEq, Repr

/-- The message of a fault. -/
def Fault.message : Fault → String
  | .view => "web view failure"
  | .file e => e.message
  | .markup r => r.message

end MsxWorkbench.Contents
