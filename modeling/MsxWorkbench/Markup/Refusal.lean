import MsxWorkbench.Text.Integer
/-
# Refused markup

Reading markup is lenient, with three exceptions, each of which refuses the whole text: a section that
starts with no name, a section of an unknown name, and a decimal character reference with more digits
than a whole number may have.
-/
namespace MsxWorkbench.Markup

open Text

/-- Why a text was refused. -/
inductive Refusal where
  /-- A section without a name; `start` is how the section begins. -/
  | unnamedSection (start : List Char)
  /-- A section of an unknown name, with the blank space after it. -/
  | unknownSection (name : List Char)
  /-- A number that cannot be read. -/
  | number (error : IntegerError)
deriving DecidableEq, Repr

namespace Refusal

/-- The message for a section that was not understood. -/
def sectionMessage (cause : String) : String :=
  "The markup you provided was rejected by the parser. Trying a different parser or a different " ++
    "encoding may help.\n\nOriginal error(s) from parser:\n  AssertionError: " ++ cause

/-- The message for a refused text. -/
def message : Refusal → String
  | .unnamedSection start =>
    sectionMessage ("expected name token at " ++ String.ofList (quoted start))
  | .unknownSection name =>
    sectionMessage ("unknown status keyword " ++ String.ofList (quoted name) ++ " in marked section")
  | .number e => e.message

end Refusal

end MsxWorkbench.Markup
