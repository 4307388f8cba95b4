/-
# Searching and replacing

Where a part occurs in a text, and the text with every occurrence replaced. Occurrences are taken
from left to right and do not overlap.
-/
namespace MsxWorkbench.Text

/-- The number of characters before the first occurrence of `part`. -/
def indexOf? (part : List Char) : List Char → Option Nat
  | [] => if part.isEmpty then some 0 else none
  | c :: rest =>
    if part.isPrefixOf (c :: rest) then some 0 else (indexOf? part rest).map (· + 1)

/-- Does `part` occur in the text? -/
def occurs (part s : List Char) : Bool := (indexOf? part s).isSome

/-- Replaces the occurrences of `part` in a text; the first `skip` characters belong to one already
replaced. -/
def replaceFrom (part new : List Char) : Nat → List Char → List Char
  | _, [] => []
  | skip + 1, _ :: rest => replaceFrom part new skip rest
  | 0, c :: rest =>
    if part.isPrefixOf (c :: rest) then new ++ replaceFrom part new (part.length - 1) rest
    else c :: replaceFrom part new 0 rest

/-- The text with every occurrence of `part` replaced; an empty part stands before every character
and at the end. -/
def replaceAll (part new s : List Char) : List Char :=
  if part.isEmpty then new ++ s.flatMap fun c => c :: new else replaceFrom part new 0 s

end MsxWorkbench.Text
