/-
# Segments of a listing

A listing is shown in pieces of one kind each, so that every kind can have its colour. Neighbouring
pieces of one kind are joined and empty pieces dropped.
-/
namespace MsxWorkbench.Program

/-- What a piece of a listing is. -/
inductive Kind where
  | lineNumber
  | plain
  | command
  | function
  | string
  | number
  | comment
deriving DecidableEq, Repr

/-- The name a kind has in settings and tags. -/
def Kind.name : Kind → String
  | .lineNumber => "line_number"
  | .plain => "plain"
  | .command => "command"
  | .function => "function"
  | .string => "string"
  | .number => "number"
  | .comment => "comment"

/-- A piece of a listing. -/
structure Segment where
  kind : Kind
  text : List Char
deriving DecidableEq, Repr

namespace Segment

/-- Puts a piece before joined ones (`add_segment`). -/
def push (s : Segment) : List Segment → List Segment
  | [] => if s.text.isEmpty then [] else [s]
  | t :: rest =>
    if s.text.isEmpty then t :: rest
    else if s.kind = t.kind then ⟨s.kind, s.text ++ t.text⟩ :: rest
    else s :: t :: rest

/-- Joins neighbours of one kind and drops empty pieces. -/
def join (pieces : List Segment) : List Segment := pieces.foldr push []

/-- The text of all pieces in order. -/
def textOf (pieces : List Segment) : List Char := pieces.flatMap text

end Segment

end MsxWorkbench.Program
