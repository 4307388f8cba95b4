import MsxWorkbench.Contents.Fault
/-
# The view that shows pages

The viewers show pages in a view that may be missing, and that may fail whenever it is to show
something. Going back and forth never fails: what the view cannot do is not done.
-/
namespace MsxWorkbench.Contents

/-- The state of the page view. -/
inductive PageView where
  | absent
  | ready
  | failing
deriving DecidableEq, Repr

/-- Can this fail? Setting the link handler cannot. -/
def isFallible : Action → Bool
  | .linkHandler _ => false
  | _ => true

/-- Asks the view for several things in turn; the first failure ends it and is passed on. -/
def PageView.demand (view : PageView) (actions : List Action) : Notices × Option Fault :=
  match view with
  | .absent => ({}, none)
  | .ready => ({ actions }, none)
  | .failing =>
    ({ actions := actions.takeWhile fun a => !isFallible a },
      if actions.any isFallible then some .view else none)

/-- Asks the view for something; a failure is ignored. -/
def PageView.request (view : PageView) (action : Action) : Notices := (view.demand [action]).1

end MsxWorkbench.Contents
