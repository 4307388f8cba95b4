import MsxWorkbench.Markup.Tag
/-
# Elements

The tree that tags make. A closing tag ends the innermost open element of its name together with
everything open inside it, and does nothing when there is none; no tag closes another by implication,
and the end of the text closes all. Elements that never have content end where they start.

`find?_size` says that what a search finds is smaller than where it looked.
-/
namespace MsxWorkbench.Markup

open Text

/-- An element with its attributes and the elements inside it. -/
inductive Element where
  | node (name : List Char) (attributes : List Attribute) (children : List Element)

namespace Element

/-- The element's name, in lower case. -/
def name : Element → List Char
  | .node n _ _ => n

/-- The elements directly inside. -/
def children : Element → List Element
  | .node _ _ cs => cs

/-- The value of an attribute; of a repeated one, the last. -/
def attribute? (name : String) : Element → Option (List Char)
  | .node _ attributes _ =>
    (attributes.reverse.find? fun a => a.name == name.toList).map (·.value)

/-- Is this an element of the given name? -/
def isNamed (name : String) (e : Element) : Bool := e.name == name.toList

mutual
/-- The number of elements in the tree. -/
def size : Element → Nat
  | .node _ _ cs => sizeAll cs + 1
/-- The number of elements in the trees. -/
def sizeAll : List Element → Nat
  | [] => 0
  | e :: es => size e + sizeAll es
end

mutual
/-- The first element inside that satisfies `p`, in the order of the text. -/
def find? (p : Element → Bool) : Element → Option Element
  | .node _ _ cs => findIn? p cs
/-- The first element among the trees that satisfies `p`. -/
def findIn? (p : Element → Bool) : List Element → Option Element
  | [] => none
  | e :: es => if p e then some e else (find? p e).or (findIn? p es)
end

mutual
/-- All elements inside that satisfy `p`, in the order of the text. -/
def findAll (p : Element → Bool) : Element → List Element
  | .node _ _ cs => findAllIn p cs
/-- All elements among the trees that satisfy `p`. -/
def findAllIn (p : Element → Bool) : List Element → List Element
  | [] => []
  | e :: es => (if p e then [e] else []) ++ findAll p e ++ findAllIn p es
end

mutual
theorem find?_size {p : Element → Bool} : ∀ {e d : Element}, find? p e = some d → d.size < e.size
  | .node _ _ cs, d, h => by
    have := findIn?_size (by simpa [find?] using h : findIn? p cs = some d)
    simp only [size]; omega
theorem findIn?_size {p : Element → Bool} :
    ∀ {es : List Element} {d : Element}, findIn? p es = some d → d.size ≤ sizeAll es
  | [], _, h => by simp [findIn?] at h
  | e :: es, d, h => by
    simp only [findIn?] at h
    simp only [sizeAll]
    split at h
    · cases h; omega
    · rcases Option.or_eq_some_iff.1 h with h | ⟨_, h⟩
      · have := find?_size h; omega
      · have := findIn?_size h; omega
end

theorem sizeAll_children (e : Element) : sizeAll e.children < e.size := by
  cases e; simp [children, size]

end Element

/-! ## From tags to elements -/

/-- Elements that have no content. -/
def voidNames : List String := [
  "area", "base", "br", "col", "embed", "hr", "img", "input", "keygen", "link", "menuitem", "meta",
  "param", "source", "track", "wbr", "basefont", "bgsound", "command", "frame", "image", "isindex",
  "nextid", "spacer"]

/-- An element that is still open, its children last first. -/
structure Open where
  name : List Char
  attributes : List Attribute
  children : List Element

/-- The state between two tags: the open elements, innermost first, above the document itself; and
the names of elements without content that were ended where they start, whose closing tag is still to
be passed over. -/
structure Growing where
  inner : List Open := []
  document : List Element := []
  ended : List (List Char) := []

namespace Growing

/-- The open element as a finished one. -/
def finish (o : Open) : Element := .node o.name o.attributes o.children.reverse

/-- Ends the innermost open element. -/
def pop (g : Growing) : Growing :=
  match g.inner with
  | [] => g
  | o :: [] => { g with inner := [], document := finish o :: g.document }
  | o :: parent :: rest =>
    { g with inner := { parent with children := finish o :: parent.children } :: rest }

/-- Ends open elements up to the innermost one of the given name. -/
def popTo (name : List Char) (g : Growing) : Growing :=
  match g.inner.findIdx? fun o => o.name == name with
  | none => g
  | some n => Nat.repeat pop (n + 1) g

/-- A closing tag. -/
def close (name : List Char) (g : Growing) : Growing :=
  if g.ended.contains name then { g with ended := g.ended.erase name } else g.popTo name

/-- The state after one more tag. -/
def add (g : Growing) : Tag → Growing
  | .closing name => g.close name
  | .opening name attributes closed =>
    let entered := { g with inner := ⟨name, attributes, []⟩ :: g.inner }
    if closed then entered.close name
    else if voidNames.contains (String.ofList name) then
      { entered.pop with ended := name :: g.ended }
    else entered

/-- The elements of the document once all open ones are ended. -/
def result (g : Growing) : List Element := (Nat.repeat pop g.inner.length g).document.reverse

end Growing

/-- The elements of a marked-up text. -/
def elements (s : List Char) : Except Refusal (List Element) :=
  (tags s).map fun ts => (ts.foldl Growing.add {}).result

end MsxWorkbench.Markup
