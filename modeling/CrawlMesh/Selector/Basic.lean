/-
# Selectors

A selector picks elements of a page. It is a list of alternatives; each describes an element by
simple conditions on it, and by conditions on elements that stand before or around it.
-/
namespace CrawlMesh.Selector

set_option autoImplicit false

/-- How an element stands to the one that is described after it. -/
inductive Combinator
  | descendant
  | child
  | nextSibling
  | laterSibling
deriving DecidableEq, Repr, Inhabited

/-- How the value of an attribute is compared. -/
inductive Comparison
  | equal
  | includes
  | dash
  | starts
  | ends
  | contains
deriving DecidableEq, Repr, Inhabited

/-- When case counts in a comparison: as the name of the attribute says, always, or never. -/
inductive CaseRule
  | byName
  | sensitive
  | insensitive
deriving DecidableEq, Repr, Inhabited

/-- Which siblings are counted, and from which end. -/
structure Counting where
  ofType : Bool
  fromEnd : Bool
deriving DecidableEq, Repr, Inhabited

mutual

/-- A condition on one element. -/
inductive Simple
  | any
  | nothing
  | type (name : String)
  | id (name : String)
  | classed (name : String)
  | attribute (anySpace : Bool) (name : String)
      (test : Option (Comparison × String × CaseRule))
  | nth (step offset : Int) (counting : Counting)
  | only (ofType : Bool)
  | root
  | empty
  | scope
  | anchor
  | isAny (alternatives : List Complex)
  | not (alternatives : List Complex)
  | has (alternatives : List Complex)
  | invalid

/-- Conditions on an element and on the elements before and around it, nearest first. -/
inductive Complex
  | mk (subject : List Simple) (context : List (Combinator × List Simple))

end

instance : Inhabited Simple := ⟨.any⟩

instance : Inhabited Complex := ⟨.mk [] []⟩

end CrawlMesh.Selector
