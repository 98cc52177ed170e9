/-
# Splitting texts

`splitWhere p` cuts a list at every element that satisfies `p`: the parts hold everything else
in its order, and there is one part more than there are cuts, so an empty list has one part.
-/
namespace CrawlMesh.Text

set_option autoImplicit false

/-- The parts of a list between the elements that satisfy `p`. -/
def splitWhere {α : Type} (p : α → Bool) : List α → List (List α)
  | [] => [[]]
  | x :: rest =>
    match splitWhere p rest with
    | [] => [[x]]
    | part :: parts => if p x then [] :: part :: parts else (x :: part) :: parts

/-- There is always at least one part. -/
theorem splitWhere_ne_nil {α : Type} (p : α → Bool) (l : List α) : splitWhere p l ≠ [] := by
  cases l with
  | nil => simp [splitWhere]
  | cons x rest =>
    unfold splitWhere
    split
    · simp
    · split <;> simp

/-- What stands before and behind the first `c` of a list. -/
def splitFirst? (c : Char) (cs : List Char) : Option (List Char × List Char) :=
  if cs.contains c then some (cs.takeWhile (· != c), (cs.dropWhile (· != c)).drop 1) else none

/-- What stands before and behind the last `c` of a list. -/
def splitLast? (c : Char) (cs : List Char) : Option (List Char × List Char) :=
  (splitFirst? c cs.reverse).map fun (behind, before) => (before.reverse, behind.reverse)

/-- Does a text hold another one? -/
def holds (s part : String) : Bool :=
  go part.toList s.toList
where
  /-- Is there a place where the part begins? -/
  go (part : List Char) : List Char → Bool
    | [] => part.isEmpty
    | c :: rest => part.isPrefixOf (c :: rest) || go part rest

end CrawlMesh.Text
