/-
# Properties of characters as runs

A property of the Unicode standard is an ascending array of runs: closed ranges of code points
with one value each. Look-up halves the array. A table is written as lines of words, an entry a word: a
code point or two with a dash between, in base sixteen, and, where the property has values,
an equals sign and the value.
-/
namespace CrawlMesh.Unicode

set_option autoImplicit false

/-- Consecutive code points with one value. -/
structure Run (α : Type) where
  first : Nat
  last : Nat
  value : α
deriving Repr

/-- Find the run that holds a code point, by halving. -/
def findRun? {α : Type} (runs : Array (Run α)) (c : Nat) : Option (Run α) :=
  go runs.size 0 runs.size
where
  /-- Search among the indices from `lo` up to `hi`. -/
  go : Nat → Nat → Nat → Option (Run α)
    | 0, _, _ => none
    | fuel + 1, lo, hi =>
      if lo < hi then
        let mid := (lo + hi) / 2
        match runs[mid]? with
        | none => none
        | some run =>
          if c < run.first then go fuel lo mid
          else if run.last < c then go fuel (mid + 1) hi
          else some run
      else none

/-- The number of a text in base sixteen, capital letters. -/
def hexNumber (s : String) : Nat :=
  s.foldl (fun n c => n * 16 + (if c.isDigit then c.toNat - 48 else c.toNat - 55)) 0

/-- A run from its word: the range and the text of its value. -/
def readRun (word : String) : Run String :=
  let (range, value) := match word.splitOn "=" with
    | [range, value] => (range, value)
    | _ => (word, "")
  match range.splitOn "-" with
  | [first, last] => ⟨hexNumber first, hexNumber last, value⟩
  | _ => ⟨hexNumber range, hexNumber range, value⟩

/-- The runs of a table. -/
def readRuns {α : Type} (value : String → α) (table : List String) :
    Array (Run α) :=
  (table.flatMap fun line => (line.splitOn " ").map fun word =>
    let run := readRun word
    ⟨run.first, run.last, value run.value⟩).toArray

/-- Code points in a value, joined by plus signs. -/
def readPoints (value : String) : List Nat := (value.splitOn "+").map hexNumber

end CrawlMesh.Unicode
