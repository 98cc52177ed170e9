/-
# Sets of characters

Patterns are matched against texts of seven-bit characters, but are written with all of them. A
set of characters is kept as far as that can make a difference: the seven-bit characters, the two
others that are the same letter as one of them when case does not count, and one place for all
the rest.
-/
namespace CrawlMesh.Pattern

set_option autoImplicit false

/-- A set of places: bit `i` is set if place `i` is in it. -/
structure CharSet where
  bits : Nat
deriving DecidableEq, Repr, Inhabited

namespace CharSet

/-- The long s, which is an s when case does not count. -/
def longS : Char := '\u017f'

/-- The sign for kelvin, which is a k when case does not count. -/
def kelvin : Char := '\u212a'

/-- The place of a character. -/
def place (c : Char) : Nat :=
  if c.toNat < 0x80 then c.toNat
  else if c == longS then 128
  else if c == kelvin then 129
  else 130

/-- How many places there are. -/
def places : Nat := 131

def empty : CharSet := ⟨0⟩

def all : CharSet := ⟨1 <<< places - 1⟩

def single (c : Char) : CharSet := ⟨1 <<< place c⟩

def holds (s : CharSet) (c : Char) : Bool := s.bits.testBit (place c)

def union (s t : CharSet) : CharSet := ⟨s.bits ||| t.bits⟩

def inter (s t : CharSet) : CharSet := ⟨s.bits &&& t.bits⟩

def difference (s t : CharSet) : CharSet := ⟨s.bits &&& (all.bits ^^^ t.bits)⟩

def symmetricDifference (s t : CharSet) : CharSet := ⟨s.bits ^^^ t.bits⟩

def complement (s : CharSet) : CharSet := all.difference s

/-- The characters whose place is known, by a predicate. -/
def ofPredicate (p : Char → Bool) : CharSet :=
  let chars := (List.range 128).map Char.ofNat ++ [longS, kelvin]
  chars.foldl (fun s c => if p c then s.union (single c) else s) empty

/-- The characters from one to another, the rest among them if it reaches beyond. -/
def range (first last : Char) : CharSet :=
  let known := ofPredicate fun c => first ≤ c && c ≤ last
  if last.toNat < 0x80 then known else known.union ⟨1 <<< 130⟩

/-- Letters that are the same when case does not count. -/
def sameLetters : List (List Char) :=
  (List.range 26).map fun i =>
    let small := Char.ofNat (0x61 + i)
    let capital := Char.ofNat (0x41 + i)
    if small == 's' then [small, capital, longS]
    else if small == 'k' then [small, capital, kelvin]
    else [small, capital]

/-- The set with all letters that are the same as one of its letters when case does not count. -/
def foldCase (s : CharSet) : CharSet :=
  sameLetters.foldl (fun s letters =>
    if letters.any s.holds then letters.foldl (fun s c => s.union (single c)) s else s) s

/-- Does the set hold seven-bit characters alone? -/
def isPlain (s : CharSet) : Bool := s.bits < 1 <<< 128

/-! ## Named sets -/

def digit : CharSet := ofPredicate Char.isDigit

def word : CharSet := ofPredicate fun c => c.isAlphanum || c == '_' || c.toNat ≥ 0x80

def space : CharSet := ofPredicate fun c => c == ' ' || (9 ≤ c.toNat && c.toNat ≤ 13)

/-- The word characters among the seven-bit ones. -/
def plainWord : CharSet := ofPredicate fun c => c.isAlphanum || c == '_'

def upper : CharSet := ofPredicate fun c => c.isUpper || c == kelvin

def lower : CharSet := ofPredicate fun c => c.isLower || c == longS

def letter : CharSet := upper.union lower

def control : CharSet := ofPredicate fun c => c.toNat < 0x20 || c.toNat == 0x7F

def ofText (s : String) : CharSet := s.foldl (fun t c => t.union (single c)) empty

def dash : CharSet := ofText "-"
def opening : CharSet := ofText "([\x7b"
def closing : CharSet := ofText ")]\x7d"
def connector : CharSet := ofText "_"
def otherPunctuation : CharSet := ofText "!\"#%&'*,./:;?@\\"
def currency : CharSet := ofText "$"
def mathSign : CharSet := ofText "+<=>|~"
def modifier : CharSet := ofText "^`"
def blankSign : CharSet := ofText " "

def punctuation : CharSet :=
  dash.union (opening.union (closing.union (connector.union otherPunctuation)))

def sign : CharSet := currency.union (mathSign.union modifier)

def hexDigit : CharSet := ofText "0123456789abcdefABCDEF"

/-- How much room a set takes: a character takes one place, a few ranges two, and all the word
characters of the world many. -/
def weight (s : CharSet) : Nat :=
  if s == word || s == word.complement then 1400
  else if s.bits &&& (s.bits - 1) == 0 then 1
  else 2

/-- The place of the rest, for sets that are known to reach beyond the known characters. -/
def rest : CharSet := ⟨1 <<< 130⟩

end CharSet

end CrawlMesh.Pattern
