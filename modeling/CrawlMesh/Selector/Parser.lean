/-
# Reading selectors

`Selector.parse?` reads a whole text as a list of alternatives. The tests in parentheses that are
known are those on the place among siblings, and those that hold other selectors; the ones that
choose any of several pass over alternatives that cannot be read.
-/
import CrawlMesh.Selector.Basic
import CrawlMesh.Selector.Lexer
import CrawlMesh.Text.Case

namespace CrawlMesh.Selector

set_option autoImplicit false

/-- Do pieces begin with blanks? -/
def dropSpace : List Piece → List Piece
  | .space :: rest => dropSpace rest
  | ps => ps

/-- The parts of pieces between commas. -/
def splitCommas : List Piece → List (List Piece)
  | [] => [[]]
  | p :: rest =>
    match splitCommas rest with
    | [] => [[p]]
    | part :: parts =>
      match p with
      | .mark ',' => [] :: part :: parts
      | p => (p :: part) :: parts

mutual

/-- Is there a piece that no text of a selector may hold? -/
def hasBroken : List Piece → Bool
  | [] => false
  | p :: rest => p.isBroken || hasBroken rest

def Piece.isBroken : Piece → Bool
  | .broken => true
  | .function _ items => hasBroken items
  | .square items => hasBroken items
  | _ => false

end

/-! ## Names with a space -/

/-- A name with what is in front of it: nothing, a bar alone, or a star and a bar. -/
inductive NameSpace
  | implied
  | empty
  | any
deriving DecidableEq, Repr

/-- The name of a type: `none` if no name begins here, and a fault for a name that cannot be. The
name itself is missing for a star. -/
def readTypeName (ps : List Piece) : Except Unit (Option (NameSpace × Option String × List Piece)) :=
  let behindBar (space : NameSpace) (ps : List Piece) :
      Except Unit (Option (NameSpace × Option String × List Piece)) :=
    match ps with
    | .mark '*' :: rest => .ok (some (space, none, rest))
    | .name n :: rest => .ok (some (space, some n, rest))
    | _ => .error ()
  match ps with
  | .name _ :: .mark '|' :: _ => .error ()
  | .name n :: rest => .ok (some (.implied, some n, rest))
  | .mark '*' :: .mark '|' :: rest => behindBar .any rest
  | .mark '*' :: rest => .ok (some (.implied, none, rest))
  | .mark '|' :: rest => behindBar .empty rest
  | _ => .ok none

/-- The name of an attribute; whether it may belong to any space; and what follows. -/
def readAttributeName? : List Piece → Option (Bool × String × List Piece)
  | .name _ :: .mark '|' :: _ => none
  | .name n :: rest => some (false, n, rest)
  | .mark '*' :: .mark '|' :: .name n :: rest => some (true, n, rest)
  | .mark '|' :: .name n :: rest => some (false, n, rest)
  | _ => none

def comparison? : Piece → Option Comparison
  | .mark '=' => some .equal
  | .includes => some .includes
  | .dash => some .dash
  | .starts => some .starts
  | .ends => some .ends
  | .contains => some .contains
  | _ => none

/-- The rule on case behind a value. -/
def caseRule? (ps : List Piece) : Option CaseRule :=
  match dropSpace ps with
  | [] => some .byName
  | .name n :: rest =>
    if (dropSpace rest).isEmpty then
      if Text.lowerAscii n == "i" then some .insensitive
      else if Text.lowerAscii n == "s" then some .sensitive
      else none
    else none
  | _ => none

/-- A condition on an attribute. -/
def readAttribute? (ps : List Piece) : Option Simple := do
  let (anySpace, name, rest) ← readAttributeName? (dropSpace ps)
  match dropSpace rest with
  | [] => some (.attribute anySpace name none)
  | op :: rest => do
    let comparison ← comparison? op
    let (value, rest) ← match dropSpace rest with
      | .name v :: rest => some (v, rest)
      | .text v :: rest => some (v, rest)
      | _ => none
    some (.attribute anySpace name (some (comparison, value, ← caseRule? rest)))

/-! ## Places among siblings -/

/-- The number behind `n-` in a name such as `n-3`. -/
def dashDigits? (s : String) : Option Int :=
  match s.toList with
  | n :: '-' :: d :: rest =>
    if n.toLower == 'n' && (d :: rest).all Char.isDigit then
      some (-((d :: rest).foldl (fun k c =>
        min (k * 10 + (c.toNat - '0'.toNat)) Piece.numberBound) 0 : Nat))
    else none
  | _ => none

/-- A number without sign behind a sign that stands alone. -/
def readUnsigned? (sign : Int) (ps : List Piece) : Option (Int × List Piece) :=
  match dropSpace ps with
  | .number false (some b) :: rest => some (sign * b, rest)
  | _ => none

/-- The offset behind a step. -/
def readOffset? (ps : List Piece) : Option (Int × List Piece) :=
  match dropSpace ps with
  | .mark '+' :: rest => readUnsigned? 1 rest
  | .mark '-' :: rest => readUnsigned? (-1) rest
  | .number true (some b) :: rest => some (b, rest)
  | rest => some (0, rest)

/-- A step with the rest of the name that it begins: `n`, `n-` or `n-3`. -/
def readStep? (step : Int) (unit : String) (rest : List Piece) : Option (Int × Int × List Piece) :=
  let unit := Text.lowerAscii unit
  if unit == "n" then (readOffset? rest).map fun (b, rest) => (step, b, rest)
  else if unit == "n-" then (readUnsigned? (-1) rest).map fun (b, rest) => (step, b, rest)
  else (dashDigits? unit).map fun b => (step, b, rest)

/-- Step and offset of a place among siblings. -/
def readNth? (ps : List Piece) : Option (Int × Int × List Piece) :=
  match dropSpace ps with
  | .number _ (some b) :: rest => some (0, b, rest)
  | .dimension (some a) unit :: rest => readStep? a unit rest
  | .name n :: rest =>
    if Text.lowerAscii n == "even" then some (2, 0, rest)
    else if Text.lowerAscii n == "odd" then some (2, 1, rest)
    else
      match n.toList with
      | '-' :: unit => readStep? (-1) (String.ofList unit) rest
      | _ => readStep? 1 n rest
  | .mark '+' :: .name n :: rest => readStep? 1 n rest
  | _ => none

/-- A condition on the place among siblings. -/
def nthOf? (counting : Counting) (ps : List Piece) : Option Simple := do
  let (step, offset, rest) ← readNth? ps
  if (dropSpace rest).isEmpty then some (.nth step offset counting) else none

/-- A test that has no parentheses. -/
def plainTest? (name : String) : Option Simple :=
  match Text.lowerAscii name with
  | "first-child" => some (.nth 0 1 ⟨false, false⟩)
  | "last-child" => some (.nth 0 1 ⟨false, true⟩)
  | "only-child" => some (.only false)
  | "first-of-type" => some (.nth 0 1 ⟨true, false⟩)
  | "last-of-type" => some (.nth 0 1 ⟨true, true⟩)
  | "only-of-type" => some (.only true)
  | "root" => some .root
  | "empty" => some .empty
  | "scope" => some .scope
  | _ => none

/-! ## Compounds and alternatives -/

/-- The combinator in front of pieces and what follows it. -/
def readCombinator? (ps : List Piece) : Option (Combinator × List Piece) :=
  match dropSpace ps with
  | [] => none
  | .mark '>' :: rest => some (.child, rest)
  | .mark '+' :: rest => some (.nextSibling, rest)
  | .mark '~' :: rest => some (.laterSibling, rest)
  | rest =>
    match ps with
    | .space :: _ => some (.descendant, rest)
    | _ => none

/-- The condition of a type name. -/
def typeConditions : NameSpace × Option String → List Simple
  | (.empty, _) => [.nothing]
  | (_, none) => [.any]
  | (_, some n) => [.type n]

/-- Where a selector stands: on its own, relative to an element, and whether selectors relative to
elements may stand within it. -/
structure Setting where
  relative : Bool
  allowsHas : Bool
deriving DecidableEq, Repr

mutual

/-- One condition; `none` if no condition begins here, and a fault for one that cannot be. -/
def readSimple : Nat → Setting → List Piece → Except Unit (Option (Simple × List Piece))
  | 0, _, _ => .error ()
  | fuel + 1, setting, ps =>
    let found (s : Option Simple) (rest : List Piece) : Except Unit (Option (Simple × List Piece)) :=
      match s with
      | some s => .ok (some (s, rest))
      | none => .error ()
    match ps with
    | .hash true name :: rest => .ok (some (.id name, rest))
    | .mark '.' :: .name n :: rest => .ok (some (.classed n, rest))
    | .mark '.' :: _ => .error ()
    | .square items :: rest => found (readAttribute? items) rest
    | .mark ':' :: .name n :: rest => found (plainTest? n) rest
    | .mark ':' :: .function n items :: rest =>
      match Text.lowerAscii n with
      | "nth-child" => found (nthOf? ⟨false, false⟩ items) rest
      | "nth-last-child" => found (nthOf? ⟨false, true⟩ items) rest
      | "nth-of-type" => found (nthOf? ⟨true, false⟩ items) rest
      | "nth-last-of-type" => found (nthOf? ⟨true, true⟩ items) rest
      | "is" => found ((readForgiving? fuel ⟨false, setting.allowsHas⟩ (splitCommas items)).map .isAny) rest
      | "where" =>
        found ((readForgiving? fuel ⟨false, setting.allowsHas⟩ (splitCommas items)).map .isAny) rest
      | "not" => found ((readList? fuel ⟨false, setting.allowsHas⟩ (splitCommas items)).map .not) rest
      | "has" =>
        if setting.allowsHas then
          found ((readList? fuel ⟨true, false⟩ (splitCommas items)).map .has) rest
        else .error ()
      | _ => .error ()
    | .mark ':' :: _ => .error ()
    | _ => .ok none

/-- All conditions on one element, behind those that are `done`, and what follows. -/
def readConditions? : Nat → Setting → List Simple → List Piece → Option (List Simple × List Piece)
  | 0, _, _, _ => none
  | fuel + 1, setting, done, ps =>
    match readSimple fuel setting ps with
    | .error () => none
    | .ok none => some (done.reverse, ps)
    | .ok (some (s, rest)) => readConditions? fuel setting (s :: done) rest

/-- The conditions on one element, of which there has to be one. -/
def readCompound? : Nat → Setting → List Piece → Option (List Simple × List Piece)
  | 0, _, _ => none
  | fuel + 1, setting, ps => do
    let ps := dropSpace ps
    let (type, rest) : List Simple × List Piece ← match readTypeName ps with
      | .error () => none
      | .ok none => some ([], ps)
      | .ok (some (space, name, rest)) => some (typeConditions (space, name), rest)
    let (conditions, rest) ← readConditions? fuel setting type.reverse rest
    if conditions.isEmpty then none else some (conditions, rest)

/-- The rest of an alternative behind a compound; `context` holds what is before it. -/
def readAlternative? : Nat → Setting → List Simple → List (Combinator × List Simple) →
    List Piece → Option Complex
  | 0, _, _, _, _ => none
  | fuel + 1, setting, subject, context, ps =>
    match readCombinator? ps with
    | none => if (dropSpace ps).isEmpty then some (.mk subject context) else none
    | some (combinator, rest) => do
      let (next, rest) ← readCompound? fuel setting rest
      readAlternative? fuel setting next ((combinator, subject) :: context) rest

/-- A whole alternative. One that is relative begins at an element that is given. -/
def readComplex? : Nat → Setting → List Piece → Option Complex
  | 0, _, _ => none
  | fuel + 1, setting, ps =>
    if setting.relative then do
      let (combinator, rest) := (readCombinator? (.space :: ps)).getD (.descendant, ps)
      let (subject, rest) ← readCompound? fuel setting rest
      readAlternative? fuel setting subject [(combinator, [.anchor])] rest
    else do
      let (subject, rest) ← readCompound? fuel setting ps
      readAlternative? fuel setting subject [] rest

/-- All alternatives. -/
def readList? : Nat → Setting → List (List Piece) → Option (List Complex)
  | _, _, [] => some []
  | 0, _, _ => none
  | fuel + 1, setting, part :: parts => do
    let c ← readComplex? fuel setting part
    let rest ← readList? fuel setting parts
    some (c :: rest)

/-- All alternatives, with one that nothing fulfils for each that cannot be read. -/
def readForgiving? : Nat → Setting → List (List Piece) → Option (List Complex)
  | _, _, [] => some []
  | 0, _, _ => none
  | fuel + 1, setting, part :: parts => do
    let c ← match readComplex? fuel setting part with
      | some c => some c
      | none => if hasBroken part then none else some (.mk [.invalid] [])
    let rest ← readForgiving? fuel setting parts
    some (c :: rest)

end

/-- The alternatives of a text. -/
def parse? (s : String) : Option (List Complex) :=
  readList? (4 * s.length + 16) ⟨false, true⟩ (splitCommas (Piece.ofText s))

end CrawlMesh.Selector
