/-
# Building a page

The state in which a page is built from its tokens, and the operations on it: the elements that
are open, innermost first; the formatting elements that are to be opened again; and where the
next node goes, which is in front of a table for what has no place in it.
-/
import CrawlMesh.Html.Vocabulary

namespace CrawlMesh.Html

set_option autoImplicit false

/-- Where in a page its text stands. -/
inductive Mode
  | initial
  | beforeHtml
  | beforeHead
  | inHead
  | afterHead
  | inBody
  | text
  | inTable
  | inTableText
  | inCaption
  | inColumnGroup
  | inTableBody
  | inRow
  | inCell
  | inSelect
  | inSelectInTable
  | inTemplate
  | afterBody
  | inFrameset
  | afterFrameset
  | afterAfterBody
  | afterAfterFrameset
deriving DecidableEq, Repr, Inhabited

/-- A formatting element that may be opened again, or a mark that none before it is. -/
inductive Formatting
  | mark
  | element (node : Nat) (name : String) (attributes : List RawAttribute)
deriving DecidableEq, Repr, Inhabited

/-- A page under construction. `openElements` lists the open elements, innermost first, and
`formatting` the formatting elements, first one first. -/
structure Builder where
  document : Document
  mode : Mode
  returnMode : Mode
  templateModes : List Mode
  openElements : List Nat
  formatting : List Formatting
  head : Option Nat
  form : Option Nat
  framesetAllowed : Bool
  skipLineBreak : Bool
  foster : Bool
  old : Bool
  tableText : List Token
  lexer : TextMode
deriving Inhabited

/-- An action on a page under construction. -/
abbrev Build := StateM Builder

/-- A page before its first token. -/
def Builder.start : Builder where
  document := .empty
  mode := .initial
  returnMode := .initial
  templateModes := []
  openElements := []
  formatting := []
  head := none
  form := none
  framesetAllowed := true
  skipLineBreak := false
  foster := false
  old := false
  tableText := []
  lexer := .markup

namespace Build

/-! ## Reading the state -/

/-- The element of a node. -/
def elementAt (b : Builder) (i : Nat) : Element := (b.document.element? i).getD ⟨.html, "", []⟩

/-- Is a node an element of a page with one of these names? -/
def named (b : Builder) (names : List String) (i : Nat) : Bool :=
  isHtmlNamed names (elementAt b i)

/-- The innermost open element; the document if there is none. -/
def current (b : Builder) : Nat := b.openElements.head?.getD 0

def currentNamed (b : Builder) (names : List String) : Bool :=
  !b.openElements.isEmpty && named b names (current b)

/-- Is an open element with one of these names found before the search ends? -/
def inScope (b : Builder) (ends : Element → Bool) (names : List String) : Bool :=
  search b.openElements
where
  /-- Search from the innermost element on. -/
  search : List Nat → Bool
    | [] => false
    | i :: rest =>
      if named b names i then true
      else if ends (elementAt b i) then false
      else search rest

/-- Is a certain open element found before the search ends? -/
def nodeInScope (b : Builder) (ends : Element → Bool) (node : Nat) : Bool :=
  search b.openElements
where
  /-- Search from the innermost element on. -/
  search : List Nat → Bool
    | [] => false
    | i :: rest => if i == node then true else if ends (elementAt b i) then false else search rest

def hasTemplate (b : Builder) : Bool := b.openElements.any (named b ["template"])

/-! ## Open elements -/

def setMode (m : Mode) : Build Unit := modify fun b => { b with mode := m }

def push (i : Nat) : Build Unit := modify fun b => { b with openElements := i :: b.openElements }

def pop : Build Unit := modify fun b => { b with openElements := b.openElements.drop 1 }

/-- Close open elements up to and with the first that satisfies `p`. -/
def popThrough (p : Builder → Nat → Bool) : Build Unit :=
  modify fun b =>
    { b with openElements := (b.openElements.dropWhile fun i => !p b i).drop 1 }

def popUntilNamed (names : List String) : Build Unit := popThrough fun b i => named b names i

/-- Close open elements up to but without the first with one of these names. -/
def clearBackTo (names : List String) : Build Unit :=
  modify fun b => { b with openElements := b.openElements.dropWhile fun i => !named b names i }

/-- Close the elements whose end tags may be left out. -/
def closeImplied (names : List String) (except : List String) : Build Unit :=
  modify fun b =>
    { b with openElements := b.openElements.dropWhile fun i =>
        named b names i && !named b except i }

def removeOpen (i : Nat) : Build Unit :=
  modify fun b => { b with openElements := b.openElements.filter (· != i) }

/-! ## Putting nodes in -/

/-- Where a node goes: behind the children of a node, or in front of a node. -/
inductive Place
  | inside (parent : Nat)
  | before (sibling : Nat)
deriving Repr

/-- Inside a node, or inside its content if it is a template. -/
def insideOf (b : Builder) (i : Nat) : Place :=
  if named b ["template"] i then .inside (b.document.content i) else .inside i

/-- Where what has no place in a table goes. -/
def fosterPlace (b : Builder) : Place :=
  search b.openElements
where
  /-- Search for the innermost template or table. -/
  search : List Nat → Place
    | [] => .inside (b.openElements.getLast?.getD 0)
    | i :: rest =>
      if named b ["template"] i then .inside (b.document.content i)
      else if named b ["table"] i then
        if (b.document.parent? i).isSome then .before i else .inside (rest.head?.getD 0)
      else search rest

/-- Where the next node goes, below `target`. -/
def placeFor (b : Builder) (target : Nat) : Place :=
  if b.foster && named b ["table", "tbody", "tfoot", "thead", "tr"] target then fosterPlace b
  else insideOf b target

/-- Put a node at a place. -/
def putAt (place : Place) (i : Nat) : Build Unit :=
  modify fun b => { b with document := match place with
    | .inside p => b.document.append p i
    | .before s => b.document.insertBefore s i }

def create (kind : NodeKind) : Build Nat :=
  modifyGet fun b =>
    let (i, d) := b.document.create kind
    (i, { b with document := d })

/-- Create an element; a template gets its fragment. -/
def createElement (v : Vocabulary) (name : String) (attributes : List RawAttribute) : Build Nat := do
  let i ← create (.element (elementOf v name attributes))
  if v == .html && name == "template" then
    let f ← create .fragment
    modify fun b => { b with document := b.document.append i f }
  return i

/-- Put text where the next node goes. -/
def insertText (s : String) : Build Unit :=
  modify fun b =>
    if s.isEmpty then b
    else
      { b with document := match placeFor b (current b) with
        | .inside 0 => b.document
        | .inside p => b.document.appendText p s
        | .before n => b.document.insertTextBefore n s }

def insertComment (s : String) : Build Unit := do
  let i ← create (.comment s)
  let b ← get
  putAt (placeFor b (current b)) i

/-- Put a comment behind the children of a certain node. -/
def insertCommentIn (parent : Nat) (s : String) : Build Unit := do
  let i ← create (.comment s)
  putAt (.inside parent) i

/-- Put in an element and open it. -/
def insertIn (v : Vocabulary) (name : String) (attributes : List RawAttribute) : Build Nat := do
  let i ← createElement v name attributes
  let b ← get
  putAt (placeFor b (current b)) i
  push i
  return i

def insert (name : String) (attributes : List RawAttribute) : Build Unit := do
  let _ ← insertIn .html name attributes

/-- Put in an element that holds nothing. -/
def insertVoid (name : String) (attributes : List RawAttribute) : Build Unit := do
  insert name attributes
  pop

/-- Give an element the attributes that it does not have yet. -/
def addMissing (i : Nat) (attributes : List RawAttribute) : Build Unit :=
  modify fun b => { b with document := b.document.modify i fun n =>
    match n.kind with
    | .element e =>
      let missing := (attributes.map (attributeOf .html)).filter fun a =>
        !e.attributes.any a.sameName
      { n with kind := .element { e with
        attributes := missing.foldl (fun l a => Attribute.insert a l) e.attributes } }
    | _ => n }

/-- Read the text of an element that was just put in up to its end tag. -/
def enterText (lexer : TextMode) : Build Unit :=
  modify fun b => { b with lexer := lexer, returnMode := b.mode, mode := .text }

def forbidFrameset : Build Unit := modify fun b => { b with framesetAllowed := false }

/-! ## Paragraphs -/

def closeParagraph : Build Unit := do
  closeImplied impliedEnds ["p"]
  popUntilNamed ["p"]

/-- Close the paragraph that is open, if there is one. -/
def closeParagraphInScope : Build Unit := do
  if inScope (← get) endsButtonScope ["p"] then closeParagraph

/-! ## Formatting elements -/

/-- The formatting elements behind the last mark, last one first. -/
def recentFormatting (b : Builder) : List (Nat × String × List RawAttribute) :=
  go b.formatting.reverse
where
  /-- Collect up to a mark. -/
  go : List Formatting → List (Nat × String × List RawAttribute)
    | .element i name attributes :: rest => (i, name, attributes) :: go rest
    | _ => []

/-- Are the attributes of two tags the same, in whatever order? -/
def sameAttributes (a b : List RawAttribute) : Bool :=
  a.length == b.length && a.all b.contains

def removeFormatting (i : Nat) : Build Unit :=
  modify fun b => { b with formatting := b.formatting.filter fun f =>
    match f with
    | .element j _ _ => j != i
    | .mark => true }

/-- Remember a formatting element. Of elements with the same tag at most three are remembered. -/
def pushFormatting (i : Nat) (name : String) (attributes : List RawAttribute) : Build Unit := do
  let alike := (recentFormatting (← get)).filter fun (_, n, as) =>
    n == name && sameAttributes as attributes
  match alike[2]? with
  | some (j, _, _) => removeFormatting j
  | none => pure ()
  modify fun b => { b with formatting := b.formatting ++ [.element i name attributes] }

def pushMark : Build Unit := modify fun b => { b with formatting := b.formatting ++ [.mark] }

/-- Forget the formatting elements behind the last mark, and the mark. -/
def clearToMark : Build Unit :=
  modify fun b => { b with
    formatting := ((b.formatting.reverse.dropWhile (· != .mark)).drop 1).reverse }

/-- Put an element in the place of a remembered one. -/
def replaceFormatting (old new : Nat) : Build Unit :=
  modify fun b => { b with formatting := b.formatting.map fun f =>
    match f with
    | .element j name attributes => if j == old then .element new name attributes else f
    | .mark => f }

/-- Open the formatting elements that are remembered but not open. -/
def reopenFormatting : Build Unit := do
  let b ← get
  let closed := ((recentFormatting b).takeWhile fun f => !b.openElements.contains f.1).reverse
  for (i, name, attributes) in closed do
    let j ← insertIn .html name attributes
    replaceFormatting i j

/-! ## Which mode follows -/

/-- The mode for a list of options, from the elements around it. -/
def selectMode (b : Builder) : List Nat → Mode
  | [] => .inSelect
  | i :: rest =>
    if named b ["template"] i then .inSelect
    else if named b ["table"] i then .inSelectInTable
    else selectMode b rest

/-- The mode that the open elements ask for, innermost first. -/
def modeFor (b : Builder) : List Nat → Mode
  | [] => .inBody
  | i :: rest =>
    let last := rest.isEmpty
    if named b ["select"] i then selectMode b rest
    else if named b ["td", "th"] i && !last then .inCell
    else if named b ["tr"] i then .inRow
    else if named b ["tbody", "thead", "tfoot"] i then .inTableBody
    else if named b ["caption"] i then .inCaption
    else if named b ["colgroup"] i then .inColumnGroup
    else if named b ["table"] i then .inTable
    else if named b ["template"] i then b.templateModes.head?.getD .inBody
    else if named b ["head"] i && !last then .inHead
    else if named b ["body"] i then .inBody
    else if named b ["frameset"] i then .inFrameset
    else if named b ["html"] i then if b.head.isNone then .beforeHead else .afterHead
    else if last then .inBody
    else modeFor b rest

def resetMode : Build Unit := modify fun b => { b with mode := modeFor b b.openElements }

/-! ## Misnested formatting -/

/-- An end tag without a rule of its own: it closes the innermost element of its name, unless a
block is open inside that. -/
def closeOther (name : String) : Build Unit :=
  modify fun b =>
    match search b b.openElements with
    | none => b
    | some i =>
      let opened := b.openElements.dropWhile fun j =>
        named b impliedEnds j && !named b [name] j
      { b with openElements := (opened.dropWhile (· != i)).drop 1 }
where
  /-- The element that is closed. -/
  search (b : Builder) : List Nat → Option Nat
    | [] => none
    | i :: rest =>
      if named b [name] i then some i
      else if isSpecial (elementAt b i) then none
      else search b rest

/-- The state of a walk from a block up to a formatting element: the node that was placed last,
where in the formatting elements the new one goes (behind that node, if there is one), the count
of steps, and the elements that are still above. -/
structure Climb where
  last : Nat
  bookmark : Option Nat
  steps : Nat

/-- Walk from the block up to the formatting element, opening the formatting elements in between
anew around what was placed last and closing everything else. -/
def climb (formatting block : Nat) : List Nat → Climb → Build Climb
  | [], c => pure c
  | node :: above, c => do
    if node == formatting then return c
    let steps := c.steps + 1
    let remembered := (← get).formatting.findSome? fun f =>
      match f with
      | .element j name attributes => if j == node then some (name, attributes) else none
      | .mark => none
    match remembered with
    | none =>
      removeOpen node
      climb formatting block above { c with steps := steps }
    | some (name, attributes) =>
      if steps > 3 then
        removeFormatting node
        removeOpen node
        climb formatting block above { c with steps := steps }
      else
        let new ← createElement .html name attributes
        replaceFormatting node new
        modify fun b => { b with openElements := b.openElements.map fun j =>
          if j == node then new else j }
        putAt (.inside new) c.last
        climb formatting block above
          ⟨new, if c.last == block then some new else c.bookmark, steps⟩

/-- Put a remembered formatting element behind another one, or in the place of an old one. -/
def placeFormatting (old : Nat) (bookmark : Option Nat) (entry : Formatting) : Build Unit :=
  modify fun b =>
    let isNode (i : Nat) (f : Formatting) : Bool := match f with
      | .element j _ _ => j == i
      | .mark => false
    match bookmark with
    | none => { b with formatting := b.formatting.map fun f => if isNode old f then entry else f }
    | some i =>
      let without := b.formatting.filter (!isNode old ·)
      { b with formatting := without.flatMap fun f => if isNode i f then [f, entry] else [f] }

/-- One round of closing a formatting element across blocks; the answer tells whether another
round may follow. -/
def adoptOnce (subject : String) : Build Bool := do
  let b ← get
  match (recentFormatting b).find? fun f => f.2.1 == subject with
  | none =>
    closeOther subject
    return false
  | some (formatting, name, attributes) =>
    if !b.openElements.contains formatting then
      removeFormatting formatting
      return false
    if !nodeInScope b endsScope formatting then return false
    let inner := b.openElements.takeWhile (· != formatting)
    match (inner.reverse.find? fun i => isSpecial (elementAt b i)) with
    | none =>
      popThrough fun _ i => i == formatting
      removeFormatting formatting
      return false
    | some block =>
      let outer := (b.openElements.dropWhile (· != formatting)).drop 1
      let ancestor := outer.head?.getD 0
      let above := (b.openElements.dropWhile (· != block)).drop 1
      let c ← climb formatting block above ⟨block, none, 0⟩
      let b ← get
      modify fun b => { b with document := b.document.detach c.last }
      putAt (placeFor b ancestor) c.last
      let new ← createElement .html name attributes
      modify fun b => { b with document := b.document.moveChildren block new }
      putAt (.inside block) new
      placeFormatting formatting c.bookmark (.element new name attributes)
      removeOpen formatting
      modify fun b => { b with openElements := b.openElements.flatMap fun j =>
        if j == block then [new, j] else [j] }
      return true

/-- Run up to `n` rounds. -/
def adoptRounds (subject : String) : Nat → Build Unit
  | 0 => pure ()
  | n + 1 => do
    if ← adoptOnce subject then adoptRounds subject n

/-- Close a formatting element, across blocks if need be. -/
def adopt (subject : String) : Build Unit := do
  let b ← get
  let i := current b
  if currentNamed b [subject] && !(b.formatting.any fun f => match f with
    | .element j _ _ => j == i
    | .mark => false)
  then pop
  else adoptRounds subject 8

end Build

end CrawlMesh.Html
