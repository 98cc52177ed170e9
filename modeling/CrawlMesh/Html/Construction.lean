/-
# The construction of a page

The rules by which tokens become the tree of a page, one table of rules for each mode. A rule
either finishes with the token, asks for the token to be taken again in the mode that is then in
force, or leaves it to the rules of another mode. Every text makes a page.
-/
import CrawlMesh.Html.Builder
import CrawlMesh.Html.Lexer

namespace CrawlMesh.Html

set_option autoImplicit false

/-- What a rule says about its token. -/
inductive Next
  | done
  | again
  | using (mode : Mode)
  | fostered
deriving DecidableEq, Repr

namespace Construction

open Build

/-- Is a token a run of blanks? -/
def isBlankText : Token → Bool
  | .chars s => s.toList.all isSpace
  | _ => false

/-- Go to a mode and take the token again there. -/
def retryIn (m : Mode) : Build Next := do
  setMode m
  return .again

/-- Put in an element and go to a mode. -/
def insertAndGo (name : String) (attributes : List RawAttribute) (m : Mode) : Build Next := do
  insert name attributes
  setMode m
  return .done

/-! ## Before the body -/

def initial (t : Token) : Build Next := do
  match t with
  | .comment s =>
    insertCommentIn 0 s
    return .done
  | .doctype d =>
    let i ← create (.doctype (d.name.getD ""))
    putAt (.inside 0) i
    modify fun b => { b with old := d.isOld }
    setMode .beforeHtml
    return .done
  | t =>
    if isBlankText t then return .done
    modify fun b => { b with old := true }
    retryIn .beforeHtml

/-- Put in the outermost element. -/
def openHtml (attributes : List RawAttribute) : Build Unit := do
  let i ← createElement .html "html" attributes
  putAt (.inside 0) i
  push i
  setMode .beforeHead

/-- End tags that are heard before there is a body. -/
def earlyEnds : List String := ["head", "body", "html", "br"]

def beforeHtml (t : Token) : Build Next := do
  match t with
  | .doctype _ => return .done
  | .comment s =>
    insertCommentIn 0 s
    return .done
  | .startTag "html" attributes _ =>
    openHtml attributes
    return .done
  | .endTag name =>
    if !earlyEnds.contains name then return .done
    openHtml []
    return .again
  | t =>
    if isBlankText t then return .done
    openHtml []
    return .again

/-- Put in the head. -/
def openHead (attributes : List RawAttribute) : Build Unit := do
  let i ← insertIn .html "head" attributes
  modify fun b => { b with head := some i }
  setMode .inHead

def beforeHead (t : Token) : Build Next := do
  match t with
  | .doctype _ => return .done
  | .comment s =>
    insertComment s
    return .done
  | .startTag "html" _ _ => return .using .inBody
  | .startTag "head" attributes _ =>
    openHead attributes
    return .done
  | .endTag name =>
    if !earlyEnds.contains name then return .done
    openHead []
    return .again
  | t =>
    if isBlankText t then return .done
    openHead []
    return .again

/-- Leave the head and take the token again. -/
def leaveHead : Build Next := do
  pop
  retryIn .afterHead

/-- Close a template. -/
def closeTemplate : Build Next := do
  if hasTemplate (← get) then
    closeImplied thoroughlyImpliedEnds []
    popUntilNamed ["template"]
    clearToMark
    modify fun b => { b with templateModes := b.templateModes.drop 1 }
    resetMode
  return .done

/-- Put in an element with text of its own. -/
def insertWithText (name : String) (attributes : List RawAttribute) (lexer : TextMode) :
    Build Next := do
  insert name attributes
  enterText lexer
  return .done

def inHead (t : Token) : Build Next := do
  match t with
  | .doctype _ => return .done
  | .comment s =>
    insertComment s
    return .done
  | .startTag name attributes _ =>
    if name == "html" then return .using .inBody
    else if ["base", "basefont", "bgsound", "link", "meta"].contains name then
      insertVoid name attributes
      return .done
    else if name == "title" then insertWithText name attributes (.escapable name)
    else if ["noframes", "style", "noscript"].contains name then
      insertWithText name attributes (.raw name)
    else if name == "script" then insertWithText name attributes .script
    else if name == "template" then
      insert name attributes
      pushMark
      forbidFrameset
      setMode .inTemplate
      modify fun b => { b with templateModes := .inTemplate :: b.templateModes }
      return .done
    else if name == "head" then return .done
    else leaveHead
  | .endTag name =>
    if name == "head" then
      pop
      setMode .afterHead
      return .done
    else if name == "template" then closeTemplate
    else if ["body", "html", "br"].contains name then leaveHead
    else return .done
  | t =>
    if isBlankText t then
      if let .chars s := t then insertText s
      return .done
    else leaveHead

/-- Put in a body for what comes without one. -/
def openBody : Build Next := do
  insert "body" []
  retryIn .inBody

/-- Elements that belong into the head even behind it. -/
def headNames : List String :=
  ["base", "basefont", "bgsound", "link", "meta", "noframes", "script", "style", "template",
    "title"]

def afterHead (apply : Mode → Token → Build Next) (t : Token) : Build Next := do
  match t with
  | .doctype _ => return .done
  | .comment s =>
    insertComment s
    return .done
  | .startTag name attributes _ =>
    if name == "html" then return .using .inBody
    else if name == "body" then
      forbidFrameset
      insertAndGo name attributes .inBody
    else if name == "frameset" then insertAndGo name attributes .inFrameset
    else if headNames.contains name then
      match (← get).head with
      | none => return .done
      | some head =>
        push head
        let r ← apply .inHead t
        removeOpen head
        return r
    else if name == "head" then return .done
    else openBody
  | .endTag name =>
    if name == "template" then return .using .inHead
    else if ["body", "html", "br"].contains name then openBody
    else return .done
  | t =>
    if isBlankText t then
      if let .chars s := t then insertText s
      return .done
    else openBody

/-! ## The body -/

/-- Close list items that stand open when another one begins. -/
def closeItems (names : List String) : List Nat → Build Unit
  | [] => pure ()
  | i :: rest => do
    let b ← get
    if named b names i then
      let name := (elementAt b i).name
      closeImplied impliedEnds [name]
      popUntilNamed [name]
    else if isSpecial (elementAt b i) && !named b ["address", "div", "p"] i then pure ()
    else closeItems names rest

/-- The outermost element but one, if it is a body. -/
def bodyNode (b : Builder) : Option Nat :=
  match b.openElements.reverse with
  | _ :: i :: _ => if named b ["body"] i then some i else none
  | _ => none

def bodyStart (t : Token) (name : String) (attributes : List RawAttribute) (selfClosing : Bool) :
    Build Next := do
  let b ← get
  if name == "html" then
    if !hasTemplate b then
      if let some i := b.openElements.getLast? then addMissing i attributes
    return .done
  else if headNames.contains name then return .using .inHead
  else if name == "body" then
    if let some i := bodyNode b then
      if !hasTemplate b then
        forbidFrameset
        addMissing i attributes
    return .done
  else if name == "frameset" then
    if let some i := bodyNode b then
      if b.framesetAllowed then
        modify fun b => { b with
          document := b.document.detach i
          openElements := (b.openElements.reverse.take 1) }
        return ← insertAndGo name attributes .inFrameset
    return .done
  else if blocks.contains name || name == "p" then
    closeParagraphInScope
    insert name attributes
    return .done
  else if headings.contains name then
    closeParagraphInScope
    if currentNamed (← get) headings then pop
    insert name attributes
    return .done
  else if name == "pre" || name == "listing" then
    closeParagraphInScope
    insert name attributes
    forbidFrameset
    modify fun b => { b with skipLineBreak := true }
    return .done
  else if name == "form" then
    if b.form.isNone || hasTemplate b then
      closeParagraphInScope
      let i ← insertIn .html name attributes
      if !hasTemplate b then modify fun b => { b with form := some i }
    return .done
  else if ["li", "dd", "dt"].contains name then
    forbidFrameset
    closeItems (if name == "li" then ["li"] else ["dd", "dt"]) b.openElements
    closeParagraphInScope
    insert name attributes
    return .done
  else if name == "plaintext" then
    closeParagraphInScope
    insert name attributes
    modify fun b => { b with lexer := .plain }
    return .done
  else if name == "button" then
    if inScope b endsScope ["button"] then
      closeImplied impliedEnds []
      popUntilNamed ["button"]
    reopenFormatting
    insert name attributes
    forbidFrameset
    return .done
  else if name == "a" then
    if let some (i, _, _) := (recentFormatting b).find? fun f => f.2.1 == "a" then
      adopt "a"
      removeFormatting i
      removeOpen i
    reopenFormatting
    let i ← insertIn .html name attributes
    pushFormatting i name attributes
    return .done
  else if formattingNames.contains name then
    reopenFormatting
    let i ← insertIn .html name attributes
    pushFormatting i name attributes
    return .done
  else if name == "nobr" then
    reopenFormatting
    if inScope (← get) endsScope ["nobr"] then
      adopt "nobr"
      reopenFormatting
    let i ← insertIn .html name attributes
    pushFormatting i name attributes
    return .done
  else if ["applet", "marquee", "object"].contains name then
    reopenFormatting
    insert name attributes
    pushMark
    forbidFrameset
    return .done
  else if name == "table" then
    if !b.old then closeParagraphInScope
    forbidFrameset
    insertAndGo name attributes .inTable
  else if ["area", "br", "embed", "img", "keygen", "wbr", "image"].contains name then
    reopenFormatting
    insertVoid (if name == "image" then "img" else name) attributes
    forbidFrameset
    return .done
  else if name == "input" then
    reopenFormatting
    insertVoid name attributes
    if !(attributes.any fun (n, v) => n == "type" && v.toList.map Char.toLower == "hidden".toList)
    then forbidFrameset
    return .done
  else if ["param", "source", "track"].contains name then
    insertVoid name attributes
    return .done
  else if name == "hr" then
    closeParagraphInScope
    insertVoid name attributes
    forbidFrameset
    return .done
  else if name == "textarea" then
    forbidFrameset
    modify fun b => { b with skipLineBreak := true }
    insertWithText name attributes (.escapable name)
  else if name == "xmp" then
    closeParagraphInScope
    reopenFormatting
    forbidFrameset
    insertWithText name attributes (.raw name)
  else if name == "iframe" then
    forbidFrameset
    insertWithText name attributes (.raw name)
  else if name == "noembed" || name == "noscript" then insertWithText name attributes (.raw name)
  else if name == "select" then
    reopenFormatting
    insert name attributes
    forbidFrameset
    setMode (if [Mode.inTable, .inCaption, .inTableBody, .inRow, .inCell].contains b.mode then
      .inSelectInTable else .inSelect)
    return .done
  else if name == "optgroup" || name == "option" then
    if currentNamed b ["option"] then pop
    reopenFormatting
    insert name attributes
    return .done
  else if ["rb", "rtc", "rp", "rt"].contains name then
    if inScope b endsScope ["ruby"] then
      closeImplied impliedEnds (if name == "rp" || name == "rt" then ["rtc"] else [])
    insert name attributes
    return .done
  else if name == "math" || name == "svg" then
    reopenFormatting
    let _ ← insertIn (if name == "svg" then .svg else .mathml) name attributes
    if selfClosing then pop
    return .done
  else if ["caption", "col", "colgroup", "frame", "head", "tbody", "td", "tfoot", "th", "thead",
      "tr"].contains name then
    return .done
  else
    let _ := t
    reopenFormatting
    insert name attributes
    return .done

/-- Close an element of one of these names that is in scope. -/
def closeInScope (ends : Element → Bool) (names except : List String) : Build Unit := do
  if inScope (← get) ends names then
    closeImplied impliedEnds except
    popUntilNamed names

def bodyEnd (name : String) : Build Next := do
  let b ← get
  if name == "template" then return .using .inHead
  else if name == "body" || name == "html" then
    if inScope b endsScope ["body"] then
      setMode .afterBody
      return if name == "html" then .again else .done
    return .done
  else if ["button", "listing", "pre"].contains name || blocks.contains name then
    closeInScope endsScope [name] []
    return .done
  else if name == "form" then
    if hasTemplate b then closeInScope endsScope ["form"] []
    else
      modify fun b => { b with form := none }
      if let some i := b.form then
        if nodeInScope b endsScope i then
          closeImplied impliedEnds []
          removeOpen i
    return .done
  else if name == "p" then
    if !inScope b endsButtonScope ["p"] then insert "p" []
    closeParagraph
    return .done
  else if name == "li" then
    closeInScope endsListScope ["li"] ["li"]
    return .done
  else if name == "dd" || name == "dt" then
    closeInScope endsScope [name] [name]
    return .done
  else if headings.contains name then
    closeInScope endsScope headings []
    return .done
  else if formattingNames.contains name || name == "a" || name == "nobr" then
    adopt name
    return .done
  else if ["applet", "marquee", "object"].contains name then
    if inScope b endsScope [name] then
      closeInScope endsScope [name] []
      clearToMark
    return .done
  else if name == "br" then
    reopenFormatting
    insertVoid "br" []
    forbidFrameset
    return .done
  else
    closeOther name
    return .done

def inBody (t : Token) : Build Next := do
  match t with
  | .nul => return .done
  | .doctype _ => return .done
  | .chars s =>
    reopenFormatting
    insertText s
    if !isBlankText t then forbidFrameset
    return .done
  | .comment s =>
    insertComment s
    return .done
  | .startTag name attributes selfClosing => bodyStart t name attributes selfClosing
  | .endTag name => bodyEnd name
  | .done => return if (← get).templateModes.isEmpty then .done else .using .inTemplate

/-- Text of an element that holds nothing else. -/
def inText (t : Token) : Build Next := do
  match t with
  | .chars s =>
    insertText s
    return .done
  | t =>
    pop
    modify fun b => { b with mode := b.returnMode, lexer := .markup }
    return if t matches .done then .again else .done

/-! ## Tables -/

def inTable (t : Token) : Build Next := do
  let b ← get
  match t with
  | .doctype _ => return .done
  | .comment s =>
    insertComment s
    return .done
  | .startTag name attributes _ =>
    if name == "caption" then
      clearBackTo ["table", "template", "html"]
      pushMark
      insertAndGo name attributes .inCaption
    else if name == "colgroup" then
      clearBackTo ["table", "template", "html"]
      insertAndGo name attributes .inColumnGroup
    else if name == "col" then
      clearBackTo ["table", "template", "html"]
      insert "colgroup" []
      retryIn .inColumnGroup
    else if ["tbody", "tfoot", "thead"].contains name then
      clearBackTo ["table", "template", "html"]
      insertAndGo name attributes .inTableBody
    else if ["td", "th", "tr"].contains name then
      clearBackTo ["table", "template", "html"]
      insert "tbody" []
      retryIn .inTableBody
    else if name == "table" then
      if inScope b endsTableScope ["table"] then
        popUntilNamed ["table"]
        resetMode
        return .again
      return .done
    else if ["style", "script", "template"].contains name then return .using .inHead
    else if name == "input"
        && attributes.any (fun (n, v) => n == "type" && v.toList.map Char.toLower == "hidden".toList)
    then
      insertVoid name attributes
      return .done
    else if name == "form" then
      if !hasTemplate b && b.form.isNone then
        let i ← insertIn .html name attributes
        modify fun b => { b with form := some i }
        pop
      return .done
    else return .fostered
  | .endTag name =>
    if name == "table" then
      if inScope b endsTableScope ["table"] then
        popUntilNamed ["table"]
        resetMode
      return .done
    else if name == "template" then return .using .inHead
    else if ["body", "caption", "col", "colgroup", "html", "tbody", "td", "tfoot", "th", "thead",
        "tr"].contains name then
      return .done
    else return .fostered
  | .done => return .using .inBody
  | _ =>
    if currentNamed b ["table", "tbody", "tfoot", "thead", "tr", "template"] then
      modify fun b => { b with tableText := [], returnMode := b.mode }
      retryIn .inTableText
    else return .fostered

/-- Text in a table is gathered first: blanks stay where they are, and if there is anything else
all of it goes in front of the table. -/
def inTableText (apply : Mode → Token → Build Next) (t : Token) : Build Next := do
  match t with
  | .nul => return .done
  | .chars _ =>
    modify fun b => { b with tableText := t :: b.tableText }
    return .done
  | _ =>
    let texts := (← get).tableText.reverse
    if texts.all isBlankText then
      for u in texts do
        if let .chars s := u then insertText s
    else
      modify fun b => { b with foster := true }
      for u in texts do
        let _ ← apply .inBody u
      modify fun b => { b with foster := false }
    modify fun b => { b with mode := b.returnMode, tableText := [] }
    return .again

/-- Close the caption of a table; the answer tells whether there was one. -/
def closeCaption : Build Bool := do
  if inScope (← get) endsTableScope ["caption"] then
    closeImplied impliedEnds []
    popUntilNamed ["caption"]
    clearToMark
    setMode .inTable
    return true
  else return false

def inCaption (t : Token) : Build Next := do
  let close (then_ : Next) : Build Next := do
    return if ← closeCaption then then_ else .done
  match t with
  | .endTag name =>
    if name == "caption" then close .done
    else if name == "table" then close .again
    else if ["body", "col", "colgroup", "html", "tbody", "td", "tfoot", "th", "thead",
        "tr"].contains name then
      return .done
    else return .using .inBody
  | .startTag name _ _ =>
    if ["caption", "col", "colgroup", "tbody", "td", "tfoot", "th", "thead", "tr"].contains name
    then close .again
    else return .using .inBody
  | _ => return .using .inBody

def inColumnGroup (t : Token) : Build Next := do
  let leave : Build Next := do
    if currentNamed (← get) ["colgroup"] then
      pop
      retryIn .inTable
    else return .done
  match t with
  | .doctype _ => return .done
  | .comment s =>
    insertComment s
    return .done
  | .startTag name attributes _ =>
    if name == "html" then return .using .inBody
    else if name == "col" then
      insertVoid name attributes
      return .done
    else if name == "template" then return .using .inHead
    else leave
  | .endTag name =>
    if name == "colgroup" then
      if currentNamed (← get) ["colgroup"] then
        pop
        setMode .inTable
      return .done
    else if name == "col" then return .done
    else if name == "template" then return .using .inHead
    else leave
  | .done => return .using .inBody
  | t =>
    if isBlankText t then
      if let .chars s := t then insertText s
      return .done
    else leave

def inTableBody (t : Token) : Build Next := do
  let b ← get
  let leave : Build Next := do
    if inScope b endsTableScope ["tbody", "thead", "tfoot"] then
      clearBackTo ["tbody", "tfoot", "thead", "template", "html"]
      pop
      retryIn .inTable
    else return .done
  match t with
  | .startTag name attributes _ =>
    if name == "tr" then
      clearBackTo ["tbody", "tfoot", "thead", "template", "html"]
      insertAndGo name attributes .inRow
    else if name == "th" || name == "td" then
      clearBackTo ["tbody", "tfoot", "thead", "template", "html"]
      insert "tr" []
      retryIn .inRow
    else if ["caption", "col", "colgroup", "tbody", "tfoot", "thead"].contains name then leave
    else return .using .inTable
  | .endTag name =>
    if ["tbody", "tfoot", "thead"].contains name then
      if inScope b endsTableScope [name] then
        clearBackTo ["tbody", "tfoot", "thead", "template", "html"]
        pop
        setMode .inTable
      return .done
    else if name == "table" then leave
    else if ["body", "caption", "col", "colgroup", "html", "td", "th", "tr"].contains name then
      return .done
    else return .using .inTable
  | _ => return .using .inTable

def inRow (t : Token) : Build Next := do
  let b ← get
  let leave (then_ : Next) : Build Next := do
    if inScope b endsTableScope ["tr"] then
      clearBackTo ["tr", "template", "html"]
      pop
      setMode .inTableBody
      return then_
    else return .done
  match t with
  | .startTag name attributes _ =>
    if name == "th" || name == "td" then
      clearBackTo ["tr", "template", "html"]
      insert name attributes
      setMode .inCell
      pushMark
      return .done
    else if ["caption", "col", "colgroup", "tbody", "tfoot", "thead", "tr"].contains name then
      leave .again
    else return .using .inTable
  | .endTag name =>
    if name == "tr" then leave .done
    else if name == "table" then leave .again
    else if ["tbody", "tfoot", "thead"].contains name then
      if inScope b endsTableScope [name] then leave .again else return .done
    else if ["body", "caption", "col", "colgroup", "html", "td", "th"].contains name then
      return .done
    else return .using .inTable
  | _ => return .using .inTable

/-- Close the cell that is open. -/
def closeCell : Build Unit := do
  closeImplied impliedEnds []
  popUntilNamed ["td", "th"]
  clearToMark
  setMode .inRow

def inCell (t : Token) : Build Next := do
  let b ← get
  match t with
  | .endTag name =>
    if name == "td" || name == "th" then
      if inScope b endsTableScope [name] then
        closeImplied impliedEnds []
        popUntilNamed [name]
        clearToMark
        setMode .inRow
      return .done
    else if ["body", "caption", "col", "colgroup", "html"].contains name then return .done
    else if ["table", "tbody", "tfoot", "thead", "tr"].contains name then
      if inScope b endsTableScope [name] then
        closeCell
        return .again
      else return .done
    else return .using .inBody
  | .startTag name _ _ =>
    if ["caption", "col", "colgroup", "tbody", "td", "tfoot", "th", "thead", "tr"].contains name
    then
      if inScope b endsTableScope ["td", "th"] then
        closeCell
        return .again
      else return .done
    else return .using .inBody
  | _ => return .using .inBody

/-! ## Lists of options -/

def inSelect (t : Token) : Build Next := do
  let b ← get
  match t with
  | .nul => return .done
  | .doctype _ => return .done
  | .chars s =>
    insertText s
    return .done
  | .comment s =>
    insertComment s
    return .done
  | .startTag name attributes _ =>
    if name == "html" then return .using .inBody
    else if name == "option" then
      if currentNamed b ["option"] then pop
      insert name attributes
      return .done
    else if name == "optgroup" || name == "hr" then
      if currentNamed b ["option"] then pop
      if currentNamed (← get) ["optgroup"] then pop
      if name == "hr" then insertVoid name attributes else insert name attributes
      return .done
    else if name == "select" then
      if inScope b endsSelectScope ["select"] then
        popUntilNamed ["select"]
        resetMode
      return .done
    else if ["input", "keygen", "textarea"].contains name then
      if inScope b endsSelectScope ["select"] then
        popUntilNamed ["select"]
        resetMode
        return .again
      return .done
    else if name == "script" || name == "template" then return .using .inHead
    else return .done
  | .endTag name =>
    if name == "optgroup" then
      if currentNamed b ["option"] then
        match b.openElements with
        | _ :: i :: _ => if named b ["optgroup"] i then pop
        | _ => pure ()
      if currentNamed (← get) ["optgroup"] then pop
      return .done
    else if name == "option" then
      if currentNamed b ["option"] then pop
      return .done
    else if name == "select" then
      if inScope b endsSelectScope ["select"] then
        popUntilNamed ["select"]
        resetMode
      return .done
    else if name == "template" then return .using .inHead
    else return .done
  | .done => return .using .inBody

def inSelectInTable (t : Token) : Build Next := do
  let tableNames := ["caption", "table", "tbody", "tfoot", "thead", "tr", "td", "th"]
  match t with
  | .startTag name _ _ =>
    if tableNames.contains name then
      popUntilNamed ["select"]
      resetMode
      return .again
    else return .using .inSelect
  | .endTag name =>
    if tableNames.contains name then
      if inScope (← get) endsTableScope [name] then
        popUntilNamed ["select"]
        resetMode
        return .again
      else return .done
    else return .using .inSelect
  | _ => return .using .inSelect

/-! ## Templates, frames and the end -/

/-- Go on in a template by the rules of another mode. -/
def templateAs (m : Mode) : Build Next := do
  modify fun b => { b with templateModes := m :: b.templateModes.drop 1 }
  retryIn m

def inTemplate (t : Token) : Build Next := do
  match t with
  | .startTag name _ _ =>
    if headNames.contains name then return .using .inHead
    else if ["caption", "colgroup", "tbody", "tfoot", "thead"].contains name then
      templateAs .inTable
    else if name == "col" then templateAs .inColumnGroup
    else if name == "tr" then templateAs .inTableBody
    else if name == "td" || name == "th" then templateAs .inRow
    else templateAs .inBody
  | .endTag name => return if name == "template" then .using .inHead else .done
  | .done =>
    if hasTemplate (← get) then
      popUntilNamed ["template"]
      clearToMark
      modify fun b => { b with templateModes := b.templateModes.drop 1 }
      resetMode
      return .again
    else return .done
  | _ => return .using .inBody

def afterBody (t : Token) : Build Next := do
  match t with
  | .comment s =>
    insertCommentIn ((← get).openElements.getLast?.getD 0) s
    return .done
  | .doctype _ => return .done
  | .startTag "html" _ _ => return .using .inBody
  | .endTag "html" =>
    setMode .afterAfterBody
    return .done
  | .done => return .done
  | t => if isBlankText t then return .using .inBody else retryIn .inBody

/-- The blanks of a token stay. -/
def keepBlank (t : Token) : Build Unit := do
  if isBlankText t then
    if let .chars s := t then insertText s

def inFrameset (t : Token) : Build Next := do
  match t with
  | .comment s =>
    insertComment s
    return .done
  | .startTag name attributes _ =>
    if name == "html" then return .using .inBody
    else if name == "frameset" then
      insert name attributes
      return .done
    else if name == "frame" then
      insertVoid name attributes
      return .done
    else if name == "noframes" then return .using .inHead
    else return .done
  | .endTag "frameset" =>
    if (← get).openElements.length > 1 then
      pop
      if !currentNamed (← get) ["frameset"] then setMode .afterFrameset
    return .done
  | t =>
    keepBlank t
    return .done

def afterFrameset (t : Token) : Build Next := do
  match t with
  | .comment s =>
    insertComment s
    return .done
  | .startTag "html" _ _ => return .using .inBody
  | .startTag "noframes" _ _ => return .using .inHead
  | .endTag "html" =>
    setMode .afterAfterFrameset
    return .done
  | t =>
    keepBlank t
    return .done

def afterAfterBody (t : Token) : Build Next := do
  match t with
  | .comment s =>
    insertCommentIn 0 s
    return .done
  | .doctype _ => return .using .inBody
  | .startTag "html" _ _ => return .using .inBody
  | .done => return .done
  | t => if isBlankText t then return .using .inBody else retryIn .inBody

def afterAfterFrameset (t : Token) : Build Next := do
  match t with
  | .comment s =>
    insertCommentIn 0 s
    return .done
  | .startTag "html" _ _ => return .using .inBody
  | .startTag "noframes" _ _ => return .using .inHead
  | t => if isBlankText t then return .using .inBody else return .done

/-! ## Drawings and formulas -/

/-- Is a node an element of a formula that holds text? -/
def holdsFormulaText (b : Builder) (i : Nat) : Bool :=
  let e := elementAt b i
  e.vocabulary == .mathml && formulaText.contains e.name

/-- Is a node an element of a drawing that holds parts of a page? -/
def holdsDrawingText (b : Builder) (i : Nat) : Bool :=
  let e := elementAt b i
  e.vocabulary == .svg && drawingText.contains e.name

/-- Is a token taken by the rules for drawings and formulas? -/
def isForeign (b : Builder) (t : Token) : Bool :=
  if b.openElements.isEmpty then false
  else
    let i := current b
    let e := elementAt b i
    let isText := match t with
      | .chars _ | .nul => true
      | _ => false
    match e.vocabulary, t with
    | .html, _ => false
    | _, .done => false
    | .mathml, .startTag name _ _ =>
      if holdsFormulaText b i then name == "mglyph" || name == "malignmark"
      else !(e.name == "annotation-xml" && name == "svg")
    | .svg, .startTag _ _ _ => !holdsDrawingText b i
    | _, _ => !(isText && (holdsFormulaText b i || holdsDrawingText b i))

/-- Leave all drawings and formulas. -/
def leaveForeign : Build Unit :=
  modify fun b => { b with openElements := b.openElements.dropWhile fun i =>
    (elementAt b i).vocabulary != .html && !holdsFormulaText b i && !holdsDrawingText b i }

/-- An end tag in a drawing or a formula: it closes the element of its name, whatever its case,
unless an element of the page is reached first. -/
def foreignEnd (mode : Mode) (name : String) (isFirst : Bool) : List Nat → Build Next
  | [] => return .done
  | i :: rest => do
    let b ← get
    let e := elementAt b i
    if !isFirst && e.vocabulary == .html then return .using mode
    else if e.name.toList.map Char.toLower == name.toList then
      modify fun b => { b with openElements := rest }
      return .done
    else foreignEnd mode name false rest

def inForeign (t : Token) : Build Next := do
  let b ← get
  match t with
  | .nul =>
    insertText (String.ofList [replacement])
    return .done
  | .chars s =>
    insertText s
    if !isBlankText t then forbidFrameset
    return .done
  | .comment s =>
    insertComment s
    return .done
  | .startTag name attributes selfClosing =>
    let fontBreaks := name == "font"
      && attributes.any fun (n, _) => ["color", "face", "size"].contains n
    if breakouts.contains name || fontBreaks then
      leaveForeign
      return .using b.mode
    else
      let _ ← insertIn (elementAt b (current b)).vocabulary name attributes
      if selfClosing then pop
      return .done
  | .endTag name =>
    if name == "br" || name == "p" then
      leaveForeign
      return .using b.mode
    else foreignEnd b.mode name true b.openElements
  | _ => return .done

/-! ## All rules -/

/-- Apply the rules of a mode; `fuel` bounds how often a token is handed on. -/
def apply : Nat → Mode → Token → Build Next
  | 0, _, _ => return .done
  | fuel + 1, m, t => do
    let next ← match m with
      | .initial => initial t
      | .beforeHtml => beforeHtml t
      | .beforeHead => beforeHead t
      | .inHead => inHead t
      | .afterHead => afterHead (apply fuel) t
      | .inBody => inBody t
      | .text => inText t
      | .inTable => inTable t
      | .inTableText => inTableText (apply fuel) t
      | .inCaption => inCaption t
      | .inColumnGroup => inColumnGroup t
      | .inTableBody => inTableBody t
      | .inRow => inRow t
      | .inCell => inCell t
      | .inSelect => inSelect t
      | .inSelectInTable => inSelectInTable t
      | .inTemplate => inTemplate t
      | .afterBody => afterBody t
      | .inFrameset => inFrameset t
      | .afterFrameset => afterFrameset t
      | .afterAfterBody => afterAfterBody t
      | .afterAfterFrameset => afterAfterFrameset t
    match next with
    | .using m => apply fuel m t
    | .fostered =>
      modify fun b => { b with foster := true }
      let r ← apply fuel .inBody t
      modify fun b => { b with foster := false }
      return r
    | next => return next

/-- How often a token is handed on at most without being taken again. -/
def handFuel : Nat := 8

/-- Take a token, again and again if a rule asks for it; `fuel` bounds how often. -/
def take : Nat → Token → Build Unit
  | 0, _ => pure ()
  | fuel + 1, t => do
    let b ← get
    let next ←
      if isForeign b t then
        match ← inForeign t with
        | .using m => apply handFuel m t
        | next => pure next
      else apply handFuel b.mode t
    if next == .again then take fuel t

/-- The runs of a text that are blank throughout or nowhere. -/
def runs : List Char → List (List Char)
  | [] => []
  | c :: rest =>
    match runs rest with
    | (d :: run) :: more =>
      if isSpace c == isSpace d then (c :: d :: run) :: more else [c] :: (d :: run) :: more
    | more => [c] :: more

/-- Take a token off the text of a page: text comes run by run, and the line break at the start of
some elements is passed over. -/
def feed (t : Token) : Build Unit := do
  let b ← get
  let fuel := 2 * b.openElements.length + 32
  match t with
  | .chars s =>
    if s.isEmpty then return
    modify fun b => { b with skipLineBreak := false }
    let cs := match s.toList with
      | '\n' :: rest => if b.skipLineBreak then rest else '\n' :: rest
      | cs => cs
    for run in runs cs do
      take fuel (.chars (String.ofList run))
  | t =>
    modify fun b => { b with skipLineBreak := false }
    take fuel t

/-- Is the innermost open element one of a drawing or a formula? -/
def standsInForeign (b : Builder) : Bool :=
  !b.openElements.isEmpty && (elementAt b (current b)).vocabulary != .html

/-- Take all tokens off a text. Every token but the last takes a character, which bounds their
number. -/
def readAll : Nat → List Char → Build Unit
  | 0, _ => pure ()
  | fuel + 1, cs => do
    let b ← get
    let (t, rest) := nextToken b.lexer (standsInForeign b) cs
    feed t
    if !(t matches .done) then readAll fuel rest

end Construction

/-- The page that a text makes. -/
def Document.parse (s : String) : Document :=
  let cs := normalize s
  ((Construction.readAll (cs.length + 2) cs).run Builder.start).2.document

end CrawlMesh.Html
