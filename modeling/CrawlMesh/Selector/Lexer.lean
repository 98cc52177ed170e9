/-
# The pieces of a selector

The text of a selector as names, numbers, texts and marks. What stands in brackets is one piece;
brackets that are open at the end of the text are closed there.
-/
import CrawlMesh.Net.Address

namespace CrawlMesh.Selector

set_option autoImplicit false

/-- A piece of a selector. -/
inductive Piece
  | name (text : String)
  | function (name : String) (items : List Piece)
  | hash (isName : Bool) (text : String)
  | text (text : String)
  | number (signed : Bool) (value : Option Int)
  | dimension (value : Option Int) (unit : String)
  | mark (c : Char)
  | includes
  | dash
  | starts
  | ends
  | contains
  | space
  | square (items : List Piece)
  | other
  | broken
deriving Repr, Inhabited

namespace Piece

def isSpace (c : Char) : Bool :=
  c == ' ' || c == '\t' || c == '\n' || c == '\r' || c == '\x0c'

def isBreak (c : Char) : Bool := c == '\n' || c == '\r' || c == '\x0c'

def startsNameChar (c : Char) : Bool := c.isAlpha || c == '_' || c == '\x00' || c.toNat ≥ 0x80

def isNameChar (c : Char) : Bool := startsNameChar c || c.isDigit || c == '-'

/-- Does a name begin here? -/
def startsName : List Char → Bool
  | '-' :: '-' :: _ => true
  | '-' :: '\\' :: _ => true
  | '-' :: c :: _ => startsNameChar c
  | '\\' :: c :: _ => !isBreak c
  | ['\\'] => true
  | c :: _ => startsNameChar c
  | [] => false

/-- The replacement for what cannot be written. -/
def replacement : Char := '\uFFFD'

/-- The character of an escape behind its backslash. -/
def readEscape (cs : List Char) : Char × List Char :=
  match cs with
  | [] => (replacement, [])
  | c :: rest =>
    let digits := (cs.take 6).takeWhile fun c => (Net.digitIn? 16 c).isSome
    if digits.isEmpty then (if c == '\x00' then replacement else c, rest)
    else
      let n := digits.foldl (fun n c => n * 16 + (Net.digitIn? 16 c).getD 0) 0
      let rest := cs.drop digits.length
      let rest := match rest with
        | '\r' :: '\n' :: rest => rest
        | c :: more => if isSpace c then more else rest
        | [] => []
      (if n == 0 || n > 0x10FFFF || (0xD800 ≤ n && n ≤ 0xDFFF) then replacement
        else Char.ofNat n, rest)

/-- The name in front of a text. -/
def readName : Nat → String → List Char → String × List Char
  | 0, acc, cs => (acc, cs)
  | fuel + 1, acc, cs =>
    match cs with
    | '\\' :: rest =>
      if rest.head?.any isBreak then (acc, cs)
      else
        let (c, rest) := readEscape rest
        readName fuel (acc.push c) rest
    | c :: rest =>
      if isNameChar c then readName fuel (acc.push (if c == '\x00' then replacement else c)) rest
      else (acc, cs)
    | [] => (acc, [])

def nameOf (cs : List Char) : String × List Char := readName (cs.length + 1) "" cs

/-- The text up to a quotation mark; `none` if the line ends first. -/
def readQuoted (quote : Char) : Nat → String → List Char → Option String × List Char
  | 0, _, cs => (none, cs)
  | fuel + 1, acc, cs =>
    match cs with
    | [] => (some acc, [])
    | '\\' :: '\r' :: '\n' :: rest => readQuoted quote fuel acc rest
    | ['\\'] => (some acc, [])
    | '\\' :: c :: rest =>
      if isBreak c then readQuoted quote fuel acc rest
      else
        let (d, rest) := readEscape (c :: rest)
        readQuoted quote fuel (acc.push d) rest
    | c :: rest =>
      if c == quote then (some acc, rest)
      else if isBreak c then (none, cs)
      else readQuoted quote fuel (acc.push (if c == '\x00' then replacement else c)) rest

/-- Does a number begin here? -/
def startsNumber : List Char → Bool
  | '+' :: rest | '-' :: rest => unsigned rest
  | cs => unsigned cs
where
  /-- Does a number without sign begin here? -/
  unsigned : List Char → Bool
    | '.' :: d :: _ => d.isDigit
    | d :: _ => d.isDigit
    | [] => false

/-- The largest number that is told apart from larger ones. -/
def numberBound : Nat := 0x80000000

/-- A number and what follows it; only a whole number has a value. -/
def readNumber (cs : List Char) : Bool × Option Int × List Char :=
  let (signed, negative, cs) : Bool × Bool × List Char := match cs with
    | '+' :: rest => (true, false, rest)
    | '-' :: rest => (true, true, rest)
    | cs => (false, false, cs)
  let digits := cs.takeWhile Char.isDigit
  let rest := cs.drop digits.length
  let n := digits.foldl (fun n c => min (n * 10 + (c.toNat - '0'.toNat)) numberBound) 0
  let value : Int := if negative then -(n : Int) else min (n : Int) (numberBound - 1)
  let (whole, rest) : Bool × List Char := match rest with
    | '.' :: d :: more =>
      if d.isDigit then (false, more.dropWhile Char.isDigit) else (true, rest)
    | rest => (true, rest)
  let (whole, rest) : Bool × List Char := match rest with
    | e :: more =>
      let tail := match more with
        | '+' :: tail | '-' :: tail => tail
        | tail => tail
      if (e == 'e' || e == 'E') && tail.head?.any Char.isDigit then
        (false, tail.dropWhile Char.isDigit)
      else (whole, rest)
    | [] => (whole, rest)
  (signed, if whole then some value else none, rest)

/-- What follows a comment. -/
def skipComment : List Char → List Char
  | [] => []
  | '*' :: '/' :: rest => rest
  | _ :: rest => skipComment rest

/-- The bracket that closes another one. -/
def closing? : Char → Option Char
  | '(' => some ')'
  | '[' => some ']'
  | '\x7b' => some '\x7d'
  | _ => none

/-- A mark of two characters. -/
def pair? : Char → Option Piece
  | '~' => some .includes
  | '|' => some .dash
  | '^' => some .starts
  | '$' => some .ends
  | '*' => some .contains
  | _ => none

/-- The pieces up to a closing bracket, or to the end of the text. -/
def readAll : Nat → Option Char → List Char → List Piece × List Char
  | 0, _, cs => ([], cs)
  | fuel + 1, closer, cs =>
    let more (p : Piece) (rest : List Char) : List Piece × List Char :=
      let (items, rest) := readAll fuel closer rest
      (p :: items, rest)
    match cs with
    | [] => ([], [])
    | '/' :: '*' :: rest => readAll fuel closer (skipComment rest)
    | c :: rest =>
      if closer == some c then ([], rest)
      else if isSpace c then more .space (rest.dropWhile isSpace)
      else if c == '"' || c == '\'' then
        match readQuoted c (rest.length + 1) "" rest with
        | (some s, rest) => more (.text s) rest
        | (none, rest) => more .broken rest
      else if startsNumber cs then
        let (signed, value, rest) := readNumber cs
        if startsName rest then
          let (unit, rest) := nameOf rest
          more (.dimension value unit) rest
        else if rest.head? == some '%' then more .other (rest.drop 1)
        else more (.number signed value) rest
      else if "-->".toList.isPrefixOf cs || "<!--".toList.isPrefixOf cs then
        more .other (cs.drop (if c == '-' then 3 else 4))
      else if startsName cs then
        let (word, rest) := nameOf cs
        if rest.head? == some '(' then
          let (items, rest) := readAll fuel (some ')') (rest.drop 1)
          more (.function word items) rest
        else more (.name word) rest
      else if c == '#' then
        if startsName rest then
          let (word, rest) := nameOf rest
          more (.hash true word) rest
        else if rest.head?.any fun d => d.isDigit || d == '-' then
          let (word, rest) := nameOf rest
          more (.hash false word) rest
        else more (.mark c) rest
      else if c == '@' && startsName rest then
        let (_, rest) := nameOf rest
        more .other rest
      else
        match closing? c with
        | some closer' =>
          let (items, rest) := readAll fuel (some closer') rest
          more (if c == '[' then .square items else .other) rest
        | none =>
          if c == ')' || c == ']' || c == '\x7d' then more .broken rest
          else
            match pair? c, rest with
            | some p, '=' :: rest => more p rest
            | _, _ => more (.mark c) rest

/-- The pieces of a text. -/
def ofText (s : String) : List Piece :=
  let cs := s.toList
  (readAll (cs.length + 1) none cs).1

end Piece

end CrawlMesh.Selector
