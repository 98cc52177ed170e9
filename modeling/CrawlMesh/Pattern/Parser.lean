/-
# Reading patterns

`Pattern.parse?` reads a pattern in the usual notation: classes in brackets with set operations,
groups, alternatives, counted repetitions, flags, and escapes for classes, places and characters.
Looking around and referring back to groups are not part of the notation.
-/
import CrawlMesh.Net.Address
import CrawlMesh.Pattern.Basic
import CrawlMesh.Pattern.Property
import CrawlMesh.Text.Blank

namespace CrawlMesh.Pattern

set_option autoImplicit false

/-- What has been set for the rest of a group: whether case counts, whether blanks and remarks in
the pattern are passed over, and whether classes reach beyond the seven-bit characters. -/
structure Flags where
  ignoreCase : Bool
  verbose : Bool
  wide : Bool
deriving DecidableEq, Repr, Inhabited

/-- Pass over blanks and remarks, if they do not count. -/
def skipRemarks (flags : Flags) : Nat → List Char → List Char
  | 0, cs => cs
  | fuel + 1, cs =>
    if !flags.verbose then cs
    else
      match cs with
      | '#' :: rest => skipRemarks flags fuel (rest.dropWhile (· != '\n'))
      | c :: rest => if Text.isBlank c then skipRemarks flags fuel rest else cs
      | [] => []

def skip (flags : Flags) (cs : List Char) : List Char := skipRemarks flags (cs.length + 1) cs

/-! ## Escapes -/

/-- What an escape stands for. -/
inductive Escaped
  | char (c : Char)
  | byte (n : Nat)
  | set (s : CharSet)
  | place (a : Assertion)
deriving Repr

/-- Characters that may be escaped to stand for themselves. -/
def isEscapable (c : Char) : Bool :=
  c.toNat < 0x80 && !c.isAlphanum && c != '<' && c != '>'

def charOf? (n : Nat) : Option Char := if n.isValidChar then some (Char.ofNat n) else none

/-- A character by its number, in brackets or with a fixed count of digits. -/
def readHex? (digits : Nat) (cs : List Char) : Option (Nat × List Char) :=
  let value (ds : List Char) : Option Nat := do
    let values ← ds.mapM (Net.digitIn? 16)
    if ds.isEmpty || ds.length > 8 then none
    else some (values.foldl (fun n d => n * 16 + d) 0)
  match cs with
  | '\x7b' :: rest =>
    let ds := rest.takeWhile (· != '\x7d')
    match rest.drop ds.length with
    | [] => none
    | _ :: rest => (value ds).map (·, rest)
  | cs => if cs.length < digits then none else (value (cs.take digits)).map (·, cs.drop digits)

/-- The name of a property: one letter or a text in brackets, and whether a caret turns it
around. -/
def readProperty? (cs : List Char) : Option (CharSet × Bool × List Char) :=
  match cs with
  | '\x7b' :: rest =>
    let name := rest.takeWhile (· != '\x7d')
    match rest.drop name.length with
    | [] => none
    | _ :: rest =>
      match name with
      | '^' :: name => (property? (String.ofList name)).map (·, true, rest)
      | name => (property? (String.ofList name)).map (·, false, rest)
  | c :: rest => (category? (plainName (String.ofList [c]))).map (·, false, rest)
  | [] => none

/-- A class by a property; letters that are the same are added before it is turned around. -/
def propertyClass? (flags : Flags) (turned : Bool) (cs : List Char) :
    Option (CharSet × List Char) := do
  let (s, caret, rest) ← if flags.wide then readProperty? cs else none
  let s := if flags.ignoreCase then s.foldCase else s
  some (if turned != caret then s.complement else s, rest)

/-- The edges of words with a name in brackets; other brackets are left alone. -/
def readEdge? (cs : List Char) : Option (Assertion × List Char) :=
  match cs with
  | '\x7b' :: c :: rest =>
    if c.isAlpha || c == '-' then
      let name := (c :: rest).takeWhile fun c => c.isAlpha || c == '-'
      match (c :: rest).drop name.length with
      | '\x7d' :: rest =>
        match String.ofList name with
        | "start" => some (.wordStart, rest)
        | "end" => some (.wordEnd, rest)
        | "start-half" => some (.wordStartHalf, rest)
        | "end-half" => some (.wordEndHalf, rest)
        | _ => none
      | _ => none
    else some (.wordEdge, cs)
  | cs => some (.wordEdge, cs)

/-- A class of one letter; narrow classes are turned around within what can be text only if they
stay plain. -/
def classOf? (flags : Flags) (set : CharSet) (turned : Bool) : Option Escaped :=
  let set := if flags.wide then set else set.inter (CharSet.ofPredicate (·.toNat < 0x80))
  if !turned then some (.set set)
  else if flags.wide then some (.set set.complement)
  else none

/-- What follows a backslash. -/
def readEscape? (flags : Flags) (cs : List Char) : Option (Escaped × List Char) :=
  match cs with
  | [] => none
  | c :: rest =>
    match c with
    | 'd' => (classOf? flags CharSet.digit false).map (·, rest)
    | 'D' => (classOf? flags CharSet.digit true).map (·, rest)
    | 's' => (classOf? flags CharSet.space false).map (·, rest)
    | 'S' => (classOf? flags CharSet.space true).map (·, rest)
    | 'w' => (classOf? flags CharSet.word false).map (·, rest)
    | 'W' => (classOf? flags CharSet.word true).map (·, rest)
    | 'p' => (propertyClass? flags false rest).map fun (s, rest) => (.set s, rest)
    | 'P' => (propertyClass? flags true rest).map fun (s, rest) => (.set s, rest)
    | 'x' | 'u' | 'U' => do
      let (n, rest) ← readHex? (if c == 'x' then 2 else if c == 'u' then 4 else 8) rest
      let d ← charOf? n
      if !flags.wide && 0x80 ≤ n && n ≤ 0xFF then some (.byte n, rest) else some (.char d, rest)
    | 'a' => some (.char '\x07', rest)
    | 'f' => some (.char '\x0c', rest)
    | 't' => some (.char '\t', rest)
    | 'n' => some (.char '\n', rest)
    | 'r' => some (.char '\r', rest)
    | 'v' => some (.char '\x0b', rest)
    | 'A' => some (.place .start, rest)
    | 'z' => some (.place .finish, rest)
    | 'b' => (readEdge? rest).map fun (a, rest) => (.place a, rest)
    | 'B' => some (.place .noWordEdge, rest)
    | '<' => some (.place .wordStart, rest)
    | '>' => some (.place .wordEnd, rest)
    | c => if isEscapable c then some (.char c, rest) else none

/-! ## Classes in brackets -/

/-- The classes that have a name between colons. -/
def namedClass? : String → Option CharSet
  | "alnum" => some (CharSet.ofPredicate Char.isAlphanum)
  | "alpha" => some (CharSet.ofPredicate Char.isAlpha)
  | "ascii" => some (CharSet.ofPredicate (·.toNat < 0x80))
  | "blank" => some (CharSet.ofText " \t")
  | "cntrl" => some CharSet.control
  | "digit" => some CharSet.digit
  | "graph" => some (CharSet.ofPredicate fun c => 0x21 ≤ c.toNat && c.toNat ≤ 0x7E)
  | "lower" => some (CharSet.ofPredicate Char.isLower)
  | "print" => some (CharSet.ofPredicate fun c => 0x20 ≤ c.toNat && c.toNat ≤ 0x7E)
  | "punct" => some (CharSet.punctuation.union CharSet.sign)
  | "space" => some CharSet.space
  | "upper" => some (CharSet.ofPredicate Char.isUpper)
  | "word" => some CharSet.plainWord
  | "xdigit" => some CharSet.hexDigit
  | _ => none

/-- A class between colons behind its bracket. -/
def readNamed? (cs : List Char) : Option (CharSet × List Char) :=
  match cs with
  | ':' :: rest =>
    let (turned, rest) : Bool × List Char := match rest with
      | '^' :: rest => (true, rest)
      | rest => (false, rest)
    let name := rest.takeWhile (· != ':')
    match rest.drop name.length with
    | ':' :: ']' :: rest =>
      (namedClass? (String.ofList name)).map fun s => (if turned then s.complement else s, rest)
    | _ => none
  | _ => none

/-- One item of a class: a character, or a set. -/
def readItem? (flags : Flags) (cs : List Char) : Option ((Char ⊕ CharSet) × List Char) :=
  match cs with
  | [] => none
  | '\\' :: rest =>
    match readEscape? flags rest with
    | some (.char c, rest) => some (.inl c, rest)
    | some (.set s, rest) => some (.inr s, rest)
    | _ => none
  | c :: rest => if !flags.wide && c.toNat ≥ 0x80 then none else some (.inl c, rest)

/-- An item or a range. -/
def readRange? (flags : Flags) (cs : List Char) : Option (CharSet × List Char) := do
  let (item, rest) ← readItem? flags cs
  let asSet : Char ⊕ CharSet → CharSet := fun
    | .inl c => .single c
    | .inr s => s
  let rest := skip flags rest
  match rest with
  | [] => none
  | '-' :: more =>
    let next := (skip flags more).head?
    if next == some ']' || next == some '-' then some (asSet item, rest)
    else
      let (item', rest) ← readItem? flags (skip flags more)
      match item, item' with
      | .inl a, .inl b => if a ≤ b then some (.range a b, rest) else none
      | _, _ => none
  | _ => some (asSet item, rest)

/-- An operation on sets. -/
inductive SetOp
  | inter
  | difference
  | symmetric
deriving DecidableEq, Repr

def SetOp.apply : SetOp → CharSet → CharSet → CharSet
  | .inter => CharSet.inter
  | .difference => CharSet.difference
  | .symmetric => CharSet.symmetricDifference

/-- The operation that begins here. -/
def readOp? : List Char → Option (SetOp × List Char)
  | '&' :: '&' :: rest => some (.inter, rest)
  | '-' :: '-' :: rest => some (.difference, rest)
  | '~' :: '~' :: rest => some (.symmetric, rest)
  | _ => none

/-- The dashes and the bracket that stand for themselves at the start of a class. -/
def readClassStart (flags : Flags) : Nat → CharSet → List Char → CharSet × List Char
  | 0, s, cs => (s, cs)
  | fuel + 1, s, cs =>
    match cs with
    | '-' :: rest => readClassStart flags fuel (s.union (.single '-')) (skip flags rest)
    | ']' :: rest => if s == .empty then (.single ']', skip flags rest) else (s, cs)
    | cs => (s, cs)

mutual

/-- A class behind its bracket. -/
def readClass? : Nat → Flags → List Char → Option (CharSet × List Char)
  | 0, _, _ => none
  | fuel + 1, flags, cs => do
    let cs := skip flags cs
    let (turned, cs) : Bool × List Char := match cs with
      | '^' :: rest => (true, skip flags rest)
      | cs => (false, cs)
    let (first, cs) := readClassStart flags (cs.length + 1) .empty cs
    let (s, rest) ← readItems? fuel flags none first cs
    let s := if flags.ignoreCase then s.foldCase else s
    if turned then
      if flags.wide then some (s.complement, rest) else none
    else some (s, rest)

/-- The items of a class up to its end: `left` is what stands before an operation, and `s` what has
been read since. -/
def readItems? : Nat → Flags → Option (CharSet × SetOp) → CharSet → List Char →
    Option (CharSet × List Char)
  | 0, _, _, _, _ => none
  | fuel + 1, flags, left, s, cs =>
    let folded (s : CharSet) : CharSet := if flags.ignoreCase then s.foldCase else s
    let joined : CharSet := match left with
      | none => s
      | some (l, op) => op.apply (folded l) (folded s)
    let cs := skip flags cs
    match cs with
    | [] => none
    | ']' :: rest => some (joined, rest)
    | '[' :: rest =>
      match readNamed? rest with
      | some (t, rest) => readItems? fuel flags left (s.union t) rest
      | none => do
        let (t, rest) ← readClass? fuel flags rest
        readItems? fuel flags left (s.union t) rest
    | cs =>
      match readOp? cs with
      | some (op, rest) => readItems? fuel flags (some (joined, op)) .empty rest
      | none => do
        let (t, rest) ← readRange? flags cs
        readItems? fuel flags left (s.union t) rest

end

/-! ## Repetitions -/

/-- A number with blanks around it. -/
def readCount? (cs : List Char) : Option (Nat × List Char) :=
  let cs := cs.dropWhile Text.isBlank
  let digits := cs.takeWhile Char.isDigit
  let n := digits.foldl (fun n c => min (n * 10 + (c.toNat - '0'.toNat)) UInt32.size) 0
  if digits.isEmpty || n == UInt32.size then none
  else some (n, (cs.drop digits.length).dropWhile Text.isBlank)

/-- A counted repetition behind its bracket. -/
def readCounts? (cs : List Char) : Option (Nat × Option Nat × List Char) := do
  let (least, rest) ← readCount? cs
  match rest with
  | '\x7d' :: rest => some (least, some least, rest)
  | ',' :: rest =>
    match rest.dropWhile Text.isBlank with
    | '\x7d' :: rest => some (least, none, rest)
    | rest => do
      let (most, rest) ← readCount? rest
      match rest with
      | '\x7d' :: rest => if least ≤ most then some (least, some most, rest) else none
      | _ => none
  | _ => none

/-- The mark that makes a repetition a sparing one makes no difference here. -/
def skipSparing : List Char → List Char
  | '?' :: rest => rest
  | cs => cs

/-! ## Groups -/

/-- How a group begins. -/
inductive Opening
  | capture
  | named (name : String)
  | grouped (flags : Flags)
  | flags (flags : Flags)

/-- Flags up to a colon or the end of the group; `turned` after a minus sign, `seen` the letters so
far. -/
def readFlags? (flags : Flags) (turned fresh : Bool) (seen : List Char) :
    List Char → Option (Opening × List Char)
  | [] => none
  | ':' :: rest => if fresh && turned then none else some (.grouped flags, rest)
  | ')' :: rest => if seen.isEmpty || (fresh && turned) then none else some (.flags flags, rest)
  | '-' :: rest => if turned then none else readFlags? flags true true seen rest
  | c :: rest =>
    if seen.contains c then none
    else
      match c with
      | 'i' => readFlags? { flags with ignoreCase := !turned } turned false (c :: seen) rest
      | 'x' => readFlags? { flags with verbose := !turned } turned false (c :: seen) rest
      | 'u' => readFlags? { flags with wide := !turned } turned false (c :: seen) rest
      | 'm' | 's' | 'U' | 'R' => readFlags? flags turned false (c :: seen) rest
      | _ => none

/-- The name of a group. -/
def readGroupName? (cs : List Char) : Option (Opening × List Char) :=
  let name := cs.takeWhile (· != '>')
  let isFirst (c : Char) : Bool := c == '_' || c.isAlpha || c.toNat ≥ 0x80
  match name, cs.drop name.length with
  | c :: tail, _ :: rest =>
    if isFirst c && tail.all fun c => isFirst c || c.isDigit || c == '.' || c == '[' || c == ']' then
      some (.named (String.ofList name), rest)
    else none
  | _, _ => none

/-- What follows the opening parenthesis of a group. -/
def readOpening? (flags : Flags) (cs : List Char) : Option (Opening × List Char) :=
  match cs with
  | '?' :: 'P' :: '<' :: rest => readGroupName? rest
  | '?' :: '<' :: '=' :: _ | '?' :: '<' :: '!' :: _ | '?' :: '=' :: _ | '?' :: '!' :: _ => none
  | '?' :: '<' :: rest => readGroupName? rest
  | '?' :: rest => readFlags? flags false true [] rest
  | cs => some (.capture, cs)

/-! ## Patterns -/

/-- A single character, as the flags have it. -/
def charSet (flags : Flags) (c : Char) : CharSet :=
  if flags.ignoreCase then (CharSet.single c).foldCase else .single c

/-- What has been read of a group: finished alternatives and the items of the current one, last
first (nothing stands for flags), the flags in force, and the names of groups. -/
structure Reader where
  alternatives : List Pattern
  items : List (Option Pattern)
  flags : Flags
  names : List String

namespace Reader

/-- The current alternative. -/
def current (r : Reader) : Pattern := seqAll (r.items.reverse.filterMap id)

/-- The whole group. -/
def result (r : Reader) : Pattern := eitherAll ((r.current :: r.alternatives).reverse)

def push (r : Reader) (p : Pattern) : Reader := { r with items := some p :: r.items }

/-- Repeat the last item, which has to be there. -/
def repeatLast? (r : Reader) (least : Nat) (most : Option Nat) : Option Reader :=
  match r.items with
  | some p :: rest => some { r with items := some (.repeated least most p) :: rest }
  | _ => none

end Reader

/-- The rest of a group, up to its closing parenthesis, or of the pattern if it is the outermost:
what has been read and what follows. -/
def readGroup? : Nat → Reader → List Char → Option (Reader × List Char)
  | 0, _, _ => none
  | fuel + 1, r, cs =>
    let cs := skip r.flags cs
    match cs with
    | [] => some (r, [])
    | ')' :: _ => some (r, cs)
    | '|' :: rest =>
      readGroup? fuel { r with alternatives := r.current :: r.alternatives, items := [] } rest
    | '(' :: rest => do
      let (opening, rest) ← readOpening? r.flags rest
      match opening with
      | .flags flags => readGroup? fuel { r with flags := flags, items := none :: r.items } rest
      | opening =>
        let (flags, names) ← match opening with
          | .named name => if r.names.contains name then none else some (r.flags, name :: r.names)
          | .grouped flags => some (flags, r.names)
          | _ => some (r.flags, r.names)
        let (inner, rest) ← readGroup? fuel ⟨[], [], flags, names⟩ rest
        match rest with
        | ')' :: rest =>
          readGroup? fuel { r.push inner.result with names := inner.names } rest
        | _ => none
    | '*' :: rest => do readGroup? fuel (← r.repeatLast? 0 none) (skipSparing rest)
    | '+' :: rest => do readGroup? fuel (← r.repeatLast? 1 none) (skipSparing rest)
    | '?' :: rest => do readGroup? fuel (← r.repeatLast? 0 (some 1)) (skipSparing rest)
    | '\x7b' :: rest => do
      let (least, most, rest) ← readCounts? rest
      readGroup? fuel (← r.repeatLast? least most) (skipSparing rest)
    | '[' :: rest => do
      let (s, rest) ← readClass? fuel r.flags rest
      readGroup? fuel (r.push (.chars s)) rest
    | '.' :: rest =>
      if r.flags.wide then readGroup? fuel (r.push (.chars (CharSet.single '\n').complement)) rest
      else none
    | '^' :: rest => readGroup? fuel (r.push (.assert .start)) rest
    | '$' :: rest => readGroup? fuel (r.push (.assert .finish)) rest
    | '\\' :: rest => do
      let (e, rest) ← readEscape? r.flags rest
      let p ← match e with
        | .char c => some (.chars (charSet r.flags c))
        | .set s => some (.chars s)
        | .place a => some (.assert a)
        | .byte _ => none
      readGroup? fuel (r.push p) rest
    | c :: rest => readGroup? fuel (r.push (.chars (charSet r.flags c))) rest

/-- The deepest nesting that is read. -/
def maxDepth : Nat := 250

/-- The largest pattern that is read, with all repetitions written out. -/
def maxSize : Nat := 320000

/-- The pattern of a text. -/
def parse? (s : String) : Option Pattern := do
  let cs := s.toList
  let (r, rest) ← readGroup? (2 * cs.length + 2) ⟨[], [], ⟨false, false, true⟩, []⟩ cs
  let p := r.result
  if rest.isEmpty && p.depth ≤ maxDepth && p.size ≤ maxSize then some p else none

end CrawlMesh.Pattern
