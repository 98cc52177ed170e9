/-
# Reading tokens

`nextToken` takes one token off the text of a page. How text is read depends on where it stands,
so the mode is given with every call. Broken markup is read as browsers read it: a tag that is
not finished is dropped, a comment or a document type that is not finished ends with the page,
and of attributes with one name the first counts.
-/
import CrawlMesh.Html.Entity
import CrawlMesh.Html.Token
import CrawlMesh.Net.Address

namespace CrawlMesh.Html

set_option autoImplicit false

/-- The replacement for what cannot be shown. -/
def replacement : Char := '\uFFFD'

/-- Null characters become replacements. -/
def denull (c : Char) : Char := if c == '\x00' then replacement else c

/-- The text of a page with plain line breaks and without a byte order mark. -/
def normalize (s : String) : List Char :=
  let rec lines : List Char → List Char
    | [] => []
    | '\r' :: '\n' :: rest => '\n' :: lines rest
    | '\r' :: rest => '\n' :: lines rest
    | c :: rest => c :: lines rest
  match s.toList with
  | '\uFEFF' :: rest => lines rest
  | cs => lines cs

/-! ## References -/

/-- Numbers that stand for the characters which an old encoding has at their place. -/
def oldCharacters : List (Nat × Nat) :=
  [(0x80, 0x20AC), (0x82, 0x201A), (0x83, 0x0192), (0x84, 0x201E), (0x85, 0x2026), (0x86, 0x2020),
    (0x87, 0x2021), (0x88, 0x02C6), (0x89, 0x2030), (0x8A, 0x0160), (0x8B, 0x2039),
    (0x8C, 0x0152), (0x8E, 0x017D), (0x91, 0x2018), (0x92, 0x2019), (0x93, 0x201C),
    (0x94, 0x201D), (0x95, 0x2022), (0x96, 0x2013), (0x97, 0x2014), (0x98, 0x02DC),
    (0x99, 0x2122), (0x9A, 0x0161), (0x9B, 0x203A), (0x9C, 0x0153), (0x9E, 0x017E),
    (0x9F, 0x0178)]

/-- The character of a number. -/
def characterOf (n : Nat) : Char :=
  match oldCharacters.find? (·.1 == n) with
  | some (_, m) => Char.ofNat m
  | none =>
    if n == 0 || n > 0x10FFFF || (0xD800 ≤ n && n ≤ 0xDFFF) then replacement else Char.ofNat n

/-- A number in a base, capped, and what follows the semicolon that may end it. -/
def readNumeric? (base : Nat) (cs : List Char) : Option (Char × List Char) :=
  let digits := cs.takeWhile fun c => (Net.digitIn? base c).isSome
  let rest := cs.drop digits.length
  if digits.isEmpty then none
  else
    let n := digits.foldl (fun n c =>
      min (n * base + (Net.digitIn? base c).getD 0) 0x110000) 0
    let rest := match rest with
      | ';' :: rest => rest
      | rest => rest
    some (characterOf n, rest)

/-- What a reference behind an ampersand stands for and what follows it; without one the ampersand
stands for itself. In an attribute a name without a semicolon is no reference if an equals sign,
a letter or a digit follows. -/
def readReference (inAttribute : Bool) (cs : List Char) : List Char × List Char :=
  let plain := (['&'], cs)
  match cs with
  | '#' :: 'x' :: rest | '#' :: 'X' :: rest =>
    match readNumeric? 16 rest with
    | some (c, rest) => ([c], rest)
    | none => plain
  | '#' :: rest =>
    match readNumeric? 10 rest with
    | some (c, rest) => ([c], rest)
    | none => plain
  | _ =>
    match matchEntity? cs with
    | none => plain
    | some (chars, length, semicolon) =>
      let rest := cs.drop (if semicolon then length + 1 else length)
      let next := rest.head?
      if inAttribute && !semicolon && next.any (fun c => c == '=' || c.isAlphanum) then plain
      else (chars, rest)

/-! ## Attributes -/

/-- A value up to the character that ends it; `none` if the page ends first. -/
def readValue (ends : Char → Bool) : Nat → String → List Char → Option (String × List Char)
  | 0, _, _ => none
  | fuel + 1, acc, cs =>
    match cs with
    | [] => none
    | '&' :: rest =>
      let (chars, rest) := readReference true rest
      readValue ends fuel (acc ++ String.ofList chars) rest
    | c :: rest =>
      if ends c then some (acc, c :: rest) else readValue ends fuel (acc.push (denull c)) rest

/-- Does a character end the name of an attribute? -/
def endsName (c : Char) : Bool := isSpace c || c == '/' || c == '>' || c == '='

/-- The value behind a name. -/
def readAttributeValue (cs : List Char) : Option (String × List Char) :=
  match cs.dropWhile isSpace with
  | '=' :: rest =>
    match rest.dropWhile isSpace with
    | '"' :: rest => do
      let (value, rest) ← readValue (· == '"') (rest.length + 1) "" rest
      some (value, rest.drop 1)
    | '\'' :: rest => do
      let (value, rest) ← readValue (· == '\'') (rest.length + 1) "" rest
      some (value, rest.drop 1)
    | rest => readValue (fun c => isSpace c || c == '>') (rest.length + 1) "" rest
  | rest => some ("", rest)

/-- The rest of a tag: its attributes, first one first, whether it closes itself, and what follows
it; `none` if the page ends first. -/
def readAttributes : Nat → List RawAttribute → List Char →
    Option (List RawAttribute × Bool × List Char)
  | 0, _, _ => none
  | fuel + 1, done, cs =>
    match cs.dropWhile isSpace with
    | [] => none
    | '>' :: rest => some (done.reverse, false, rest)
    | '/' :: '>' :: rest => some (done.reverse, true, rest)
    | '/' :: rest => readAttributes fuel done rest
    | c :: rest => do
      let tail := rest.takeWhile (!endsName ·)
      let name := String.ofList ((c :: tail).map fun c => denull c.toLower)
      let (value, rest) ← readAttributeValue (rest.drop tail.length)
      let done := if done.any (·.1 == name) then done else (name, value) :: done
      readAttributes fuel done rest

/-- A tag whose name begins here; `none` if the page ends first. -/
def readTag (isEnd : Bool) (cs : List Char) : Option (Token × List Char) := do
  let name := cs.takeWhile fun c => !(isSpace c || c == '/' || c == '>')
  let rest := cs.drop name.length
  let name := String.ofList (name.map fun c => denull c.toLower)
  let (attributes, selfClosing, rest) ← readAttributes (rest.length + 1) [] rest
  some (if isEnd then .endTag name else .startTag name attributes selfClosing, rest)

/-! ## Comments and declarations -/

/-- The text of a comment and what follows it. -/
def readComment : String → List Char → String × List Char
  | acc, [] => (acc, [])
  | acc, ['-'] => (acc, [])
  | acc, ['-', '-'] => (acc, [])
  | acc, ['-', '-', '!'] => (acc, [])
  | acc, '-' :: '-' :: '>' :: rest => (acc, rest)
  | acc, '-' :: '-' :: '!' :: '>' :: rest => (acc, rest)
  | acc, c :: rest => readComment (acc.push (denull c)) rest

/-- The comment behind its opening mark; it may end at once. -/
def readCommentStart : List Char → String × List Char
  | '>' :: rest => ("", rest)
  | '-' :: '>' :: rest => ("", rest)
  | cs => readComment "" cs

/-- What stands in the place of a comment up to the next closing bracket. -/
def readBogus (cs : List Char) : Token × List Char :=
  let text := cs.takeWhile (· != '>')
  (.comment (String.ofList (text.map denull)), cs.drop (text.length + 1))

/-- Does a list begin with a word, whatever its case? -/
def beginsWith (word : String) (cs : List Char) : Bool :=
  String.ofList ((cs.take word.length).map Char.toLower) == word

/-- An identifier in quotation marks: its text, whether it is finished, and what follows. -/
def readIdentifier? (cs : List Char) : Option (String × Bool × List Char) :=
  match cs with
  | c :: rest =>
    if c == '"' || c == '\'' then
      let text := rest.takeWhile fun d => d != c && d != '>'
      let behind := rest.drop text.length
      some (String.ofList (text.map denull), behind.head? == some c,
        if behind.head? == some c then behind.drop 1 else behind)
    else none
  | [] => none

/-- The identifiers of a document type. -/
def readIdentifiers (name : Option String) (cs : List Char) : Doctype × List Char :=
  let ending (d : Doctype) (cs : List Char) : Doctype × List Char :=
    match cs.dropWhile isSpace with
    | [] => ({ d with broken := true }, [])
    | cs => (d, cs)
  if beginsWith "public" cs then
    match readIdentifier? ((cs.drop 6).dropWhile isSpace) with
    | none => ⟨⟨name, none, none, true⟩, cs⟩
    | some (publicId, false, rest) => ⟨⟨name, some publicId, none, true⟩, rest⟩
    | some (publicId, true, rest) =>
      match readIdentifier? (rest.dropWhile isSpace) with
      | some (systemId, finished, rest) =>
        ending ⟨name, some publicId, some systemId, !finished⟩ rest
      | none =>
        match rest.dropWhile isSpace with
        | '>' :: _ => (⟨name, some publicId, none, false⟩, rest)
        | rest => (⟨name, some publicId, none, true⟩, rest)
  else if beginsWith "system" cs then
    match readIdentifier? ((cs.drop 6).dropWhile isSpace) with
    | none => ⟨⟨name, none, none, true⟩, cs⟩
    | some (systemId, finished, rest) => ending ⟨name, none, some systemId, !finished⟩ rest
  else ⟨⟨name, none, none, true⟩, cs⟩

/-- A document type behind its keyword. -/
def readDoctype (cs : List Char) : Token × List Char :=
  match cs.dropWhile isSpace with
  | [] => (.doctype ⟨none, none, none, true⟩, [])
  | '>' :: rest => (.doctype ⟨none, none, none, true⟩, rest)
  | cs =>
    let chars := cs.takeWhile fun c => !isSpace c && c != '>'
    let name := some (String.ofList (chars.map fun c => denull c.toLower))
    match (cs.drop chars.length).dropWhile isSpace with
    | [] => (.doctype ⟨name, none, none, true⟩, [])
    | '>' :: rest => (.doctype ⟨name, none, none, false⟩, rest)
    | rest =>
      let (d, rest) := readIdentifiers name rest
      let rest := rest.dropWhile (· != '>')
      (.doctype { d with broken := d.broken || rest.isEmpty }, rest.drop 1)

/-- The text of a section of plain characters and what follows it. -/
def readSection : String → List Char → String × List Char
  | acc, [] => (acc, [])
  | acc, ']' :: ']' :: '>' :: rest => (acc, rest)
  | acc, c :: rest => readSection (acc.push c) rest

/-- What begins with an exclamation mark. Sections of plain characters exist in foreign content
alone. -/
def readDeclaration (foreign : Bool) (cs : List Char) : Token × List Char :=
  match cs with
  | '-' :: '-' :: rest =>
    let (text, rest) := readCommentStart rest
    (.comment text, rest)
  | _ =>
    if beginsWith "doctype" cs then readDoctype (cs.drop 7)
    else if foreign && "[CDATA[".toList.isPrefixOf cs then
      let (text, rest) := readSection "" (cs.drop 7)
      (.chars text, rest)
    else readBogus cs

/-! ## Text -/

/-- Does the end tag of a name begin here? -/
def atEndTag (name : String) (cs : List Char) : Bool :=
  match cs with
  | '<' :: '/' :: rest =>
    beginsWith name rest && (rest.drop name.length).head?.any fun c =>
      isSpace c || c == '/' || c == '>'
  | _ => false

/-- Text up to the end tag of a name, with references if it is `escapable`. -/
def readRaw (escapable : Bool) (name : String) : Nat → String → List Char → String × List Char
  | 0, acc, cs => (acc, cs)
  | fuel + 1, acc, cs =>
    match cs with
    | [] => (acc, [])
    | '&' :: rest =>
      if escapable then
        let (chars, rest) := readReference false rest
        readRaw escapable name fuel (acc ++ String.ofList chars) rest
      else readRaw escapable name fuel (acc.push '&') rest
    | '<' :: rest =>
      if atEndTag name cs then (acc, cs) else readRaw escapable name fuel (acc.push '<') rest
    | c :: rest => readRaw escapable name fuel (acc.push (denull c)) rest

/-- Where in a script its text stands: outside of comments, in a comment, or in a script that is
written in a comment, and how many dashes have just passed. -/
inductive ScriptPlace
  | plain
  | comment (dashes : Nat)
  | nested (dashes : Nat)
deriving DecidableEq, Repr

/-- Does a tag of a script within a script begin with these letters? The answer holds the letters
and the character behind them. -/
def scriptWord? (cs : List Char) : Option (Bool × List Char × List Char) :=
  let letters := cs.takeWhile Char.isAlpha
  match cs.drop letters.length with
  | c :: rest =>
    if isSpace c || c == '/' || c == '>' then
      some (String.ofList (letters.map Char.toLower) == "script", letters ++ [c], rest)
    else none
  | [] => none

/-- The text of a script up to its end tag. -/
def readScript : Nat → ScriptPlace → String → List Char → String × List Char
  | 0, _, acc, cs => (acc, cs)
  | fuel + 1, place, acc, cs =>
    match cs with
    | [] => (acc, [])
    | c :: rest =>
      match place with
      | .plain =>
        if atEndTag "script" cs then (acc, cs)
        else if "<!--".toList.isPrefixOf cs then
          readScript fuel (.comment 2) (acc ++ "<!--") (cs.drop 4)
        else readScript fuel .plain (acc.push (denull c)) rest
      | .comment dashes =>
        if atEndTag "script" cs then (acc, cs)
        else if c == '>' && dashes ≥ 2 then readScript fuel .plain (acc.push c) rest
        else if c == '-' then readScript fuel (.comment (dashes + 1)) (acc.push c) rest
        else if c == '<' && rest.head?.any Char.isAlpha then
          match scriptWord? rest with
          | some (isScript, word, rest) =>
            readScript fuel (if isScript then .nested 0 else .comment 0)
              ((acc.push c) ++ String.ofList word) rest
          | none => readScript fuel (.comment 0) (acc.push c) rest
        else readScript fuel (.comment 0) (acc.push (denull c)) rest
      | .nested dashes =>
        if c == '>' && dashes ≥ 2 then readScript fuel .plain (acc.push c) rest
        else if c == '-' then readScript fuel (.nested (dashes + 1)) (acc.push c) rest
        else if c == '<' && rest.head? == some '/' then
          match scriptWord? (rest.drop 1) with
          | some (isScript, word, rest) =>
            readScript fuel (if isScript then .comment 0 else .nested 0)
              (acc ++ "</" ++ String.ofList word) rest
          | none => readScript fuel (.nested 0) (acc ++ "</") (rest.drop 1)
        else readScript fuel (.nested 0) (acc.push (denull c)) rest

/-- One token of markup. -/
def readMarkup (foreign : Bool) (cs : List Char) : Token × List Char :=
  let unfinished : Token × List Char := (.done, [])
  match cs with
  | [] => (.done, [])
  | '\x00' :: rest => (.nul, rest)
  | '&' :: rest =>
    let (chars, rest) := readReference false rest
    (.chars (String.ofList chars), rest)
  | '<' :: '!' :: rest => readDeclaration foreign rest
  | '<' :: '/' :: '>' :: rest => (.chars "", rest)
  | ['<', '/'] => (.chars "</", [])
  | '<' :: '/' :: c :: rest =>
    if c.isAlpha then (readTag true (c :: rest)).getD unfinished else readBogus (c :: rest)
  | '<' :: '?' :: rest => readBogus ('?' :: rest)
  | '<' :: c :: rest =>
    if c.isAlpha then (readTag false (c :: rest)).getD unfinished else (.chars "<", c :: rest)
  | ['<'] => (.chars "<", [])
  | _ =>
    let text := cs.takeWhile fun c => c != '<' && c != '&' && c != '\x00'
    (.chars (String.ofList text), cs.drop text.length)

/-- One token off a text. -/
def nextToken (mode : TextMode) (foreign : Bool) (cs : List Char) : Token × List Char :=
  let text (r : String × List Char) : Token × List Char :=
    if r.1.isEmpty then readMarkup foreign r.2 else (.chars r.1, r.2)
  match mode with
  | .markup => readMarkup foreign cs
  | .escapable name => text (readRaw true name (cs.length + 1) "" cs)
  | .raw name => text (readRaw false name (cs.length + 1) "" cs)
  | .script => text (readScript (cs.length + 1) .plain "" cs)
  | .plain => text (String.ofList (cs.map denull), [])

end CrawlMesh.Html
