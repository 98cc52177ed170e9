/-
# Reading addresses

`Url.parse` reads a whole address and `Url.join` an address relative to another one. Blanks and
control characters around the text and line breaks and tabs within it do not count. The reader
is the one of web browsers: it repairs what it can (missing or turned slashes, dots in paths,
drive letters in paths of files) and refuses little.
-/
import CrawlMesh.Text.Blank
import CrawlMesh.Url.Basic

namespace CrawlMesh.Url

set_option autoImplicit false

/-- What is left of a text when all that does not count is taken away. -/
def significant (s : String) : List Char :=
  let edge (c : Char) : Bool := c.toNat ≤ 0x20
  (Text.dropEndWhile edge (s.toList.dropWhile edge)).filter fun c =>
    c != '\t' && c != '\n' && c != '\r'

/-- A scheme in front of a text, in small letters, and what follows its colon. -/
def readScheme? (cs : List Char) : Option (String × List Char) :=
  let isSchemeChar (c : Char) : Bool := c.isAlphanum || c == '+' || c == '-' || c == '.'
  match cs with
  | [] => none
  | c :: _ =>
    if !c.isAlpha then none
    else
      match cs.dropWhile isSchemeChar with
      | ':' :: rest => some (String.ofList ((cs.takeWhile isSchemeChar).map Char.toLower), rest)
      | _ => none

/-! ## Ends -/

def isSlash (c : Char) : Bool := c == '/' || c == '\\'

/-- Does a character begin the query or the fragment? -/
def endsPath (c : Char) : Bool := c == '?' || c == '#'

/-- Does a character end the authority? -/
def endsAuthority (special : Bool) (c : Char) : Bool :=
  c == '/' || endsPath c || (special && c == '\\')

/-- The query and the fragment that a text begins with. -/
def readTail (special : Bool) (cs : List Char) : Option String × Option String :=
  let fragment (cs : List Char) : Option String := match cs with
    | '#' :: rest => some (escape escapedFragment rest)
    | _ => none
  match cs with
  | '?' :: rest =>
    (some (escape (escapedQuery special) (rest.takeWhile (· != '#'))),
      fragment (rest.dropWhile (· != '#')))
  | _ => (none, fragment cs)

/-- An address with the query and the fragment that a text begins with. -/
def withTail (u : Url) (cs : List Char) : Url :=
  let (query, fragment) := readTail (isSpecial u.scheme) cs
  { u with query := query, fragment := fragment }

/-! ## Paths -/

/-- Is a segment the name of a drive, and if `strict` with a colon? -/
def isDrive (strict : Bool) (segment : List Char) : Bool :=
  match segment with
  | [letter, mark] => letter.isAlpha && (mark == ':' || (!strict && mark == '|'))
  | _ => false

/-- Does a text begin with a segment that is the name of a drive? -/
def startsWithDrive (cs : List Char) : Bool :=
  isDrive false (cs.take 2) && (cs.drop 2).head?.all fun c => isSlash c || endsPath c

/-- The segment that stands for the one it is in. -/
def isDot (segment : List Char) : Bool :=
  [".", "%2e", "%2E"].contains (String.ofList segment)

/-- The segment that stands for the one above. -/
def isDoubleDot (segment : List Char) : Bool :=
  ["..", "%2e%2e", "%2e%2E", "%2E%2e", "%2E%2E", "%2e.", "%2E.", ".%2e", ".%2E"].contains
    (String.ofList segment)

/-- Leave the last segment, unless it is the name of a drive. The segments are last first. -/
def leaveSegment : List String → List String
  | [] => []
  | s :: rest => if isDrive false s.toList then s :: rest else rest

/-- Walk along a segment that is not the last one. The segments are last first. -/
def enterSegment (file : Bool) (done : List String) (segment : List Char) : List String :=
  if isDoubleDot segment then leaveSegment done
  else if isDot segment then done
  else
    match segment with
    | [letter, _] =>
      if file && done.all String.isEmpty && isDrive false segment then
        String.ofList [letter, ':'] :: done
      else escape escapedPath segment :: done
    | _ => escape escapedPath segment :: done

/-- Walk along all segments. A path that ends in a segment of dots ends in an empty segment. -/
def walk (file : Bool) (done : List String) : List (List Char) → List String
  | [] => done
  | [last] =>
    if isDoubleDot last || isDot last then "" :: enterSegment file done last
    else enterSegment file done last
  | segment :: rest => walk file (enterSegment file done segment) rest

/-- The segments of the path that a text begins with, below segments already passed (last
first), and what follows the path. The path of a file has no empty segments in front. -/
def readPath (scheme : String) (done : List String) (cs : List Char) : Path × List Char :=
  let separates (c : Char) : Bool := c == '/' || (isSpecial scheme && c == '\\')
  let raw := Text.splitWhere separates (cs.takeWhile fun c => !endsPath c)
  let items := (walk (scheme == "file") done raw).reverse
  let items :=
    if scheme == "file" then
      match items.dropWhile String.isEmpty with
      | [] => [""]
      | items => items
    else items
  (.segments items, cs.dropWhile fun c => !endsPath c)

/-- The path behind an authority. A well-known scheme always has one. -/
def readPathStart (scheme : String) (cs : List Char) : Path × List Char :=
  match cs with
  | [] => if isSpecial scheme then readPath scheme [] [] else (.segments [], [])
  | c :: rest =>
    if c == '/' || (isSpecial scheme && c == '\\') then readPath scheme [] rest
    else if endsPath c && !isSpecial scheme then (.segments [], cs)
    else readPath scheme [] cs

/-! ## Authorities -/

/-- The user in front of a host. -/
def readUser (cs : List Char) : String × Option String :=
  let name := cs.takeWhile (· != ':')
  let password := (cs.dropWhile (· != ':')).drop 1
  (escape escapedUser name, if password.isEmpty then none else some (escape escapedUser password))

/-- Take the user, up to the last at sign, off a text. -/
def readUserInfo (special : Bool) (cs : List Char) :
    Except Fault ((String × Option String) × List Char) :=
  let info := cs.takeWhile fun c => !endsAuthority special c
  let reversed := info.reverse
  if !info.contains '@' then .ok (("", none), cs)
  else
    let user := ((reversed.dropWhile (· != '@')).drop 1).reverse
    let rest := cs.drop (user.length + 1)
    if user.isEmpty then
      if rest.head?.any (endsAuthority special) then .error .emptyHost else .ok (("", none), rest)
    else .ok (readUser user, rest)

/-- The text of the host: up to a colon outside brackets or the end of the authority. -/
def hostLength (special : Bool) (inside : Bool) : List Char → Nat
  | [] => 0
  | c :: rest =>
    if (c == ':' && !inside) || endsAuthority special c then 0
    else hostLength special (if c == '[' then true else if c == ']' then false else inside) rest + 1

/-- The port behind a colon; an authority without digits or with the usual port has none. -/
def readPort (scheme : String) (cs : List Char) : Except Fault (Option UInt16 × List Char) :=
  match cs with
  | ':' :: rest =>
    let digits := rest.takeWhile Char.isDigit
    let rest := rest.dropWhile Char.isDigit
    let n := digits.foldl (fun n d => min (n * 10 + (d.toNat - '0'.toNat)) 65536) 0
    if n > 65535 || rest.head?.any (fun c => !isSlash c && !endsPath c) then .error .badPort
    else if digits.isEmpty || defaultPort? scheme == some n.toUInt16 then .ok (none, rest)
    else .ok (some n.toUInt16, rest)
  | _ => .ok (none, cs)

/-- The authority that a text begins with. -/
def readAuthority (scheme : String) (cs : List Char) : Except Fault (Authority × List Char) := do
  let special := isSpecial scheme
  let ((user, password), cs) ← readUserInfo special cs
  let length := hostLength special false cs
  let name := cs.take length
  let rest := cs.drop length
  if special && name.isEmpty then throw .emptyHost
  let host ← if special then Host.read name else Host.readOpaque name
  if host = .empty && rest.head? == some ':' then throw .emptyHost
  let (port, rest) ← readPort scheme rest
  let authority : Authority := ⟨user, password, host, port⟩
  if host = .empty && !authority.userText.isEmpty then throw .emptyHost
  return (authority, rest)

/-- What follows the two slashes in front of an authority. -/
def readAfterSlashes (scheme : String) (cs : List Char) : Except Fault Url := do
  let (authority, rest) ← readAuthority scheme cs
  let (path, rest) := readPathStart scheme rest
  return withTail ⟨scheme, some authority, path, none, none⟩ rest

/-! ## Files -/

/-- The authority of a file on this machine. -/
def noHost : Authority := ⟨"", none, .empty, none⟩

/-- A file on a host. The name of a drive in the place of the host begins the path, and a path
that begins with a drive has no host. -/
def readFileHost (cs : List Char) : Except Fault Url := do
  let ends (c : Char) : Bool := isSlash c || endsPath c
  let name := cs.takeWhile fun c => !ends c
  let (host, rest) ←
    if isDrive false name then pure (Host.empty, cs)
    else if name.isEmpty then pure (Host.empty, cs)
    else do
      let host ← Host.read name
      let host := if host = .domain "localhost" then Host.empty else host
      pure (host, cs.dropWhile fun c => !ends c)
  let rest := if host != .empty && rest.head?.any isSlash then rest.drop 1 else rest
  let (path, rest') := readPath "file" [] rest
  let host := if startsWithDrive rest then Host.empty else host
  return withTail ⟨"file", some { noHost with host := host }, path, none, none⟩ rest'

/-- A path on this machine, or on the host and drive of another file. -/
def readFileSlash (base : Option Url) (cs : List Char) : Url :=
  let fromBase : Host × List String :=
    match base with
    | none => (.empty, [])
    | some b =>
      if startsWithDrive cs then (.empty, [])
      else
        match b.segments with
        | drive :: _ =>
          if isDrive true drive.toList then (.empty, [drive])
          else ((b.authority.map (·.host)).getD .empty, [])
        | [] => ((b.authority.map (·.host)).getD .empty, [])
  let (path, rest) := readPath "file" fromBase.2 cs
  withTail ⟨"file", some { noHost with host := fromBase.1 }, path, none, none⟩ rest

/-- The segments of a file's directory, last first; a drive is kept. -/
def directory (u : Url) : List String :=
  match u.segments.reverse with
  | [] => []
  | s :: rest => if u.scheme == "file" && isDrive true s.toList then s :: rest else rest

/-- An address of a file, relative to another file if there is one. -/
def readFile (base : Option Url) (cs : List Char) : Except Fault Url :=
  match cs with
  | c :: rest =>
    if isSlash c then
      match rest with
      | d :: rest' => if isSlash d then readFileHost rest' else .ok (readFileSlash base rest)
      | [] => .ok (readFileSlash base rest)
    else
      match base with
      | none =>
        let (path, rest) := readPath "file" [] cs
        .ok (withTail ⟨"file", some noHost, path, none, none⟩ rest)
      | some b =>
        if c == '?' then .ok (withTail b cs)
        else if c == '#' then .ok { b with fragment := (readTail true cs).2 }
        else if startsWithDrive cs then
          let (path, rest) := readPath "file" [] cs
          .ok (withTail ⟨"file", some noHost, path, none, none⟩ rest)
        else
          let (path, rest) := readPath "file" (directory b) cs
          .ok (withTail { b with path := path } rest)
  | [] =>
    match base with
    | some b => .ok { b with fragment := none }
    | none => .ok ⟨"file", some noHost, .segments [""], none, none⟩

/-! ## Whole addresses -/

/-- An address relative to one with a hierarchy that is no file. -/
def readRelative (base : Url) (cs : List Char) : Except Fault Url :=
  match cs with
  | [] => .ok { base with fragment := none }
  | '?' :: _ => .ok (withTail base cs)
  | '#' :: _ => .ok { base with fragment := (readTail (isSpecial base.scheme) cs).2 }
  | c :: rest =>
    if isSlash c then
      if rest.head?.any isSlash then
        match cs with
        | '/' :: '/' :: rest => readAfterSlashes base.scheme rest
        | _ => readAfterSlashes base.scheme (cs.dropWhile isSlash)
      else
        let (path, rest) := readPath base.scheme [] rest
        .ok (withTail { base with path := path } rest)
    else
      let (path, rest) := readPath base.scheme (directory base) cs
      .ok (withTail { base with path := path } rest)

/-- What follows the scheme of an address under a scheme that is not well known. -/
def readGeneric (scheme : String) (cs : List Char) : Except Fault Url :=
  match cs with
  | '/' :: '/' :: rest => readAfterSlashes scheme rest
  | '/' :: rest =>
    let (path, rest) := readPath scheme [] rest
    .ok (withTail ⟨scheme, none, path, none, none⟩ rest)
  | _ =>
    let path := escape escapedControl (cs.takeWhile fun c => !endsPath c)
    .ok (withTail ⟨scheme, none, .opaque_ path, none, none⟩ (cs.dropWhile fun c => !endsPath c))

/-- What follows the scheme of an address. -/
def readWithScheme (base : Option Url) (scheme : String) (cs : List Char) : Except Fault Url :=
  if scheme == "file" then readFile (base.filter (·.scheme == "file")) cs
  else if isSpecial scheme then
    match base with
    | some b =>
      if (cs.takeWhile isSlash).length < 2 && b.scheme == scheme then readRelative b cs
      else readAfterSlashes scheme (cs.dropWhile isSlash)
    | none => readAfterSlashes scheme (cs.dropWhile isSlash)
  else readGeneric scheme cs

/-- Read an address, relative to `base` if there is one. -/
def read (base : Option Url) (s : String) : Except Fault Url :=
  let cs := significant s
  match readScheme? cs with
  | some (scheme, rest) => readWithScheme base scheme rest
  | none =>
    match base with
    | none => .error .noBase
    | some b =>
      if cs.head? == some '#' then
        .ok { b with fragment := (readTail (isSpecial b.scheme) cs).2 }
      else if b.isOpaque then .error .opaqueBase
      else if b.scheme == "file" then readFile (some b) cs
      else readRelative b cs

/-- The address that a text stands for. -/
def parse (s : String) : Except Fault Url := read none s

/-- The address that a text on the page `base` stands for. -/
def join (base : Url) (s : String) : Except Fault Url := read (some base) s

end CrawlMesh.Url
