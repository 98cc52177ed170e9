/-
# White space and trimming

White space is the `White_Space` property of the Unicode standard. `trim` takes it off both
ends of a text and leaves what is between alone.
-/
namespace CrawlMesh.Text

set_option autoImplicit false

/-- The characters with the `White_Space` property. -/
def isBlank (c : Char) : Bool :=
  let n := c.toNat
  (0x9 ≤ n && n ≤ 0xD) || n == 0x20 || n == 0x85 || n == 0xA0 || n == 0x1680 ||
    (0x2000 ≤ n && n ≤ 0x200A) || n == 0x2028 || n == 0x2029 || n == 0x202F || n == 0x205F ||
    n == 0x3000

/-- A list without its longest tail of elements that satisfy `p`. -/
def dropEndWhile {α : Type} (p : α → Bool) (l : List α) : List α :=
  (l.reverse.dropWhile p).reverse

/-- The characters of a text without the blanks in front. -/
def trimStart (s : String) : String :=
  String.ofList (s.toList.dropWhile isBlank)

/-- A text without the characters at its end that satisfy `p`. -/
def trimEndWith (p : Char → Bool) (s : String) : String :=
  String.ofList (dropEndWhile p s.toList)

/-- A text without the characters at its start that satisfy `p`. -/
def trimStartWith (p : Char → Bool) (s : String) : String :=
  String.ofList (s.toList.dropWhile p)

/-- A text without the blanks at its two ends. -/
def trim (s : String) : String :=
  String.ofList (dropEndWhile isBlank (s.toList.dropWhile isBlank))

/-- Is there anything but blanks in the text? -/
def isAllBlank (s : String) : Bool := s.toList.all isBlank

end CrawlMesh.Text
