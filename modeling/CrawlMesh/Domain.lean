/-
# Primary domains

The primary domain of a host is the part that a site owner registers: the last two labels of
the name, or the last three where the second-last is one under which countries register names
(`bbc.co.uk`). The text of an internet address, with brackets or without, is its own primary
domain. Case, blanks around the name and dots at its end do not count.
-/
import CrawlMesh.Error
import CrawlMesh.Net.Address
import CrawlMesh.Text.Blank
import CrawlMesh.Text.Case
import CrawlMesh.Text.Split

namespace CrawlMesh

set_option autoImplicit false

namespace Domain

/-- Labels under which countries with two letters register names. -/
def secondLevel : List String := ["co", "com", "net", "org", "gov", "edu", "ac"]

/-- The labels of a name. -/
def labels (host : List Char) : List (List Char) := Text.splitWhere (· == '.') host

/-- The name of labels. -/
def joinLabels (labels : List (List Char)) : String :=
  String.ofList (List.intercalate ['.'] labels)

/-- How many labels the primary domain of a name has, given the last two labels. -/
def keptLabels (last second : List Char) : Nat :=
  if (String.ofList last).utf8ByteSize == 2 && secondLevel.contains (String.ofList second) then 3
  else 2

/-- The primary domain of labels, last label first. -/
def primaryLabels (reversed : List (List Char)) : List (List Char) :=
  match reversed with
  | last :: second :: _ => (reversed.take (keptLabels last second)).reverse
  | _ => reversed.reverse

/-- A host without blanks, dots at its end and capital letters. -/
def normalized (host : String) : String :=
  Text.lower (Text.trimEndWith (· == '.') (Text.trim host))

/-- A host without brackets. -/
def bare (host : String) : String :=
  Text.trimEndWith (· == ']') (Text.trimStartWith (· == '[') host)

end Domain

open Domain in
/-- The primary domain of a host. -/
def primaryDomain (host : String) : Outcome String :=
  let name := normalized host
  if name.isEmpty then .error (.argument "empty host")
  else if (Net.Ip.ofText? (bare name)).isSome then .ok (bare name)
  else
    let parts := labels name.toList
    if parts.any List.isEmpty then .error (.argument ("malformed host: " ++ name))
    else if parts.length ≤ 2 then .ok name
    else .ok (joinLabels (primaryLabels parts.reverse))

end CrawlMesh
