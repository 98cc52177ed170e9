/-
# Cookies of a request

Each call that adds a cookie reads the cookies so far back from the header and sets the field anew.  A
cookie is accepted if it holds no control characters but tabs (`Cookie.isValue`), but a value is read
back only if it is plain (`Cookie.isPlain`).  So one call has three outcomes, for a request that holds
some cookies (`addCookie_withCookies`):

* a cookie that is not a value is refused, and the request stays as it is;
* an accepted one is put behind the ones that are there, if those are all plain;
* and if one of those is not plain, it takes the place of them all.

Over any sequence of calls the field holds, of the accepted cookies, the last one and the plain ones
right before it (`Cookie.kept`, `addCookies_eq`).  These are all accepted ones exactly if all but the
last are plain (`Cookie.kept_eq_self_iff`), and only then is their joined text the one in the header
(`cookies_accumulate_iff_plain`).
-/
import CrawlMesh.Proofs.Mesh.Requests
import Mathlib.Data.List.DropRight

namespace CrawlMesh

set_option autoImplicit false

/-- What one call adds. -/
structure Cookie where
  key : String
  value : String
deriving DecidableEq, Repr

namespace Cookie

/-- A cookie as it stands in the header. -/
def text (cookie : Cookie) : String := cookie.key ++ "=" ++ cookie.value

/-- Is a cookie accepted? -/
def isValue (cookie : Cookie) : Bool := Header.isValue cookie.text

/-- Can a cookie be read back from the header? -/
def isPlain (cookie : Cookie) : Bool := Header.isPlain cookie.text

/-- The text of several cookies. -/
def joined (cookies : List Cookie) : String := "; ".intercalate (cookies.map text)

/-- The fields of a header that hold some cookies: one with one value, or none. -/
def field (cookies : List Cookie) : List (String × List String) :=
  if cookies = [] then [] else [("cookie", [joined cookies])]

/-- The cookies that are still there of the accepted ones: the last one and the plain ones right before
it. -/
def kept (cookies : List Cookie) : List Cookie :=
  cookies.dropLast.rtakeWhile isPlain ++ cookies.getLast?.toList

/-- Put a cookie behind others if they are plain, and in their place if not. -/
def put (cookies : List Cookie) (cookie : Cookie) : List Cookie :=
  if cookies.all isPlain then cookies ++ [cookie] else [cookie]

/-! ## Joined texts -/

theorem joined_singleton (cookie : Cookie) : joined [cookie] = cookie.text := by simp [joined]

theorem joined_append {front back : List Cookie} (some : front ≠ []) (more : back ≠ []) :
    joined (front ++ back) = joined front ++ "; " ++ joined back := by
  rw [joined, List.map_append,
    String.intercalate_append_of_ne_nil (by simpa using some) (by simpa using more)]
  rfl

/-- A joined text consists of some characters if its cookies do and the separator does. -/
theorem all_joined {p : Char → Bool} (separator : "; ".toList.all p = true) (cookies : List Cookie) :
    (joined cookies).toList.all p = cookies.all fun cookie => cookie.text.toList.all p := by
  induction cookies with
  | nil => rfl
  | cons cookie rest ih =>
      rcases eq_or_ne rest [] with rfl | more
      · simp [joined_singleton]
      · rw [← List.singleton_append, joined_append (List.cons_ne_nil _ _) more, joined_singleton]
        simp only [String.toList_append, List.all_append, separator, ih, Bool.and_true]
        simp

theorem isPlain_joined (cookies : List Cookie) : Header.isPlain (joined cookies) = cookies.all isPlain :=
  all_joined (by decide) cookies

theorem isValue_joined (cookies : List Cookie) : Header.isValue (joined cookies) = cookies.all isValue :=
  all_joined (by decide) cookies

theorem joined_ne_empty {cookies : List Cookie} (some : cookies ≠ []) : joined cookies ≠ "" := by
  obtain ⟨cookie, rest, rfl⟩ := List.exists_cons_of_ne_nil some
  intro empty
  rcases eq_or_ne rest [] with rfl | more
  · simp [joined_singleton, text] at empty
  · rw [← List.singleton_append, joined_append (List.cons_ne_nil _ _) more] at empty
    simp at empty

/-- Cookies in front make the text longer. -/
theorem joined_append_eq_iff (front : List Cookie) {back : List Cookie} (some : back ≠ []) :
    joined (front ++ back) = joined back ↔ front = [] := by
  constructor
  · intro same
    by_contra more
    have lengths := congrArg String.length same
    simp only [joined_append more some, String.length_append] at lengths
    have separator : "; ".length = 2 := rfl
    omega
  · rintro rfl
    rfl

/-! ## Cookies that are still there -/

theorem kept_concat (cookies : List Cookie) (cookie : Cookie) :
    kept (cookies ++ [cookie]) = cookies.rtakeWhile isPlain ++ [cookie] := by
  rw [kept, List.dropLast_concat, List.getLast?_concat]
  rfl

theorem kept_eq_nil_iff {cookies : List Cookie} : kept cookies = [] ↔ cookies = [] := by
  obtain rfl | ⟨earlier, last, rfl⟩ := List.eq_nil_or_concat' cookies
  · simp [kept]
  · simp [kept_concat]

theorem kept_suffix (cookies : List Cookie) : kept cookies <:+ cookies := by
  obtain rfl | ⟨earlier, last, rfl⟩ := List.eq_nil_or_concat' cookies
  · exact List.suffix_rfl
  · obtain ⟨front, split⟩ := List.rtakeWhile_suffix isPlain earlier
    exact ⟨front, by rw [kept_concat, ← List.append_assoc, split]⟩

/-- Nothing is lost exactly if all but the last cookie are plain. -/
theorem kept_eq_self_iff {cookies : List Cookie} :
    kept cookies = cookies ↔ ∀ cookie ∈ cookies.dropLast, cookie.isPlain = true := by
  obtain rfl | ⟨earlier, last, rfl⟩ := List.eq_nil_or_concat' cookies
  · simp [kept]
  · rw [kept_concat, List.dropLast_concat, List.append_cancel_right_eq, List.rtakeWhile_eq_self_iff]

/-- And only then the text is the one of all cookies. -/
theorem joined_kept_eq_iff {cookies : List Cookie} :
    joined (kept cookies) = joined cookies ↔ kept cookies = cookies := by
  obtain rfl | ⟨earlier, last, rfl⟩ := List.eq_nil_or_concat' cookies
  · exact iff_of_true rfl rfl
  · have some : kept (earlier ++ [last]) ≠ [] := by simp [kept_concat]
    obtain ⟨front, split⟩ := kept_suffix (earlier ++ [last])
    have texts := joined_append_eq_iff front some
    rw [split] at texts
    rw [eq_comm, texts, ← List.self_eq_append_left, split]

theorem put_ne_nil (cookies : List Cookie) (cookie : Cookie) : put cookies cookie ≠ [] := by
  rw [put]
  split <;> simp

/-- Without cookies that are read back a cookie stands alone. -/
theorem put_of_unreadable {cookies : List Cookie}
    (unreadable : ¬ (cookies ≠ [] ∧ cookies.all isPlain = true)) (cookie : Cookie) :
    put cookies cookie = [cookie] := by
  rw [put]
  split
  · rename_i plain
    obtain rfl : cookies = [] := by_contra fun some => unreadable ⟨some, plain⟩
    rfl
  · rfl

theorem all_isValue_put {cookies : List Cookie} (valid : cookies.all isValue = true) (cookie : Cookie) :
    (put cookies cookie).all isValue = cookie.isValue := by
  rw [put]
  split <;> simp [valid]

/-- One more accepted cookie is put to the ones that are still there. -/
theorem kept_concat_eq_put (cookies : List Cookie) (cookie : Cookie) :
    kept (cookies ++ [cookie]) = put (kept cookies) cookie := by
  obtain rfl | ⟨earlier, last, rfl⟩ := List.eq_nil_or_concat' cookies
  · rfl
  · have before : (earlier.rtakeWhile isPlain).all isPlain = true :=
      List.all_eq_true.mpr fun _ member => List.mem_rtakeWhile_imp member
    have all : (kept (earlier ++ [last])).all isPlain = last.isPlain := by
      simp [kept_concat, before]
    rw [put, all, kept_concat, kept_concat]
    by_cases plain : last.isPlain = true
    · rw [List.rtakeWhile_concat_pos _ _ _ plain, if_pos plain]
    · rw [List.rtakeWhile_concat_neg _ _ _ plain, if_neg plain, List.nil_append]

end Cookie

namespace Request

variable {r : Request} {cookies : List Cookie}

/-- Add cookies one after the other. A call that fails leaves the request as it is; the cookies of the
others are listed. -/
def addCookies (r : Request) (calls : List Cookie) : Request × List Cookie :=
  calls.foldl (fun now cookie =>
    match now.1.addCookie cookie.key cookie.value with
    | .ok next => (next, now.2 ++ [cookie])
    | .error _ => now) (r, [])

theorem addCookies_concat (r : Request) (calls : List Cookie) (cookie : Cookie) :
    r.addCookies (calls ++ [cookie]) =
      match (r.addCookies calls).1.addCookie cookie.key cookie.value with
      | .ok next => (next, (r.addCookies calls).2 ++ [cookie])
      | .error _ => r.addCookies calls := by
  rw [addCookies, List.foldl_concat]
  rfl

/-- A request with some cookies at the end of its header. -/
def withCookies (r : Request) (cookies : List Cookie) : Request :=
  { r with header := ⟨r.header.fields ++ Cookie.field cookies⟩ }

/-! ## One call -/

theorem addCookie_of_some {existing : String} (read : r.cookies? = some existing) (cookie : Cookie) :
    r.addCookie cookie.key cookie.value = r.setHeader "cookie" (existing ++ "; " ++ cookie.text) := by
  rw [addCookie, read, Cookie.text]

theorem addCookie_of_none (read : r.cookies? = none) (cookie : Cookie) :
    r.addCookie cookie.key cookie.value = r.setHeader "cookie" cookie.text := by
  rw [addCookie, read, Cookie.text]

section Fresh

-- the request has no cookies of its own
variable (fresh : "cookie" ∉ r.header.fields.map Prod.fst)

include fresh

theorem values_withCookies (cookies : List Cookie) :
    (r.withCookies cookies).header.values "cookie" =
      if cookies = [] then [] else [Cookie.joined cookies] := by
  have absent : r.header.fields.find? (·.1 == "cookie") = none := by
    rw [List.find?_eq_none]
    intro field member same
    exact fresh (List.mem_map.mpr ⟨field, member, beq_iff_eq.mp same⟩)
  by_cases none : cookies = []
  · simp [Header.values, withCookies, Cookie.field, none, absent]
  · simp [Header.values, withCookies, Cookie.field, none, absent]

/-- Plain cookies are read back. -/
theorem cookies?_withCookies (cookies : List Cookie) :
    (r.withCookies cookies).cookies? =
      if cookies ≠ [] ∧ cookies.all Cookie.isPlain then some (Cookie.joined cookies) else none := by
  rw [cookies?, values_withCookies fresh]
  by_cases none : cookies = []
  · simp [none]
  · have written : (Cookie.joined cookies).isEmpty = false := by
      simpa using Cookie.joined_ne_empty none
    simp [none, written, Cookie.isPlain_joined]

/-- Setting the field of the cookies leaves the request as it is otherwise. -/
theorem setHeader_withCookies (cookies : List Cookie) {next : List Cookie} (some : next ≠ []) :
    (r.withCookies cookies).setHeader "cookie" (Cookie.joined next) =
      if next.all Cookie.isValue then .ok (r.withCookies next)
      else .error (.argument "invalid header value: failed to parse header value") := by
  have inserted : (r.withCookies cookies).header.insert "cookie" (Cookie.joined next) =
      (r.withCookies next).header := by
    rw [Header.insert]
    by_cases none : cookies = []
    · simp [withCookies, Cookie.field, none, some, Header.update_fresh fresh]
    · simp [withCookies, Cookie.field, none, some, Header.update_last fresh]
  have named : Header.name? "cookie" = Option.some "cookie" := by decide
  rw [setHeader, Header.set, named]
  simp only [Cookie.isValue_joined, inserted]
  split <;> rfl

/-- **What a call does.**  It is refused or accepted for its own text, whatever cookies are there. -/
theorem addCookie_withCookies (valid : cookies.all Cookie.isValue = true) (cookie : Cookie) :
    (r.withCookies cookies).addCookie cookie.key cookie.value =
      if cookie.isValue then .ok (r.withCookies (Cookie.put cookies cookie))
      else .error (.argument "invalid header value: failed to parse header value") := by
  have set : (r.withCookies cookies).addCookie cookie.key cookie.value =
      (r.withCookies cookies).setHeader "cookie" (Cookie.joined (Cookie.put cookies cookie)) := by
    have read := cookies?_withCookies fresh cookies
    by_cases readable : cookies ≠ [] ∧ cookies.all Cookie.isPlain = true
    · rw [if_pos readable] at read
      rw [addCookie_of_some read, Cookie.put, if_pos readable.2,
        Cookie.joined_append readable.1 (List.cons_ne_nil _ _), Cookie.joined_singleton]
    · rw [if_neg readable] at read
      rw [addCookie_of_none read, Cookie.put_of_unreadable readable, Cookie.joined_singleton]
  rw [set, setHeader_withCookies fresh cookies (Cookie.put_ne_nil cookies cookie),
    Cookie.all_isValue_put valid]

/-! ## A sequence of calls -/

/-- The cookies that are accepted of some calls, and what the header holds of them. -/
theorem addCookies_eq (calls : List Cookie) :
    r.addCookies calls =
      (r.withCookies (Cookie.kept (calls.filter Cookie.isValue)), calls.filter Cookie.isValue) := by
  induction calls using List.reverseRecOn with
  | nil =>
      show (r, []) = (r.withCookies [], [])
      simp [withCookies, Cookie.field]
  | append_singleton calls cookie ih =>
      have valid : (Cookie.kept (calls.filter Cookie.isValue)).all Cookie.isValue = true := by
        rw [List.all_eq_true]
        intro other member
        exact (List.mem_filter.mp ((Cookie.kept_suffix _).mem member)).2
      rw [addCookies_concat, ih, addCookie_withCookies fresh valid, List.filter_append]
      by_cases accepted : cookie.isValue = true
      · have more : [cookie].filter Cookie.isValue = [cookie] := by simp [accepted]
        rw [if_pos accepted, more, Cookie.kept_concat_eq_put]
      · have same : [cookie].filter Cookie.isValue = [] := by simp [accepted]
        rw [if_neg accepted, same, List.append_nil]

/-- **Cookies accumulate as long as they are plain.**  A request without cookies is given some by a
sequence of calls.  Those that are taken are the ones with a text that may stand in a header.  Of them the
last one and the plain ones right before it are joined to the only value of a new field at the end of the
header, and all else stays.  So the value is the text of all that were taken exactly if they are plain up
to the last one.  The refused calls change nothing: without them the outcome is the same. -/
theorem cookies_accumulate_iff_plain {calls taken : List Cookie} {after : Request}
    (added : r.addCookies calls = (after, taken)) :
    taken = calls.filter Cookie.isValue ∧
    after = r.withCookies (Cookie.kept taken) ∧
    after.header.values "cookie" = (if taken = [] then [] else [Cookie.joined (Cookie.kept taken)]) ∧
    (after.header.values "cookie" = (if taken = [] then [] else [Cookie.joined taken]) ↔
      ∀ cookie ∈ taken.dropLast, cookie.isPlain = true) ∧
    r.addCookies taken = (after, taken) := by
  obtain ⟨rfl, rfl⟩ := Prod.mk.inj ((addCookies_eq fresh calls).symm.trans added)
  have values := values_withCookies fresh (Cookie.kept (calls.filter Cookie.isValue))
  simp only [Cookie.kept_eq_nil_iff] at values
  refine ⟨rfl, rfl, values, ?_, ?_⟩
  · rw [values, ← Cookie.kept_eq_self_iff]
    by_cases none : calls.filter Cookie.isValue = []
    · simp [none, Cookie.kept]
    · simp [none, Cookie.joined_kept_eq_iff]
  · rw [addCookies_eq fresh, List.filter_filter]
    simp only [Bool.and_self]

end Fresh

/-- A request with a note. -/
def greeted : Request :=
  { ofUrl ⟨"http", some ⟨"", none, .domain "a.example.com", none⟩, .segments [""], none, none⟩ with
    header := ⟨[("x-note", ["hello"])]⟩ }

/-- Of three cookies one is refused, and the last one is not plain. -/
theorem cookies_accumulate_iff_plain_greeted :
    "cookie" ∉ greeted.header.fields.map Prod.fst ∧
    greeted.addCookies [⟨"a", "1"⟩, ⟨"b", "\n"⟩, ⟨"c", "é"⟩] =
      (greeted.withCookies [⟨"a", "1"⟩, ⟨"c", "é"⟩], [⟨"a", "1"⟩, ⟨"c", "é"⟩]) ∧
    (greeted.withCookies [⟨"a", "1"⟩, ⟨"c", "é"⟩]).header.values "cookie" = ["a=1; c=é"] := by
  have fresh : "cookie" ∉ greeted.header.fields.map Prod.fst := by decide
  have added : greeted.addCookies [⟨"a", "1"⟩, ⟨"b", "\n"⟩, ⟨"c", "é"⟩] =
      (greeted.withCookies [⟨"a", "1"⟩, ⟨"c", "é"⟩], [⟨"a", "1"⟩, ⟨"c", "é"⟩]) := rfl
  obtain ⟨-, -, -, all, -⟩ := cookies_accumulate_iff_plain fresh added
  exact ⟨fresh, added, (all.mpr (by decide)).trans (by decide)⟩

/-- Both calls succeed, and the second one drops the cookie of the first. -/
theorem cookie_drops_unreadable_ones :
    "cookie" ∉ greeted.header.fields.map Prod.fst ∧
    (greeted.addCookies [⟨"a", "é"⟩, ⟨"b", "2"⟩]).2 = [⟨"a", "é"⟩, ⟨"b", "2"⟩] ∧
    (greeted.addCookies [⟨"a", "é"⟩, ⟨"b", "2"⟩]).1.header.values "cookie" = ["b=2"] ∧
    Cookie.joined [⟨"a", "é"⟩, ⟨"b", "2"⟩] = "a=é; b=2" := by
  decide

end Request

end CrawlMesh
