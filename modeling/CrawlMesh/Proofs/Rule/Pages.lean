/-
# What a page yields by checked rules

A reader for rules is made only if all their selectors and patterns can be read (`RuleReader.Checked`,
`of_eq_ok_iff`).  Reading a page asks for selectors again, for the one of the items and those of the fields
on every element, and for one of its own that finds the anchors.  All of them have been read before, so
that nothing fails on a page (`Checked.items_ok`, `links_ok`).

What is found on the page are the links of its anchors (`anchorLinks`) and the items that are wanted
(`wantedItems`), whose followed fields hold further links (`fieldLinks`).  Each link comes to something of
its own, whatever becomes of the others: to a request if it stands for an address that is to be followed
(`requestsFor`), and to an error if it stands for none (`linkErrors`).  An item is handed on whatever its
links come to (`items_yieldOf`).  So a link that is not valid costs one error and nothing else
(`requestsFor_of_fault`).
-/
import CrawlMesh.Rule.Reader
import Mathlib.Data.List.Forall2

namespace CrawlMesh

set_option autoImplicit false

/-! ## Lists that are read one by one -/

namespace Outcome

variable {α β : Type} {f : α → Outcome β} {l : List α}

theorem mapM_eq_ok_iff {images : List β} :
    l.mapM f = .ok images ↔ List.Forall₂ (fun x y => f x = .ok y) l images := by
  induction l generalizing images with
  | nil => simp [pure, Except.pure, eq_comm]
  | cons x rest ih =>
      rw [List.mapM_cons, List.forall₂_cons_left_iff]
      cases first : f x with
      | error e => simp [bind, Except.bind]
      | ok y =>
          cases later : rest.mapM f with
          | error e => simp [bind, Except.bind, ← ih, later]
          | ok ys => simp [bind, Except.bind, pure, Except.pure, ← ih, later, eq_comm]

/-- A list can be read if every part of it can. -/
theorem mapM_ok_iff : (∃ images, l.mapM f = .ok images) ↔ ∀ x ∈ l, ∃ y, f x = .ok y := by
  simp only [mapM_eq_ok_iff]
  induction l with
  | nil => simp
  | cons x rest ih =>
      rw [List.forall_mem_cons, ← ih]
      constructor
      · rintro ⟨_, _ | ⟨first, later⟩⟩
        exact ⟨⟨_, first⟩, _, later⟩
      · rintro ⟨⟨y, first⟩, ys, later⟩
        exact ⟨y :: ys, .cons first later⟩

theorem mem_of_mapM_ok {images : List β} (done : l.mapM f = .ok images) {y : β} :
    y ∈ images ↔ ∃ x ∈ l, f x = .ok y := by
  rw [mapM_eq_ok_iff] at done
  induction done with
  | nil => simp
  | cons first _ ih => simp [first, ih, eq_comm]

theorem subset_of_mapM_ok {more : List α} {images others : List β} (sub : l ⊆ more)
    (done : l.mapM f = .ok images) (doneMore : more.mapM f = .ok others) : images ⊆ others := by
  intro y member
  obtain ⟨x, among, image⟩ := (mem_of_mapM_ok done).mp member
  exact (mem_of_mapM_ok doneMore).mpr ⟨x, sub among, image⟩

theorem map_eq_of_mapM_ok {γ : Type} {g : α → γ} {h : β → γ} {images : List β}
    (same : ∀ x y, f x = .ok y → h y = g x) (done : l.mapM f = .ok images) :
    images.map h = l.map g := by
  rw [mapM_eq_ok_iff] at done
  induction done with
  | nil => rfl
  | cons first _ ih => rw [List.map_cons, List.map_cons, same _ _ first, ih]

end Outcome

/-! ## The two kinds of data -/

namespace Datum

def request? : Datum → Option Request
  | .request r => some r
  | .item _ => none

def item? : Datum → Option Item
  | .request _ => none
  | .item i => some i

theorem filterMap_request? (requests : List Request) :
    (requests.map request).filterMap request? = requests := by
  rw [List.filterMap_map]
  exact List.filterMap_some

theorem filterMap_item? (requests : List Request) : (requests.map request).filterMap item? = [] := by
  refine List.filterMap_eq_nil_iff.mpr fun d member => ?_
  obtain ⟨r, -, rfl⟩ := List.mem_map.mp member
  rfl

end Datum

/-- The requests of what a page yields, in their order. -/
def Yield.requests (y : Yield) : List Request := y.data.filterMap Datum.request?

/-- The items of what a page yields, in their order. -/
def Yield.items (y : Yield) : List Item := y.data.filterMap Datum.item?

namespace RuleReader

open Html (Document)

variable {rules : RuleSet} {r : RuleReader}

/-! ## Checked rules -/

/-- A reader whose rules were checked: their selectors can be read, and its patterns are theirs. -/
structure Checked (rules : RuleSet) (r : RuleReader) : Prop where
  rules_eq : r.rules = rules
  selectors : ∀ s ∈ selectors rules, ∃ selector, readSelector s = .ok selector
  followLinks : rules.followLinks.mapM readPattern = .ok r.followLinks
  acceptUrls : rules.acceptUrls.mapM readPattern = .ok r.acceptUrls

theorem of_eq_ok_iff : of rules = .ok r ↔ Checked rules r := by
  constructor
  · intro made
    cases read : (selectors rules).mapM readSelector with
    | error e => simp [of, read, bind, Except.bind] at made
    | ok known =>
        cases follow : rules.followLinks.mapM readPattern with
        | error e => simp [of, read, follow, bind, Except.bind] at made
        | ok followLinks =>
            cases accept : rules.acceptUrls.mapM readPattern with
            | error e => simp [of, read, follow, accept, bind, Except.bind] at made
            | ok acceptUrls =>
                simp only [of, read, follow, accept, bind, Except.bind, pure, Except.pure,
                  Except.ok.injEq] at made
                obtain rfl := made
                exact ⟨rfl, Outcome.mapM_ok_iff.mp ⟨known, read⟩, follow, accept⟩
  · rintro ⟨rfl, readable, follow, accept⟩
    obtain ⟨known, read⟩ := Outcome.mapM_ok_iff.mpr readable
    simp [of, read, follow, accept, bind, Except.bind, pure, Except.pure]

theorem Checked.node {selector : String} (checked : Checked rules r) (each : rules.node = .each selector) :
    ∃ known, readSelector selector = .ok known :=
  checked.selectors selector (by simp [RuleReader.selectors, each])

theorem Checked.field {field : String × FieldRule} {selector : String} (checked : Checked rules r)
    (member : field ∈ rules.fields) (selects : field.2.selector = some selector) :
    ∃ known, readSelector selector = .ok known :=
  checked.selectors selector
    (List.mem_append_right _ (List.mem_filterMap.mpr ⟨field, member, selects⟩))

/-! ## Nothing fails on a page -/

/-- The selector for anchors can be read. -/
theorem links_ok (document : Document) : ∃ hrefs, links document = .ok hrefs := ⟨_, rfl⟩

theorem fieldValue_ok {rule : FieldRule}
    (readable : ∀ s, rule.selector = some s → ∃ known, readSelector s = .ok known)
    (document : Document) (node : Nat) : ∃ value, fieldValue document node rule = .ok value := by
  unfold fieldValue
  split
  · exact ⟨_, rfl⟩
  · exact ⟨_, rfl⟩
  · rename_i selector selects _
    obtain ⟨known, read⟩ := readable selector selects
    rw [read]
    exact ⟨_, rfl⟩

theorem Checked.itemAt_ok (checked : Checked rules r) (document : Document) (node : Nat) :
    ∃ item, itemAt rules document node = .ok item := by
  refine Outcome.mapM_ok_iff.mpr fun field member => ?_
  obtain ⟨value, taken⟩ := fieldValue_ok (fun s => checked.field member) document node
  exact ⟨(field.1, value), by simp only [taken]; rfl⟩

theorem Checked.itemNodes_ok (checked : Checked rules r) (document : Document) :
    ∃ nodes, itemNodes rules document = .ok nodes := by
  unfold itemNodes
  split
  · exact ⟨_, rfl⟩
  · rename_i selector each
    obtain ⟨known, read⟩ := checked.node each
    rw [read]
    exact ⟨_, rfl⟩

/-- The items of a page are taken of its nodes one by one, and blank ones are left out. -/
theorem exists_of_items_ok {document : Document} {found : List Item}
    (taken : items rules document = .ok found) : ∃ nodes all, itemNodes rules document = .ok nodes ∧
      nodes.mapM (itemAt rules document) = .ok all ∧
      found = all.filter fun item => !item.all fun field => Item.isBlankValue field.2 := by
  cases placed : itemNodes rules document with
  | error e => simp [items, placed, bind, Except.bind] at taken
  | ok nodes =>
      cases each : nodes.mapM (itemAt rules document) with
      | error e => simp [items, placed, each, bind, Except.bind] at taken
      | ok all =>
          simp only [items, placed, each, bind, Except.bind, pure, Except.pure, Except.ok.injEq] at taken
          exact ⟨nodes, all, rfl, each, taken.symm⟩

theorem Checked.items_ok (checked : Checked rules r) (document : Document) :
    ∃ found, items rules document = .ok found := by
  obtain ⟨nodes, placed⟩ := checked.itemNodes_ok document
  obtain ⟨all, taken⟩ := Outcome.mapM_ok_iff.mpr fun node (_ : node ∈ nodes) =>
    checked.itemAt_ok document node
  refine ⟨all.filter fun item => !item.all fun field => Item.isBlankValue field.2, ?_⟩
  simp only [items, placed, taken, bind, Except.bind, pure, Except.pure]

/-! ## What is found on a page -/

/-- The links of the anchors of a page, if links are followed. -/
def anchorLinks (r : RuleReader) (response : Response) : Outcome (List String) :=
  if response.kind = .binary ∨ r.followLinks.isEmpty then .ok [] else links (.parse response.body)

/-- The items of a page, if they are wanted. -/
def wantedItems (r : RuleReader) (response : Response) : Outcome (List Item) :=
  if response.kind = .binary ∨ !r.wantsItems response then .ok []
  else items r.rules (.parse response.body)

/-- The links in the followed fields of an item. -/
def fieldLinks (rules : RuleSet) (item : Item) : List String :=
  rules.followFields.flatMap fun name => ((Json.Fields.get? item name).map addresses).getD []

/-- An item with the address of its page. -/
def withAddress (rules : RuleSet) (page : Url) (item : Item) : Item :=
  match rules.urlField with
  | some name => Json.Fields.insert name (.text page.text) item
  | none => item

/-- Is the address of a link on a page to be followed? -/
def follows (r : RuleReader) (address : String) : Bool := r.followLinks.any (·.isMatch address)

/-- What the links and the items of a page come to. -/
def yieldOf (r : RuleReader) (response : Response) (anchors : List String) (found : List Item) : Yield :=
  (Yield.concat (anchors.map (followLink response r.follows))).append
    (.concat (found.map (itemYield r.rules response)))

theorem linkRequests_eq {response : Response} (readable : response.kind ≠ .binary) :
    r.linkRequests response (.parse response.body) = do
      return .concat ((← r.anchorLinks response).map (followLink response r.follows)) := by
  rw [linkRequests, anchorLinks]
  by_cases none : r.followLinks.isEmpty = true
  · rw [if_pos none, if_pos (Or.inr none)]
    rfl
  · rw [if_neg none, if_neg (not_or.mpr ⟨readable, none⟩)]
    rfl

theorem extract_eq (r : RuleReader) (response : Response) :
    r.extract response = do
      let anchors ← r.anchorLinks response
      let found ← r.wantedItems response
      return r.yieldOf response anchors found := by
  by_cases binary : response.kind = .binary
  · rw [extract, if_pos binary, anchorLinks, if_pos (Or.inl binary), wantedItems, if_pos (Or.inl binary)]
    rfl
  · rw [extract, if_neg binary]
    show (r.linkRequests response (.parse response.body) >>= _) = _
    rw [linkRequests_eq binary, wantedItems]
    cases r.anchorLinks response with
    | error e => rfl
    | ok anchors =>
        by_cases wants : (!r.wantsItems response) = true
        · rw [if_pos (Or.inr wants)]
          show (if (!r.wantsItems response) = true then _ else _) = _
          rw [if_pos wants]
          simp [yieldOf, Yield.append, Yield.concat, bind, Except.bind, pure, Except.pure]
        · rw [if_neg (not_or.mpr ⟨binary, wants⟩)]
          show (if (!r.wantsItems response) = true then _ else _) = _
          rw [if_neg wants]
          rfl

/-! ## What becomes of a link -/

/-- The requests for the addresses of links that pass a test. -/
def requestsFor (page : Url) (wanted : String → Bool) (hrefs : List String) : List Request :=
  ((hrefs.filterMap fun href => (page.join href).toOption).filter fun url => wanted url.text).map .ofUrl

/-- The error of a link that stands for no address. -/
def linkError? (response : Response) (href : String) : Option CrawlError :=
  match response.url.join href with
  | .ok _ => none
  | .error fault => some (linkError response href fault)

/-- The errors of links that stand for no address. -/
def linkErrors (response : Response) (hrefs : List String) : List CrawlError :=
  hrefs.filterMap (linkError? response)

theorem mem_linkErrors {response : Response} {hrefs : List String} {e : CrawlError} :
    e ∈ linkErrors response hrefs ↔
      ∃ href ∈ hrefs, ∃ fault, response.url.join href = .error fault ∧
        e = linkError response href fault := by
  rw [linkErrors, List.mem_filterMap]
  refine exists_congr fun href => and_congr_right fun _ => ?_
  rw [linkError?]
  cases response.url.join href <;> simp [eq_comm]

theorem linkErrors_append (response : Response) (first others : List String) :
    linkErrors response (first ++ others) = linkErrors response first ++ linkErrors response others :=
  List.filterMap_append

theorem requestsFor_flatMap {α : Type} (page : Url) (wanted : String → Bool) (hrefs : α → List String)
    (l : List α) :
    requestsFor page wanted (l.flatMap hrefs) = l.flatMap fun x => requestsFor page wanted (hrefs x) := by
  simp [requestsFor, List.filterMap_flatMap, List.filter_flatMap, List.map_flatMap]

theorem linkErrors_flatMap {α : Type} (response : Response) (hrefs : α → List String) (l : List α) :
    linkErrors response (l.flatMap hrefs) = l.flatMap fun x => linkErrors response (hrefs x) :=
  List.filterMap_flatMap

/-- Links that stand for no address have no part in the requests. -/
theorem requestsFor_of_fault {page : Url} {href : String} {fault : Url.Fault}
    (invalid : page.join href = .error fault) (wanted : String → Bool) (before after : List String) :
    requestsFor page wanted (before ++ href :: after) = requestsFor page wanted (before ++ after) := by
  have nothing : (page.join href).toOption = none := by rw [invalid]; rfl
  simp [requestsFor, nothing]

theorem followLink_eq (response : Response) (wanted : String → Bool) (href : String) :
    followLink response wanted href =
      ⟨(requestsFor response.url wanted [href]).map .request, linkErrors response [href]⟩ := by
  simp only [followLink, requestsFor, linkErrors, linkError?, List.filterMap_cons, List.filterMap_nil]
  cases response.url.join href with
  | error fault => rfl
  | ok url => by_cases passes : wanted url.text = true <;> simp [Except.toOption, passes, Yield.empty]

theorem concat_followLinks (response : Response) (wanted : String → Bool) (hrefs : List String) :
    Yield.concat (hrefs.map (followLink response wanted)) =
      ⟨(requestsFor response.url wanted hrefs).map .request, linkErrors response hrefs⟩ := by
  have singles : hrefs.flatMap (fun href => [href]) = hrefs := List.flatMap_singleton' hrefs
  have data := requestsFor_flatMap response.url wanted (fun href => [href]) hrefs
  have errors := linkErrors_flatMap response (fun href => [href]) hrefs
  rw [singles] at data errors
  rw [Yield.concat, List.flatMap_map, List.flatMap_map, data, errors, List.map_flatMap]
  simp only [followLink_eq]

/-! ## What is handed on -/

/-- The data of an item: the requests for the links in its followed fields, then the item. -/
def itemData (rules : RuleSet) (page : Url) (item : Item) : List Datum :=
  (requestsFor page (fun _ => true) (fieldLinks rules item)).map .request ++
    [.item (withAddress rules page item)]

theorem itemYield_eq (rules : RuleSet) (response : Response) (item : Item) :
    itemYield rules response item =
      ⟨itemData rules response.url item, linkErrors response (fieldLinks rules item)⟩ := by
  show (Yield.concat ((fieldLinks rules item).map _)).append
    ⟨[.item (withAddress rules response.url item)], []⟩ = _
  rw [concat_followLinks, Yield.append, List.append_nil]
  rfl

theorem requests_itemData (rules : RuleSet) (page : Url) (item : Item) :
    (itemData rules page item).filterMap Datum.request? =
      requestsFor page (fun _ => true) (fieldLinks rules item) := by
  rw [itemData, List.filterMap_append, Datum.filterMap_request?]
  exact List.append_nil _

theorem items_itemData (rules : RuleSet) (page : Url) (item : Item) :
    (itemData rules page item).filterMap Datum.item? = [withAddress rules page item] := by
  rw [itemData, List.filterMap_append, Datum.filterMap_item?]
  rfl

section Yields

variable (r) (response : Response) (anchors : List String) (found : List Item)

theorem yieldOf_eq : r.yieldOf response anchors found =
    ⟨(requestsFor response.url r.follows anchors).map .request ++
        found.flatMap (itemData r.rules response.url),
      linkErrors response (anchors ++ found.flatMap (fieldLinks r.rules))⟩ := by
  rw [yieldOf, concat_followLinks, Yield.concat, Yield.append, List.flatMap_map, List.flatMap_map,
    linkErrors_append, linkErrors_flatMap]
  simp only [itemYield_eq]

theorem requests_yieldOf : (r.yieldOf response anchors found).requests =
    requestsFor response.url r.follows anchors ++
      requestsFor response.url (fun _ => true) (found.flatMap (fieldLinks r.rules)) := by
  rw [yieldOf_eq, Yield.requests, List.filterMap_append, Datum.filterMap_request?,
    List.filterMap_flatMap, requestsFor_flatMap]
  simp only [requests_itemData]

theorem items_yieldOf :
    (r.yieldOf response anchors found).items = found.map (withAddress r.rules response.url) := by
  rw [yieldOf_eq, Yield.items, List.filterMap_append, Datum.filterMap_item?, List.filterMap_flatMap,
    List.nil_append]
  simp only [items_itemData]
  exact List.flatMap_pure_eq_map _ _

end Yields

/-- What is found by checked rules, and what it comes to. -/
theorem Checked.read_eq (checked : Checked rules r) (response : Response) :
    ∃ anchors found, r.anchorLinks response = .ok anchors ∧ r.wantedItems response = .ok found ∧
      r.extract response = .ok (r.yieldOf response anchors found) ∧
      r.read response = r.yieldOf response anchors found := by
  obtain ⟨anchors, anchored⟩ : ∃ anchors, r.anchorLinks response = .ok anchors := by
    unfold anchorLinks
    split
    · exact ⟨[], rfl⟩
    · exact links_ok _
  obtain ⟨found, wanted⟩ : ∃ found, r.wantedItems response = .ok found := by
    unfold wantedItems
    split
    · exact ⟨[], rfl⟩
    · rw [checked.rules_eq]
      exact checked.items_ok _
  have extracted : r.extract response = .ok (r.yieldOf response anchors found) := by
    rw [extract_eq, anchored, wanted]
    rfl
  exact ⟨anchors, found, anchored, wanted, extracted, by simp only [read, extracted]⟩

/-- **Checked rules never fail on a page.**  Of every response something is read, and it is what the links
and the items of the page come to: every error is the one of a link of the page that stands for no address,
one for each; every item that is wanted is handed on, and so is the request for every other link that is to
be followed, each in its place.  A page that has one more anchor, whose link is not valid, yields the same
data. -/
theorem checked_rules_never_fail (made : of rules = .ok r) (response : Response) :
    ∃ anchors found y, r.anchorLinks response = .ok anchors ∧ r.wantedItems response = .ok found ∧
      r.extract response = .ok y ∧ r.read response = y ∧
      (∀ e ∈ y.errors, ∃ href ∈ anchors ++ found.flatMap (fieldLinks rules), ∃ fault,
        response.url.join href = .error fault ∧ e = linkError response href fault) ∧
      y.errors = linkErrors response (anchors ++ found.flatMap (fieldLinks rules)) ∧
      y.items = found.map (withAddress rules response.url) ∧
      y.requests = requestsFor response.url r.follows anchors ++
        requestsFor response.url (fun _ => true) (found.flatMap (fieldLinks rules)) ∧
      ∀ (other : Response) (before after : List String) (href : String) (fault : Url.Fault),
        other.url = response.url → response.url.join href = .error fault →
        r.anchorLinks other = .ok (before ++ href :: after) → anchors = before ++ after →
        r.wantedItems other = .ok found → (r.read other).data = y.data := by
  have checked := of_eq_ok_iff.mp made
  obtain ⟨anchors, found, anchored, wanted, extracted, read⟩ := checked.read_eq response
  have errors : (r.yieldOf response anchors found).errors =
      linkErrors response (anchors ++ found.flatMap (fieldLinks rules)) := by
    rw [yieldOf_eq, checked.rules_eq]
  refine ⟨anchors, found, _, anchored, wanted, extracted, read, ?_, errors, ?_, ?_, ?_⟩
  · intro e member
    rw [errors] at member
    exact mem_linkErrors.mp member
  · rw [items_yieldOf, checked.rules_eq]
  · rw [requests_yieldOf, checked.rules_eq]
  · intro other before after href fault same invalid otherAnchored parts otherWanted
    obtain ⟨_, _, anchored', wanted', -, read'⟩ := checked.read_eq other
    obtain rfl := Except.ok.inj (otherAnchored.symm.trans anchored')
    obtain rfl := Except.ok.inj (otherWanted.symm.trans wanted')
    rw [read', yieldOf_eq, yieldOf_eq, same, parts, requestsFor_of_fault invalid]

/-- Rules that follow links and take no field from the page: a constant that has a selector all the same, and
a text without one. -/
def shopRules : RuleSet := { RuleSet.empty with
  followLinks := ["/b"]
  fields := [("shop", ⟨.constant "books", some "h1"⟩), ("title", ⟨.text, none⟩)] }

/-- A page of these rules. -/
def shopPage (body : String) : Response :=
  .of (.ofUrl ⟨"http", some ⟨"", none, .domain "a.bc", none⟩, .segments ["x"], none, none⟩) 200 body

/-- A page with and without an anchor whose link is not valid. -/
theorem checked_rules_never_fail_broken_anchor :
    let whole := shopPage "<a href='/b'>b</a>"
    let broken := shopPage "<a href='http://[/'>a</a><a href='/b'>b</a>"
    ∃ r, of shopRules = .ok r ∧ (r.read broken).data = (r.read whole).data ∧
      r.anchorLinks broken = .ok ["http://[/", "/b"] ∧ broken.url.join "http://[/" = .error .badIpv6 ∧
      (r.read whole).items =
        [[("shop", .text "books"), ("title", .null), ("url", .text "http://a.bc/x")]] := by
  intro whole broken
  obtain ⟨r, made, wants, follow⟩ : ∃ r, of shopRules = .ok r ∧
      (∀ response, r.wantsItems response = true) ∧ r.followLinks.isEmpty = false :=
    ⟨_, rfl, fun _ => rfl, rfl⟩
  have shop (body : String) (text : (shopPage body).kind ≠ .binary) :
      r.wantedItems (shopPage body) = .ok [[("shop", .text "books"), ("title", .null)]] := by
    rw [wantedItems, if_neg (by simp [wants, text]), (of_eq_ok_iff.mp made).rules_eq]
    rfl
  have anchors (body : String) (text : (shopPage body).kind ≠ .binary) :
      r.anchorLinks (shopPage body) = links (.parse body) := by
    rw [anchorLinks, if_neg (by simp [follow, text])]
    rfl
  have wholeText : whole.kind ≠ .binary := by decide +kernel
  have brokenText : broken.kind ≠ .binary := by decide +kernel
  have wholeAnchors : r.anchorLinks whole = .ok ["/b"] := by
    rw [anchors _ wholeText]
    decide +kernel
  have brokenAnchors : r.anchorLinks broken = .ok ["http://[/", "/b"] := by
    rw [anchors _ brokenText]
    decide +kernel
  have invalid : whole.url.join "http://[/" = .error .badIpv6 := by decide +kernel
  obtain ⟨_, found, y, anchored, wanted, -, read, -, -, items, -, same⟩ :=
    checked_rules_never_fail made whole
  obtain rfl := Except.ok.inj (anchored.symm.trans wholeAnchors)
  obtain rfl := Except.ok.inj (wanted.symm.trans (shop _ wholeText))
  refine ⟨r, made, ?_, brokenAnchors, invalid, ?_⟩
  · rw [read]
    exact same broken [] ["/b"] _ _ rfl invalid brokenAnchors rfl (shop _ brokenText)
  · rw [read, items]
    rfl

end RuleReader

end CrawlMesh
