/-
# The concerns of rules

Rules say which items a page has and which links are followed, and neither depends on the other.

* The items come of the node, the fields, the pages that are accepted and the field for the address alone
  (`wantedItems_congr`).  An item has the fields that it has rules for and the one for the address, which
  holds the address of the page even if there is a rule of that name (`mem_names_withAddress`,
  `get?_withAddress`).
* The requests for anchors come before everything else.  They are what the rules yield that know nothing but
  the links to follow, and what comes behind them is what is yielded by the rules without those
  (`data_eq_append`).
* More patterns for links and more followed fields let more links be followed and leave everything else in
  its place (`data_sublist`).  More patterns for pages let more pages have items, save that no pattern at all
  accepts every page (`items_sublist`).
-/
import CrawlMesh.Proofs.Json.Records
import CrawlMesh.Proofs.Rule.Pages
import Mathlib.Data.List.Flatten

namespace CrawlMesh

set_option autoImplicit false

/-! ## Fields in ascending order -/

namespace Json.Fields

variable {fields : Fields} {key : String} {value : Json}

theorem get?_concat (fields : Fields) (field : String × Json) (key : String) :
    get? (fields ++ [field]) key = if field.1 = key then some field.2 else get? fields key := by
  simp [get?]

theorem get?_of_mem (ascending : Keyed.Ascending Prod.fst fields) (member : (key, value) ∈ fields) :
    get? fields key = some value := by
  induction fields using List.reverseRecOn with
  | nil => cases member
  | append_singleton fields last ih =>
      obtain ⟨before, -, below⟩ := List.pairwise_append.mp ascending
      rw [get?_concat]
      rcases List.mem_append.mp member with earlier | same
      · have other : last.1 ≠ key := (ne_of_lt (below _ earlier last (List.mem_singleton_self last))).symm
        rw [if_neg other, ih before earlier]
      · obtain rfl := List.mem_singleton.mp same
        rw [if_pos rfl]

theorem mem_names_insert {name : String} :
    name ∈ (insert key value fields).map Prod.fst ↔ name = key ∨ name ∈ fields.map Prod.fst := by
  rw [insert_eq, Keyed.mem_keys_iff, Keyed.mem_keys_iff, Keyed.find?_insert]
  by_cases same : key = name
  · simp [same]
  · simp [same, Ne.symm same]

theorem get?_insert_self (ascending : Keyed.Ascending Prod.fst fields) (key : String) (value : Json) :
    get? (insert key value fields) key = some value := by
  rw [insert_eq]
  exact get?_of_mem ascending.insert (Keyed.mem_insert_self _ _)

end Json.Fields

namespace RuleReader

variable {rules : RuleSet} {r o : RuleReader} {response : Response}

/-! ## Items -/

/-- An item has the fields that there are rules for. -/
theorem names_of_itemAt {document : Html.Document} {node : Nat} {item : Item}
    (taken : itemAt rules document node = .ok item) :
    item.map Prod.fst = rules.fields.map Prod.fst := by
  refine Outcome.map_eq_of_mapM_ok (fun field entry found => ?_) taken
  cases value : fieldValue document node field.2 with
  | error e => simp [value, bind, Except.bind] at found
  | ok v =>
      simp only [value, bind, Except.bind, pure, Except.pure, Except.ok.injEq] at found
      rw [← found]

theorem names_of_wantedItems {found : List Item} (wanted : r.wantedItems response = .ok found) :
    ∀ item ∈ found, item.map Prod.fst = r.rules.fields.map Prod.fst := by
  intro item member
  unfold wantedItems at wanted
  split at wanted
  · obtain rfl := Except.ok.inj wanted
    cases member
  · obtain ⟨nodes, all, -, taken, rfl⟩ := exists_of_items_ok wanted
    obtain ⟨node, -, at_⟩ := (Outcome.mem_of_mapM_ok taken).mp (List.mem_filter.mp member).1
    exact names_of_itemAt at_

theorem items_congr {a b : RuleSet} (node : a.node = b.node) (fields : a.fields = b.fields)
    (document : Html.Document) : items a document = items b document := by
  have each : itemAt a = itemAt b := by
    funext document node
    rw [itemAt, itemAt, fields]
  rw [items, items, itemNodes, itemNodes, node, each]

/-- The items that are wanted come of the node, the fields and the pages that are accepted. -/
theorem wantedItems_congr (node : r.rules.node = o.rules.node) (fields : r.rules.fields = o.rules.fields)
    (pages : r.acceptUrls = o.acceptUrls) (response : Response) :
    r.wantedItems response = o.wantedItems response := by
  rw [wantedItems, wantedItems, wantsItems, wantsItems, items_congr node fields, fields, pages]

theorem withAddress_of_none (none : rules.urlField = none) (page : Url) (item : Item) :
    withAddress rules page item = item := by
  rw [withAddress, none]

theorem withAddress_of_some {name : String} (named : rules.urlField = some name) (page : Url)
    (item : Item) : withAddress rules page item = Json.Fields.insert name (.text page.text) item := by
  rw [withAddress, named]

theorem ascending_withAddress {item : Item} (ascending : Keyed.Ascending Prod.fst item) (page : Url) :
    Keyed.Ascending Prod.fst (withAddress rules page item) := by
  cases named : rules.urlField with
  | none => rwa [withAddress_of_none named]
  | some name =>
      rw [withAddress_of_some named, Json.insert_eq]
      exact ascending.insert

theorem mem_names_withAddress {name : String} {page : Url} {item : Item} :
    name ∈ (withAddress rules page item).map Prod.fst ↔
      name ∈ item.map Prod.fst ∨ rules.urlField = some name := by
  cases named : rules.urlField with
  | none => simp [withAddress_of_none named]
  | some key =>
      rw [withAddress_of_some named, Json.Fields.mem_names_insert, or_comm, Option.some.injEq]
      exact or_congr_right eq_comm

theorem get?_withAddress {name : String} {item : Item} (ascending : Keyed.Ascending Prod.fst item)
    (named : rules.urlField = some name) (page : Url) :
    Json.Fields.get? (withAddress rules page item) name = some (.text page.text) := by
  rw [withAddress_of_some named]
  exact Json.Fields.get?_insert_self ascending name _

/-! ## More rules -/

theorem requestsFor_sublist {page : Url} {wanted wider : String → Bool} {hrefs more : List String}
    (within : hrefs.Sublist more) (wide : ∀ address, wanted address = true → wider address = true) :
    (requestsFor page wanted hrefs).Sublist (requestsFor page wider more) := by
  refine List.Sublist.map _ (((within.filterMap _).filter _).trans ?_)
  exact List.monotone_filter_right _ fun url => wide url.text

theorem any_isMatch {patterns more : List Pattern} (sub : patterns ⊆ more) (s : String)
    (found : patterns.any (·.isMatch s) = true) : more.any (·.isMatch s) = true := by
  obtain ⟨pattern, among, isMatch⟩ := List.any_eq_true.mp found
  exact List.any_eq_true.mpr ⟨pattern, sub among, isMatch⟩

/-- With more patterns for links as many anchors are looked at, or all of them instead of none. -/
theorem anchorLinks_sublist {anchors more : List String} (sub : r.followLinks ⊆ o.followLinks)
    (anchored : r.anchorLinks response = .ok anchors) (anchoredMore : o.anchorLinks response = .ok more) :
    anchors.Sublist more := by
  by_cases none : response.kind = .binary ∨ r.followLinks.isEmpty
  · rw [anchorLinks, if_pos none] at anchored
    obtain rfl := Except.ok.inj anchored
    exact more.nil_sublist
  · obtain ⟨readable, some⟩ := not_or.mp none
    have someMore : ¬ o.followLinks.isEmpty := fun empty =>
      some (List.isEmpty_iff.mpr (List.subset_nil.mp (List.isEmpty_iff.mp empty ▸ sub)))
    rw [anchorLinks, if_neg none] at anchored
    rw [anchorLinks, if_neg (not_or.mpr ⟨readable, someMore⟩), anchored] at anchoredMore
    exact Except.ok.inj anchoredMore ▸ List.Sublist.refl anchors

theorem itemData_sublist {a b : RuleSet} (fields : a.followFields.Sublist b.followFields)
    (address : a.urlField = b.urlField) (page : Url) (item : Item) :
    (itemData a page item).Sublist (itemData b page item) := by
  have links : (fieldLinks a item).Sublist (fieldLinks b item) := fields.flatMap _
  have same : withAddress a page item = withAddress b page item := by
    rw [withAddress, withAddress, address]
  rw [itemData, itemData, same]
  exact ((requestsFor_sublist links fun _ always => always).map _).append_right _

/-- What is yielded by more patterns for links and more followed fields has all data in it, and in order. -/
theorem yieldOf_sublist {anchors more : List String} (sub : r.followLinks ⊆ o.followLinks)
    (within : anchors.Sublist more) (fields : r.rules.followFields.Sublist o.rules.followFields)
    (address : r.rules.urlField = o.rules.urlField) (found : List Item) :
    (r.yieldOf response anchors found).data.Sublist (o.yieldOf response more found).data := by
  rw [yieldOf_eq, yieldOf_eq]
  refine List.Sublist.append ((requestsFor_sublist within ?_).map _) ?_
  · exact any_isMatch sub
  · exact List.Sublist.flatMap_right _ fun item _ => itemData_sublist fields address response.url item

theorem wantsItems_iff : r.wantsItems response = true ↔ r.rules.fields ≠ [] ∧
    (r.acceptUrls = [] ∨ r.acceptUrls.any (·.isMatch response.url.text) = true) := by
  simp [wantsItems]

/-- With more patterns for pages as many items are wanted, or all of them instead of none. -/
theorem wantedItems_sublist {found more : List Item} (node : r.rules.node = o.rules.node)
    (fields : r.rules.fields = o.rules.fields) (some : r.acceptUrls ≠ [])
    (sub : r.acceptUrls ⊆ o.acceptUrls)
    (wanted : r.wantedItems response = .ok found) (wantedMore : o.wantedItems response = .ok more) :
    found.Sublist more := by
  by_cases none : response.kind = .binary ∨ (!r.wantsItems response) = true
  · rw [wantedItems, if_pos none] at wanted
    obtain rfl := Except.ok.inj wanted
    exact more.nil_sublist
  · obtain ⟨readable, wants⟩ := not_or.mp none
    obtain ⟨extracts, accepted⟩ : r.rules.fields ≠ [] ∧ _ := wantsItems_iff.mp (by simpa using wants)
    have wantsMore : o.wantsItems response = true :=
      wantsItems_iff.mpr ⟨fields ▸ extracts, Or.inr (any_isMatch sub _ (accepted.resolve_left some))⟩
    rw [wantedItems, if_neg none, items_congr node fields] at wanted
    rw [wantedItems, if_neg (not_or.mpr ⟨readable, by simp [wantsMore]⟩), wanted] at wantedMore
    exact Except.ok.inj wantedMore ▸ List.Sublist.refl found

/-! ## Anchors before everything else -/

/-- The reader that knows nothing but the links to follow. -/
def anchorReader (r : RuleReader) : RuleReader :=
  ⟨{ RuleSet.empty with followLinks := r.rules.followLinks }, r.followLinks, []⟩

/-- The reader without links to follow. -/
def itemReader (r : RuleReader) : RuleReader := ⟨{ r.rules with followLinks := [] }, [], r.acceptUrls⟩

theorem Checked.anchorReader (checked : Checked rules r) :
    Checked { RuleSet.empty with followLinks := rules.followLinks } r.anchorReader where
  rules_eq := by rw [RuleReader.anchorReader, checked.rules_eq]
  selectors := fun s member => nomatch member
  followLinks := checked.followLinks
  acceptUrls := rfl

theorem Checked.itemReader (checked : Checked rules r) :
    Checked { rules with followLinks := [] } r.itemReader where
  rules_eq := by rw [RuleReader.itemReader, checked.rules_eq]
  selectors := checked.selectors
  followLinks := rfl
  acceptUrls := checked.acceptUrls

theorem wantedItems_anchorReader (r : RuleReader) (response : Response) :
    r.anchorReader.wantedItems response = .ok [] :=
  if_pos (Or.inr rfl)

theorem anchorLinks_itemReader (r : RuleReader) (response : Response) :
    r.itemReader.anchorLinks response = .ok [] :=
  if_pos (Or.inr rfl)

/-- What is yielded for the anchors comes first, and then what is yielded without links to follow. -/
theorem Checked.data_eq_append (checked : Checked rules r) (response : Response) :
    ∃ anchors, r.anchorLinks response = .ok anchors ∧
      (r.anchorReader.read response).data =
        (requestsFor response.url r.follows anchors).map .request ∧
      (r.read response).data =
        (r.anchorReader.read response).data ++ (r.itemReader.read response).data := by
  obtain ⟨anchors, found, anchored, wanted, -, read⟩ := checked.read_eq response
  obtain ⟨same, none, anchored', none', -, first⟩ := checked.anchorReader.read_eq response
  obtain ⟨none'', found', noAnchors, wanted', -, second⟩ := checked.itemReader.read_eq response
  obtain rfl := Except.ok.inj (anchored.symm.trans anchored')
  obtain rfl := Except.ok.inj ((wantedItems_anchorReader r response).symm.trans none')
  obtain rfl := Except.ok.inj ((anchorLinks_itemReader r response).symm.trans noAnchors)
  obtain rfl := Except.ok.inj (wanted.symm.trans wanted')
  have onAnchors : (r.anchorReader.read response).data =
      (requestsFor response.url r.follows anchors).map .request := by
    rw [first, yieldOf_eq]
    exact List.append_nil _
  refine ⟨anchors, anchored, onAnchors, ?_⟩
  rw [onAnchors, read, second, yieldOf_eq, yieldOf_eq]
  rfl

/-! ## Two sets of rules on one page -/

/-- Rules that differ in the links and fields to follow find the same items. -/
theorem Checked.wantedItems_eq {links names : List String} (checked : Checked rules r)
    (other : Checked { rules with followLinks := links, followFields := names } o) (response : Response) :
    r.wantedItems response = o.wantedItems response := by
  refine wantedItems_congr ?_ ?_ ?_ response
  · rw [checked.rules_eq, other.rules_eq]
  · rw [checked.rules_eq, other.rules_eq]
  · exact Except.ok.inj (checked.acceptUrls.symm.trans other.acceptUrls)

theorem Checked.items_eq {links names : List String} (checked : Checked rules r)
    (other : Checked { rules with followLinks := links, followFields := names } o) (response : Response) :
    (o.read response).items = (r.read response).items := by
  obtain ⟨_, found, -, wanted, -, read⟩ := checked.read_eq response
  obtain ⟨_, _, -, same, -, readOther⟩ := other.read_eq response
  obtain rfl := Except.ok.inj (wanted.symm.trans ((checked.wantedItems_eq other response).trans same))
  rw [read, readOther, items_yieldOf, items_yieldOf, checked.rules_eq, other.rules_eq]
  rfl

theorem Checked.data_sublist {links names : List String} (checked : Checked rules r)
    (other : Checked { rules with followLinks := links, followFields := names } o)
    (moreLinks : rules.followLinks ⊆ links) (moreFields : rules.followFields.Sublist names)
    (response : Response) : (r.read response).data.Sublist (o.read response).data := by
  obtain ⟨anchors, found, anchored, wanted, -, read⟩ := checked.read_eq response
  obtain ⟨more, _, anchoredMore, same, -, readOther⟩ := other.read_eq response
  obtain rfl := Except.ok.inj (wanted.symm.trans ((checked.wantedItems_eq other response).trans same))
  have sub : r.followLinks ⊆ o.followLinks :=
    Outcome.subset_of_mapM_ok moreLinks checked.followLinks other.followLinks
  rw [read, readOther]
  refine yieldOf_sublist sub (anchorLinks_sublist sub anchored anchoredMore) ?_ ?_ found
  · rwa [checked.rules_eq, other.rules_eq]
  · rw [checked.rules_eq, other.rules_eq]

theorem Checked.items_sublist {pages : List String} (checked : Checked rules r)
    (other : Checked { rules with acceptUrls := pages } o) (some : rules.acceptUrls ≠ [])
    (morePages : rules.acceptUrls ⊆ pages) (response : Response) :
    (r.read response).items.Sublist (o.read response).items := by
  obtain ⟨_, found, -, wanted, -, read⟩ := checked.read_eq response
  obtain ⟨_, more, -, wantedMore, -, readOther⟩ := other.read_eq response
  have sub : r.acceptUrls ⊆ o.acceptUrls :=
    Outcome.subset_of_mapM_ok morePages checked.acceptUrls other.acceptUrls
  have someRead : r.acceptUrls ≠ [] := by
    rintro none
    have length := (Outcome.mapM_eq_ok_iff.mp checked.acceptUrls).length_eq
    rw [none] at length
    exact some (List.length_eq_zero_iff.mp length)
  have within : found.Sublist more := by
    refine wantedItems_sublist ?_ ?_ someRead sub wanted wantedMore
    · rw [checked.rules_eq, other.rules_eq]
    · rw [checked.rules_eq, other.rules_eq]
  rw [read, readOther, items_yieldOf, items_yieldOf, checked.rules_eq, other.rules_eq]
  exact within.map _

/-- What an item is: the fields that there are rules for, and the address of its page. -/
theorem Checked.item_spec (checked : Checked rules r) (ordered : Keyed.Ascending Prod.fst rules.fields)
    {item : Item} (member : item ∈ (r.read response).items) : Keyed.Ascending Prod.fst item ∧
      (∀ name, name ∈ item.map Prod.fst ↔
        name ∈ rules.fields.map Prod.fst ∨ rules.urlField = some name) ∧
      ∀ name, rules.urlField = some name →
        Json.Fields.get? item name = some (.text response.url.text) := by
  obtain ⟨_, found, -, wanted, -, read⟩ := checked.read_eq response
  rw [read, items_yieldOf, checked.rules_eq] at member
  obtain ⟨taken, among, rfl⟩ := List.mem_map.mp member
  have names : taken.map Prod.fst = rules.fields.map Prod.fst := by
    rw [names_of_wantedItems wanted taken among, checked.rules_eq]
  have ascending : Keyed.Ascending Prod.fst taken := by
    rw [Keyed.Ascending, ← List.pairwise_map, names, List.pairwise_map]
    exact ordered
  refine ⟨ascending_withAddress ascending _, fun name => ?_, fun name named => ?_⟩
  · rw [mem_names_withAddress, names]
  · exact get?_withAddress ascending named _

/-- **The concerns of rules are independent.**  Rules that differ in the links and fields to follow alone
yield the same items; if they follow more, they yield everything that was yielded, in its order, and further
requests in between.  Every item has exactly the fields that it has rules for and the one for the address of
the page, which holds that address.  The data of a page are the requests for its anchors, which depend on
the links to follow alone, and then what is yielded without links to follow.  And where not every page is
accepted, a further pattern for pages takes no item away. -/
theorem concerns_are_independent (made : of rules = .ok r)
    (ordered : Keyed.Ascending Prod.fst rules.fields) (response : Response) :
    (∀ links names o, of { rules with followLinks := links, followFields := names } = .ok o →
      (o.read response).items = (r.read response).items ∧
      (rules.followLinks ⊆ links → rules.followFields.Sublist names →
        (r.read response).data.Sublist (o.read response).data)) ∧
    (∀ item ∈ (r.read response).items, Keyed.Ascending Prod.fst item ∧
      (∀ name, name ∈ item.map Prod.fst ↔
        name ∈ rules.fields.map Prod.fst ∨ rules.urlField = some name) ∧
      ∀ name, rules.urlField = some name →
        Json.Fields.get? item name = some (.text response.url.text)) ∧
    (∃ anchors anchored rest, r.anchorLinks response = .ok anchors ∧
      of { RuleSet.empty with followLinks := rules.followLinks } = .ok anchored ∧
      of { rules with followLinks := [] } = .ok rest ∧
      (anchored.read response).data =
        (requestsFor response.url r.follows anchors).map .request ∧
      (r.read response).data = (anchored.read response).data ++ (rest.read response).data) ∧
    (∀ pages o, rules.acceptUrls ≠ [] → rules.acceptUrls ⊆ pages →
      of { rules with acceptUrls := pages } = .ok o →
      (r.read response).items.Sublist (o.read response).items) := by
  have checked := of_eq_ok_iff.mp made
  refine ⟨fun links names o madeOther => ?_, fun item member => checked.item_spec ordered member, ?_,
    fun pages o some more madeOther => ?_⟩
  · have other := of_eq_ok_iff.mp madeOther
    exact ⟨checked.items_eq other response,
      fun moreLinks moreFields => checked.data_sublist other moreLinks moreFields response⟩
  · obtain ⟨anchors, anchored, first, parts⟩ := checked.data_eq_append response
    exact ⟨anchors, r.anchorReader, r.itemReader, anchored, of_eq_ok_iff.mpr checked.anchorReader,
      of_eq_ok_iff.mpr checked.itemReader, first, parts⟩
  · exact checked.items_sublist (of_eq_ok_iff.mp madeOther) some more response

/-- Rules for the shelves of a page, on which the address of the page takes the place of a field. -/
def shelfRules : RuleSet where
  followLinks := ["/b"]
  acceptUrls := ["a.bc"]
  node := .each "h1"
  fields := [("next", ⟨.constant "/c", none⟩), ("place", ⟨.constant "shelf", some "h1"⟩)]
  followFields := []
  urlField := some "place"

/-- A page with two shelves and two links, and rules with a further link and a field to follow, or with a
further pattern for pages. -/
theorem concerns_are_independent_shelves :
    let page := shopPage "<h1>x</h1><a href='/b'>b</a><h1>y</h1><a href='/d'>d</a>"
    let addresses (y : Yield) := y.requests.map fun request => request.url.text
    ∃ r more wider, of shelfRules = .ok r ∧ Keyed.Ascending Prod.fst shelfRules.fields ∧
      of { shelfRules with followLinks := ["/d", "/b"], followFields := ["next"] } = .ok more ∧
      of { shelfRules with acceptUrls := ["z", "a.bc"] } = .ok wider ∧
      addresses (r.read page) = ["http://a.bc/b"] ∧
      addresses (more.read page) =
        ["http://a.bc/b", "http://a.bc/d", "http://a.bc/c", "http://a.bc/c"] ∧
      (r.read page).items.length = 2 ∧ (more.read page).items = (r.read page).items ∧
      (r.read page).data.Sublist (more.read page).data ∧
      (∀ item ∈ (r.read page).items,
        Json.Fields.get? item "place" = some (.text "http://a.bc/x")) ∧
      (r.read page).items.Sublist (wider.read page).items := by
  intro page addresses
  obtain ⟨r, more, wider, made, madeMore, madeWider, few, many, two⟩ : ∃ r more wider,
      of shelfRules = .ok r ∧
      of { shelfRules with followLinks := ["/d", "/b"], followFields := ["next"] } = .ok more ∧
      of { shelfRules with acceptUrls := ["z", "a.bc"] } = .ok wider ∧
      addresses (r.read page) = ["http://a.bc/b"] ∧
      addresses (more.read page) =
        ["http://a.bc/b", "http://a.bc/d", "http://a.bc/c", "http://a.bc/c"] ∧
      (r.read page).items.length = 2 :=
    ⟨_, _, _, rfl, rfl, rfl, by decide +kernel, by decide +kernel, by decide +kernel⟩
  have ordered : Keyed.Ascending Prod.fst shelfRules.fields := by
    rw [Keyed.Ascending]
    decide +kernel
  obtain ⟨others, spec, -, accepted⟩ := concerns_are_independent made ordered page
  obtain ⟨same, sublist⟩ := others _ _ more madeMore
  refine ⟨r, more, wider, made, ordered, madeMore, madeWider, few, many, two, same, ?_, ?_, ?_⟩
  · exact sublist (by simp [shelfRules]) (List.nil_sublist _)
  · exact fun item member => (spec item member).2.2 "place" rfl
  · exact accepted _ wider (by simp [shelfRules]) (by simp [shelfRules]) madeWider

end RuleReader

end CrawlMesh
