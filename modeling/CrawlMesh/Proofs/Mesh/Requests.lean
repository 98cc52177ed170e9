/-
# Requests on their way

A request reaches another node as JSON.  What is read back (`Request.readBack`) is the request with the
values of its header that are plain (`Header.plainPart`): setters admit any value without control
characters, but only plain ones are written, and a field without a plain value is lost.  All else is
kept, whether the fields of the JSON value stand as they were written or in ascending order
(`Request.ofJson?_json`).  So a request that was made by the setters (`Request.Made`) is read back as
itself exactly if all its header values are plain (`Request.reads_back_iff_plain`).
-/
import CrawlMesh.Proofs.Json.Records
import CrawlMesh.Proofs.Text.Lowering
import CrawlMesh.Request

namespace CrawlMesh

set_option autoImplicit false

namespace Header

open Json (Layout)

/-! ## Fields of a header -/

/-- A header as the setters make it: every name stands once, in small letters, and has values. -/
structure Sound (h : Header) : Prop where
  names : ∀ field ∈ h.fields, name? field.1 = some field.1
  distinct : (h.fields.map Prod.fst).Nodup
  present : ∀ field ∈ h.fields, field.2 ≠ []

/-- Are all values plain? -/
def AllPlain (h : Header) : Prop := ∀ field ∈ h.fields, ∀ value ∈ field.2, isPlain value = true

/-- A field with its plain values, if it has any. -/
def plainField (field : String × List String) : Option (String × List String) :=
  let plain := field.2.filter isPlain
  if plain.isEmpty then none else some (field.1, plain)

/-- What of a header is written. -/
def plainPart (h : Header) : Header := ⟨h.fields.filterMap plainField⟩

/-- A header with its fields in the order of a layout. -/
def reordered (l : Layout) (h : Header) : Header := ⟨l.entries Prod.fst h.fields⟩

theorem isValue_of_isPlain {s : String} (plain : isPlain s = true) : isValue s = true := by
  rw [isValue, List.all_eq_true]
  rw [isPlain, List.all_eq_true] at plain
  intro c member
  have inside := plain c member
  simp only [isValueChar, Bool.or_eq_true, Bool.and_eq_true, decide_eq_true_eq, bne_iff_ne] at inside ⊢
  rcases inside with ⟨low, high⟩ | tab
  · exact Or.inl ⟨low, by omega⟩
  · exact Or.inr tab

theorem values_of_mem {h : Header} (distinct : (h.fields.map Prod.fst).Nodup)
    {field : String × List String} (member : field ∈ h.fields) : h.values field.1 = field.2 := by
  rw [values, Keyed.find?_eq_of_nodup distinct member]

theorem names_plainField (field : String × List String) :
    ((plainField field).toList.map Prod.fst).Sublist [field.1] := by
  simp only [plainField]
  split <;> simp

theorem plainField_of_allPlain {field : String × List String} (present : field.2 ≠ [])
    (plain : ∀ value ∈ field.2, isPlain value = true) : plainField field = some field := by
  have all : field.2.filter isPlain = field.2 := List.filter_eq_self.mpr plain
  simp [plainField, all, present]

theorem plainPart_of_allPlain {h : Header} (sound : h.Sound) (plain : h.AllPlain) :
    h.plainPart = h := by
  obtain ⟨fields⟩ := h
  have same : ∀ field ∈ fields, plainField field = some field := fun field member =>
    plainField_of_allPlain (sound.present field member) (plain field member)
  rw [plainPart, List.filterMap_congr same, List.filterMap_some]

/-- What is written of a header is plain. -/
theorem isPlain_of_mem_values_plainPart {h : Header} {name value : String}
    (member : value ∈ h.plainPart.values name) : isPlain value = true := by
  rw [values] at member
  split at member
  · rename_i written found
    obtain ⟨field, -, kept⟩ := List.mem_filterMap.mp (List.mem_of_find?_eq_some found)
    simp only [plainField] at kept
    split at kept
    · cases kept
    · obtain rfl := Option.some.inj kept
      exact (List.mem_filter.mp member).2
  · cases member

theorem Sound.reordered {h : Header} (sound : h.Sound) (l : Layout) : (h.reordered l).Sound := by
  have perm := l.perm_entries sound.distinct
  exact {
    names := fun field member => sound.names field (perm.mem_iff.mp member)
    distinct := (perm.map Prod.fst).nodup_iff.mpr sound.distinct
    present := fun field member => sound.present field (perm.mem_iff.mp member) }

theorem AllPlain.reordered {h : Header} (plain : h.AllPlain) (sound : h.Sound) (l : Layout) :
    (h.reordered l).AllPlain :=
  fun field member => plain field ((l.perm_entries sound.distinct).mem_iff.mp member)

/-! ## Setting fields -/

theorem toLower_toLower (c : Char) : c.toLower.toLower = c.toLower := by
  rcases Text.toLower_cases c with same | ⟨n, bound, rfl⟩
  · rw [same]
    exact same
  · revert n
    decide

theorem isTokenChar_toLower {c : Char} (token : isTokenChar c = true) :
    isTokenChar c.toLower = true := by
  rcases Text.toLower_cases c with same | ⟨n, bound, rfl⟩
  · rwa [same]
  · clear token
    revert n
    decide

theorem isToken_iff {s : String} :
    isToken s = true ↔ s.toList ≠ [] ∧ ∀ c ∈ s.toList, isTokenChar c = true := by
  simp [isToken]

/-- A name in small letters stands for itself. -/
theorem name?_of_name? {s name : String} (named : name? s = some name) : name? name = some name := by
  unfold name? at named
  split at named
  · rename_i valid
    obtain rfl := Option.some.inj named
    obtain ⟨token, short⟩ := Bool.and_eq_true_iff.mp valid
    obtain ⟨some, token⟩ := isToken_iff.mp token
    have again : s.toList.map (Char.toLower ∘ Char.toLower) = s.toList.map Char.toLower :=
      List.map_congr_left fun c _ => toLower_toLower c
    have token : isToken (String.ofList (s.toList.map Char.toLower)) = true := by
      rw [isToken_iff, String.toList_ofList]
      refine ⟨by simpa using some, ?_⟩
      intro c member
      obtain ⟨d, among, rfl⟩ := List.mem_map.mp member
      exact isTokenChar_toLower (token d among)
    have short : (String.ofList (s.toList.map Char.toLower)).length ≤ maxName := by
      rw [String.length_ofList, List.length_map, String.length_toList]
      exact of_decide_eq_true short
    rw [name?, token, decide_eq_true short, String.toList_ofList, List.map_map, again]
    rfl
  · cases named

theorem update_fresh {name : String} {fields : List (String × List String)}
    (fresh : name ∉ fields.map Prod.fst) (change : List String → List String) :
    update name change fields = fields ++ [(name, change [])] := by
  induction fields with
  | nil => rfl
  | cons field rest ih =>
      rw [List.map_cons, List.mem_cons, not_or] at fresh
      have differ : (field.1 == name) = false := beq_eq_false_iff_ne.mpr (Ne.symm fresh.1)
      obtain ⟨n, vs⟩ := field
      rw [update, differ, ih fresh.2]
      rfl

theorem update_last {name : String} {fields : List (String × List String)}
    (fresh : name ∉ fields.map Prod.fst) (change : List String → List String) (values : List String) :
    update name change (fields ++ [(name, values)]) = fields ++ [(name, change values)] := by
  induction fields with
  | nil => simp [update]
  | cons field rest ih =>
      rw [List.map_cons, List.mem_cons, not_or] at fresh
      have differ : (field.1 == name) = false := beq_eq_false_iff_ne.mpr (Ne.symm fresh.1)
      obtain ⟨n, vs⟩ := field
      rw [List.cons_append, update, differ, ih fresh.2]
      rfl

theorem names_update (name : String) (change : List String → List String)
    (fields : List (String × List String)) :
    (update name change fields).map Prod.fst =
      if name ∈ fields.map Prod.fst then fields.map Prod.fst else fields.map Prod.fst ++ [name] := by
  by_cases known : name ∈ fields.map Prod.fst
  · rw [if_pos known]
    induction fields with
    | nil => cases known
    | cons field rest ih =>
        obtain ⟨n, vs⟩ := field
        rw [update]
        by_cases same : n = name
        · simp [same]
        · have later : name ∈ rest.map Prod.fst := (List.mem_cons.mp known).resolve_left (Ne.symm same)
          rw [beq_eq_false_iff_ne.mpr same, List.map_cons, ← ih later]
          rfl
  · rw [if_neg known, update_fresh known, List.map_append]
    rfl

theorem mem_update {name : String} {change : List String → List String}
    {fields : List (String × List String)} {field : String × List String}
    (member : field ∈ update name change fields) :
    field ∈ fields ∨ field.1 = name ∧ ∃ values, field.2 = change values := by
  induction fields with
  | nil =>
      obtain rfl := List.mem_singleton.mp member
      exact Or.inr ⟨rfl, [], rfl⟩
  | cons first rest ih =>
      obtain ⟨n, vs⟩ := first
      rw [update] at member
      split at member
      · rename_i same
        rcases List.mem_cons.mp member with rfl | member
        · exact Or.inr ⟨beq_iff_eq.mp same, vs, rfl⟩
        · exact Or.inl (List.mem_cons_of_mem _ member)
      · rcases List.mem_cons.mp member with rfl | member
        · exact Or.inl List.mem_cons_self
        · exact (ih member).imp_left (List.mem_cons_of_mem _)

theorem Sound.insert {h : Header} (sound : h.Sound) {name : String} (named : name? name = some name)
    (value : String) : (h.insert name value).Sound where
  names := fun field member => by
    rcases mem_update member with member | ⟨same, -⟩
    · exact sound.names field member
    · rw [same]
      exact named
  distinct := by
    rw [Header.insert, names_update]
    split
    · exact sound.distinct
    · rename_i fresh
      exact List.nodup_append.mpr ⟨sound.distinct, List.pairwise_singleton _ name, by
        rintro other member _ last rfl
        exact fresh (List.mem_singleton.mp last ▸ member)⟩
  present := fun field member => by
    rcases mem_update member with member | ⟨-, values, same⟩
    · exact sound.present field member
    · simp [same]

/-- A field that was set leaves a sound header. -/
theorem Sound.set {h k : Header} (sound : h.Sound) {key value : String}
    (set : h.set key value = .ok k) : k.Sound := by
  rw [Header.set] at set
  split at set
  · cases set
  · rename_i name named
    split at set
    · obtain rfl := Except.ok.inj set
      exact sound.insert (name?_of_name? named) value
    · cases set

/-- The values that a name is given one by one. -/
theorem foldl_append_fresh {h : Header} {name : String} (fresh : name ∉ h.fields.map Prod.fst)
    (values : List String) :
    values.foldl (fun h v => h.append name v) h =
      if values.isEmpty then h else ⟨h.fields ++ [(name, values)]⟩ := by
  have behind : ∀ (later earlier : List String),
      later.foldl (fun h v => Header.append h name v) ⟨h.fields ++ [(name, earlier)]⟩ =
        ⟨h.fields ++ [(name, earlier ++ later)]⟩ := by
    intro later
    induction later with
    | nil => simp
    | cons v later ih =>
        intro earlier
        rw [List.foldl_cons, append, update_last fresh, ih]
        simp
  cases values with
  | nil => rfl
  | cons v later =>
      rw [List.foldl_cons, append, update_fresh fresh, behind]
      rfl

/-! ## Reading a header -/

theorem leadingTexts?_map (values : List String) :
    leadingTexts? (values.map .text) = some values := by
  induction values with
  | nil => rfl
  | cons v rest ih => rw [List.map_cons, leadingTexts?, ih]; rfl

/-- A field of a new name is read as far as it was written. -/
theorem readField_valuesJson {h : Header} {field : String × List String}
    (named : name? field.1 = some field.1) (fresh : field.1 ∉ h.fields.map Prod.fst) :
    readField h (field.1, valuesJson field.2) = some ⟨h.fields ++ (plainField field).toList⟩ := by
  obtain ⟨name, values⟩ := field
  have listed : readField h (name, .list ((values.filter isPlain).map .text)) =
      some ⟨h.fields ++ (plainField (name, values)).toList⟩ := by
    have valid : (values.filter isPlain).all isValue = true := by
      rw [List.all_eq_true]
      intro v member
      exact isValue_of_isPlain (List.mem_filter.mp member).2
    rw [readField, named]
    show (leadingTexts? _).bind _ = _
    rw [leadingTexts?_map, Option.bind_some, if_pos valid, foldl_append_fresh fresh]
    simp only [plainField]
    split <;> simp
  -- a single plain value is written as a text, all else as a list
  unfold valuesJson
  split
  · rename_i value single
    obtain rfl : values = [value] := single
    by_cases plain : isPlain value = true
    · rw [if_pos plain, readField, named]
      show (if isValue value = true then some (h.insert name value) else none) = _
      rw [if_pos (isValue_of_isPlain plain), insert, update_fresh fresh]
      simp [plainField, plain]
    · rw [if_neg plain]
      simpa [plain] using listed
  · exact listed

theorem foldlM_readField {fields : List (String × List String)} (done : Header)
    (names : ∀ field ∈ fields, name? field.1 = some field.1)
    (distinct : ((done.fields ++ fields).map Prod.fst).Nodup) :
    (fields.map fun field => (field.1, valuesJson field.2)).foldlM readField done =
      some ⟨done.fields ++ fields.filterMap plainField⟩ := by
  induction fields generalizing done with
  | nil => simp
  | cons field rest ih =>
      have fresh : field.1 ∉ done.fields.map Prod.fst := Keyed.fresh_of_nodup distinct
      rw [List.map_cons, List.foldlM_cons,
        readField_valuesJson (names field List.mem_cons_self) fresh]
      show List.foldlM readField _ _ = _
      rw [ih]
      · rw [List.append_assoc, List.filterMap_cons]
        cases plainField field <;> rfl
      · exact fun other member => names other (List.mem_cons_of_mem field member)
      · refine distinct.sublist ?_
        simp only [List.map_append, List.map_cons, List.append_assoc]
        exact (((names_plainField field).append_right _).append_left _)

/-- What is read back of a header is what was written of it. -/
theorem ofJson?_toJson {h : Header} (sound : h.Sound) : ofJson? h.toJson = some h.plainPart := by
  show List.foldlM readField empty _ = _
  rw [foldlM_readField empty sound.names sound.distinct]
  rfl

theorem json_toJson (l : Layout) (h : Header) : l.json h.toJson = (h.reordered l).toJson := by
  have written : ∀ vs, l.json (valuesJson vs) = valuesJson vs := by
    intro vs
    unfold valuesJson
    split
    · split <;> simp
    · simp
  rw [toJson, l.json_object, List.map_map]
  simp only [Function.comp_def, written]
  rw [Layout.entries_map]
  rfl

end Header

/-- An address whose text is read as the address itself. -/
def Url.ReadsBack (u : Url) : Prop := Url.parse u.text = .ok u

namespace Request

open Json (Layout)

/-! ## Reading a request -/

/-- A request as the setters make it. -/
structure Sound (r : Request) : Prop where
  method : isToken r.method = true
  header : r.header.Sound
  extra : (Json.object r.extra).Canonical

/-- What is read back of a request in a layout. -/
def readBack (l : Layout) (r : Request) : Request :=
  { r with header := (r.header.reordered l).plainPart }

theorem urlOfJson?_text {u : Url} (url : u.ReadsBack) : urlOfJson? (.text u.text) = some u := by
  rw [Url.ReadsBack] at url
  rw [urlOfJson?, Json.asText?, Option.bind_eq_bind, Option.bind_some, url]

theorem ofJson?_json (l : Layout) {r : Request} (sound : r.Sound) (url : r.url.ReadsBack) :
    ofJson? (l.json r.toJson) = some (r.readBack l) := by
  have method : methodOfJson? (.text r.method) = some r.method := by
    simp [methodOfJson?, Json.asText?, sound.method]
  have url := urlOfJson?_text url
  have header : Header.ofJson? (l.json r.header.toJson) = some (r.readBack l).header := by
    rw [Header.json_toJson, Header.ofJson?_toJson (sound.header.reordered l)]
    rfl
  have extra : Json.asFields? (l.json (.object r.extra)) = some r.extra := by
    have same := Json.sorted_of_canonical sound.extra
    rw [Json.sorted] at same
    rw [l.json_of_canonical sound.extra, Json.asFields?, Json.object.inj same]
  rw [ofJson?, toJson, Json.slots?_record l (by decide) rfl]
  simp only [List.map_cons, List.map_nil, Option.bind_eq_bind, Option.bind_some, Json.Slot.required,
    Json.Slot.optional, Layout.json_text, method, url, header, Json.nullable_text, extra,
    Json.asUInt32?_json]
  rfl

/-- Nothing of a request is lost exactly if its header values are plain. -/
theorem same_readBack_iff (l : Layout) {r : Request} (sound : r.Sound)
    (exact : (Json.object r.extra).Exact) : r.same (r.readBack l) = true ↔ r.header.AllPlain := by
  have extra : (Json.object r.extra == Json.object r.extra) = true := Json.same_self exact
  have perm := l.perm_entries sound.header.distinct
  simp only [same, readBack, extra, beq_self_eq_true, Bool.and_true, Bool.true_and, Bool.and_eq_true,
    List.all_eq_true, beq_iff_eq]
  constructor
  · rintro ⟨-, kept⟩ field member value among
    rw [← kept field member] at among
    exact Header.isPlain_of_mem_values_plainPart among
  · intro plain
    have sound' := sound.header.reordered l
    rw [Header.plainPart_of_allPlain sound' (plain.reordered sound.header l)]
    refine ⟨perm.length_eq.symm, fun field member => ?_⟩
    exact Header.values_of_mem sound'.distinct (perm.mem_iff.mpr member)

theorem readBack_asWritten_iff {r : Request} (sound : r.Sound) :
    r.readBack .asWritten = r ↔ r.header.AllPlain := by
  constructor
  · intro same field member value among
    have header : r.header.plainPart = r.header := congrArg Request.header same
    rw [← Header.values_of_mem sound.header.distinct member, ← header] at among
    exact Header.isPlain_of_mem_values_plainPart among
  · intro plain
    show { r with header := r.header.plainPart } = r
    rw [Header.plainPart_of_allPlain sound.header plain]

theorem ofJson?_toJson {r : Request} (sound : r.Sound) (url : r.url.ReadsBack)
    (plain : r.header.AllPlain) : ofJson? r.toJson = some r :=
  (ofJson?_json .asWritten sound url).trans (congrArg some ((readBack_asWritten_iff sound).mpr plain))

/-! ## The text of a request -/

theorem exact_header (h : Header) : h.toJson.Exact := by
  refine Json.exact_object.mpr fun field member => ?_
  obtain ⟨⟨name, values⟩, -, rfl⟩ := List.mem_map.mp member
  show (Header.valuesJson values).Exact
  unfold Header.valuesJson
  split
  · split
    · exact Json.exact_text _
    · exact Json.exact_texts []
  · exact Json.exact_texts _

theorem exact_toJson {r : Request} (exact : (Json.object r.extra).Exact) : r.toJson.Exact := by
  have text (x : Option String) : (Json.ofOption .text x).Exact :=
    Json.exact_ofOption fun s _ => Json.exact_text s
  refine Json.exact_record ?_
  simp only [List.forall_mem_cons]
  exact ⟨Json.exact_text _, Json.exact_text _, exact_header _, text _, Json.exact_uint32 _,
    text _, Json.exact_text _, text _, exact, List.forall_mem_nil _⟩

/-! ## Requests made by setters -/

/-- The requests that are made from an address by setters. -/
inductive Made : Request → Prop
  | parse {s : String} {r : Request} : Request.parse s = .ok r → Made r
  | method {r : Request} (method : String) : Made r → isToken method = true → Made { r with method }
  | body {r : Request} (body : String) : Made r → Made { r with body := some body }
  | depth {r : Request} (depth : UInt32) : Made r → Made { r with depth }
  | proxy {r : Request} (proxy : String) : Made r → Made { r with proxy := some proxy }
  | spiderName {r : Request} (spiderName : String) : Made r → Made { r with spiderName }
  | nodeName {r : Request} (nodeName : String) : Made r → Made { r with nodeName := some nodeName }
  /-- The objects of a value that is carried along have their fields in ascending order of names. -/
  | extra {r : Request} (key : String) (value : Json) :
      Made r → value.Canonical → Made (r.setExtra key value)
  | header {r s : Request} (key value : String) : Made r → r.setHeader key value = .ok s → Made s
  | userAgent {r s : Request} (value : String) : Made r → r.setUserAgent value = .ok s → Made s
  | referer {r s : Request} (value : String) : Made r → r.setReferer value = .ok s → Made s
  | cookie {r s : Request} (key value : String) : Made r → r.addCookie key value = .ok s → Made s

theorem sound_ofUrl (url : Url) : (ofUrl url).Sound where
  method := show isToken "GET" = true by decide
  header := ⟨by simp [ofUrl, Header.empty], by simp [ofUrl, Header.empty], by simp [ofUrl, Header.empty]⟩
  extra := by simp [ofUrl, Json.Canonical]

theorem Sound.setHeader {r s : Request} (sound : r.Sound) {key value : String}
    (set : r.setHeader key value = .ok s) : s.Sound := by
  rw [Request.setHeader] at set
  cases changed : r.header.set key value with
  | error e =>
      rw [changed] at set
      cases set
  | ok header =>
      rw [changed] at set
      obtain rfl := Except.ok.inj set
      exact { sound with header := sound.header.set changed }

theorem Made.sound {r : Request} (made : r.Made) : r.Sound := by
  induction made with
  | parse read =>
      rw [Request.parse] at read
      split at read
      · obtain rfl := Except.ok.inj read
        exact sound_ofUrl _
      · cases read
  | method method _ token ih => exact { ih with method := token }
  | body _ _ ih | depth _ _ ih | proxy _ _ ih | spiderName _ _ ih | nodeName _ _ ih => exact { ih with }
  | extra key _ _ canonical ih => exact { ih with extra := Json.canonical_insert ih.extra canonical key }
  | header _ _ _ set ih | cookie _ _ _ set ih => exact ih.setHeader set
  | userAgent _ _ set ih | referer _ _ set ih => exact ih.setHeader set

/-- **What is read back of a request.**  A request that was made by setters, with no floating-point
number in what it carries along, is read back from its JSON value, in both layouts, with the header
values that are plain, and so as an equal request exactly if they all are.  From its text the same is
read as long as it does not nest too deep; a deeper text is refused. -/
theorem reads_back_iff_plain {r : Request} (made : r.Made) (exact : (Json.object r.extra).Exact)
    (url : r.url.ReadsBack) :
    (∀ l : Layout, ofJson? (l.json r.toJson) = some (r.readBack l) ∧
      (r.same (r.readBack l) = true ↔ r.header.AllPlain)) ∧
    (Json.parse? r.toJson.render).bind ofJson? =
      (if r.toJson.nesting ≤ Json.maxNesting then some (r.readBack .asWritten) else none) ∧
    (r.readBack .asWritten = r ↔ r.header.AllPlain) := by
  have sound := made.sound
  refine ⟨fun l => ⟨ofJson?_json l sound url, same_readBack_iff l sound exact⟩, ?_,
    readBack_asWritten_iff sound⟩
  rw [Json.parse?_render (exact_toJson exact)]
  split
  · exact ofJson?_json .asWritten sound url
  · rfl

/-- A posted request with a note that is not plain, two cookies and something carried along. -/
def noted : Request :=
  { ofUrl ⟨"http", some ⟨"", none, .domain "a.example.com", none⟩, .segments [""], none, none⟩ with
    method := "POST"
    header := ⟨[("x-note", ["é"]), ("cookie", ["a=1; b=2"])]⟩
    extra := [("page", .number (.int 3))] }

theorem made_noted : noted.Made := by
  have parsed : Made (ofUrl noted.url) := .parse (s := "http://a.example.com/") rfl
  have posted := parsed.method "POST" (by decide)
  have carried := Made.extra "page" (.number (.int 3)) posted (by simp [Json.Canonical])
  have annotated := Made.header "X-Note" "é" carried rfl
  exact Made.cookie "b" "2" (Made.cookie "a" "1" annotated rfl) rfl

theorem exact_noted : (Json.object noted.extra).Exact := by
  simp [noted, ofUrl, Json.Exact, JsonNumber.Exact]

/-- The cookies of the request are read back, the note is not. -/
theorem reads_back_iff_plain_noted :
    noted.Made ∧ (Json.object noted.extra).Exact ∧ noted.url.ReadsBack ∧
      ofJson? noted.toJson.sorted = some { noted with header := ⟨[("cookie", ["a=1; b=2"])]⟩ } ∧
      (noted.same (noted.readBack .inOrder) = true ↔ noted.header.AllPlain) :=
  have url : noted.url.ReadsBack := rfl
  have reads := (reads_back_iff_plain made_noted exact_noted url).1 .inOrder
  ⟨made_noted, exact_noted, url, reads⟩

/-- Setters made this request, and neither its JSON value nor its text is read as an equal one. -/
theorem noted_is_not_read_back :
    noted.Made ∧ (Json.object noted.extra).Exact ∧ noted.url.ReadsBack ∧
      (ofJson? noted.toJson.sorted).map noted.same = some false ∧
      ((Json.parse? noted.toJson.render).bind ofJson?).map noted.same = some false := by
  refine ⟨made_noted, exact_noted, rfl, rfl, ?_⟩
  rw [Json.parse?_render (exact_toJson exact_noted), if_pos (by decide)]
  rfl

end Request

end CrawlMesh
