/-
# Records are read back

A record is passed on in one of two layouts: with its fields in the order in which they are written, or
with every object in ascending order of its names (`Layout`).  A reader finds the fields of a record by
their names, so both are read alike (`slots?_json`, `slots?_record`).  Only where the fields of an object
are taken in their order does the layout tell, and there it does nothing but reorder them
(`Layout.json_object`, `Layout.perm_entries`).  What is in ascending order already stays as it is in both
(`Layout.json_of_canonical`, `Layout.entries_of_ascending`).
-/
import CrawlMesh.Json.Record
import CrawlMesh.Proofs.Json.Text
import CrawlMesh.Proofs.Keyed

namespace CrawlMesh

set_option autoImplicit false

namespace Json

/-! ## Ascending order -/

/-- A value whose objects have their fields in ascending order of names. -/
def Canonical (j : Json) : Prop := j.Every (fun _ => True) (·.Pairwise (· < ·))

theorem insert_eq (key : String) (value : Json) (fields : Fields) :
    Fields.insert key value fields = Keyed.insert Prod.fst (key, value) fields := by
  induction fields with
  | nil => rfl
  | cons field rest ih =>
      obtain ⟨k, v⟩ := field
      rw [Fields.insert, Keyed.insert, ih]

theorem ascending_of_canonical {fields : List (String × Json)} (canonical : (object fields).Canonical) :
    Keyed.Ascending Prod.fst fields :=
  List.pairwise_map.mp ((every_object fields).mp canonical).1

/-- A value put into ascending order keeps it. -/
theorem canonical_insert {fields : Fields} (canonical : (object fields).Canonical) {value : Json}
    (inside : value.Canonical) (key : String) : (object (fields.insert key value)).Canonical := by
  have ascending := (ascending_of_canonical canonical).insert (x := (key, value))
  rw [insert_eq]
  refine (every_object _).mpr ⟨List.pairwise_map.mpr ascending, ?_⟩
  intro field member
  rcases Keyed.mem_insert member with rfl | member
  · exact inside
  · exact ((every_object fields).mp canonical).2 field member

theorem sortedItems_eq (items : List Json) : sortedItems items = items.map sorted := by
  induction items with
  | nil => rfl
  | cons j rest ih => rw [sortedItems, ih, List.map_cons]

theorem sortedFields_eq (fields : List (String × Json)) :
    sortedFields [] fields = Keyed.table Prod.fst (fields.map fun field => (field.1, field.2.sorted)) := by
  have behind : ∀ done : Fields, sortedFields done fields =
      (fields.map fun field => (field.1, field.2.sorted)).foldl
        (fun done field => Keyed.insert Prod.fst field done) done := by
    induction fields with
    | nil => intro done; rfl
    | cons field rest ih =>
        intro done
        obtain ⟨k, v⟩ := field
        rw [sortedFields, ih, insert_eq, List.map_cons, List.foldl_cons]
  exact behind []

mutual

/-- Sorting changes nothing in a value that is in ascending order. -/
theorem sorted_of_canonical : ∀ {j : Json}, j.Canonical → j.sorted = j
  | .null, _ | .bool _, _ | .number _, _ | .text _, _ => by simp [sorted]
  | .list items, canonical => by
      rw [sorted, sortedItems_eq, map_sorted_of_canonical]
      simpa [Canonical] using canonical
  | .object fields, canonical => by
      rw [sorted, sortedFields_eq, map_sorted_fields_of_canonical ((every_object fields).mp canonical).2,
        (ascending_of_canonical canonical).table]

theorem map_sorted_of_canonical : ∀ {items : List Json}, (∀ j ∈ items, j.Canonical) →
    items.map sorted = items
  | [], _ => rfl
  | j :: rest, canonical => by
      rw [List.map_cons, sorted_of_canonical (canonical j List.mem_cons_self),
        map_sorted_of_canonical fun i member => canonical i (List.mem_cons_of_mem j member)]

theorem map_sorted_fields_of_canonical : ∀ {fields : List (String × Json)},
    (∀ field ∈ fields, field.2.Canonical) →
    (fields.map fun field => (field.1, field.2.sorted)) = fields
  | [], _ => rfl
  | (k, v) :: rest, canonical => by
      rw [List.map_cons, sorted_of_canonical (canonical (k, v) List.mem_cons_self),
        map_sorted_fields_of_canonical fun field member =>
          canonical field (List.mem_cons_of_mem (k, v) member)]

end

/-! ## Equality -/

mutual

/-- A value without floating-point numbers equals itself. -/
theorem same_self : ∀ {j : Json}, j.Exact → j.same j = true
  | .null, _ => rfl
  | .bool _, _ | .text _, _ => beq_self_eq_true _
  | .number (.int _), _ => beq_self_eq_true _
  | .number (.real _), exact => absurd exact (by simp [Exact, JsonNumber.Exact])
  | .list items, exact => by
      rw [same, sameItems_self]
      simpa [Exact] using exact
  | .object fields, exact => by
      rw [same, sameFields_self ((every_object fields).mp exact).2]

theorem sameItems_self : ∀ {items : List Json}, (∀ j ∈ items, j.Exact) → sameItems items items = true
  | [], _ => rfl
  | j :: rest, exact => by
      rw [sameItems, same_self (exact j List.mem_cons_self),
        sameItems_self fun i member => exact i (List.mem_cons_of_mem j member)]
      rfl

theorem sameFields_self : ∀ {fields : List (String × Json)}, (∀ field ∈ fields, field.2.Exact) →
    sameFields fields fields = true
  | [], _ => rfl
  | (k, v) :: rest, exact => by
      rw [sameFields, same_self (exact (k, v) List.mem_cons_self),
        sameFields_self fun field member => exact field (List.mem_cons_of_mem (k, v) member),
        beq_self_eq_true]
      rfl

end

theorem list_same_self {items : List Json} (exact : ∀ j ∈ items, j.Exact) : (items == items) = true := by
  induction items with
  | nil => rfl
  | cons j rest ih =>
      have first : (j == j) = true := same_self (exact j List.mem_cons_self)
      rw [List.cons_beq_cons, first, ih fun i member => exact i (List.mem_cons_of_mem j member)]
      rfl

/-! ## Layouts -/

/-- How the fields of objects are ordered. -/
inductive Layout
  /-- As they were written. -/
  | asWritten
  /-- In ascending order of their names. -/
  | inOrder

namespace Layout

variable {α : Type} {key : α → String}

/-- A value in a layout. -/
def json : Layout → Json → Json
  | .asWritten, j => j
  | .inOrder, j => j.sorted

/-- Entries that become the fields of an object, in the order of a layout. -/
def entries (l : Layout) (key : α → String) (xs : List α) : List α :=
  match l with
  | .asWritten => xs
  | .inOrder => Keyed.table key xs

@[simp] theorem json_null (l : Layout) : l.json .null = .null := by
  cases l <;> simp [json, sorted]

@[simp] theorem json_bool (l : Layout) (b : Bool) : l.json (.bool b) = .bool b := by
  cases l <;> simp [json, sorted]

@[simp] theorem json_number (l : Layout) (n : JsonNumber) : l.json (.number n) = .number n := by
  cases l <;> simp [json, sorted]

@[simp] theorem json_nat (l : Layout) (n : Nat) : l.json (.nat n) = .nat n := json_number l _

@[simp] theorem json_text (l : Layout) (s : String) : l.json (.text s) = .text s := by
  cases l <;> simp [json, sorted]

@[simp] theorem json_list (l : Layout) (items : List Json) :
    l.json (.list items) = .list (items.map l.json) := by
  cases l with
  | asWritten => exact congrArg Json.list (List.map_id items).symm
  | inOrder => exact (congrArg Json.list (sortedItems_eq items)).trans rfl

theorem json_object (l : Layout) (fields : List (String × Json)) :
    l.json (.object fields) =
      .object (l.entries Prod.fst (fields.map fun field => (field.1, l.json field.2))) := by
  cases l with
  | asWritten => simp [json, entries]
  | inOrder => simp only [json, sorted, sortedFields_eq, entries]

theorem json_of_canonical (l : Layout) {j : Json} (canonical : j.Canonical) : l.json j = j := by
  cases l with
  | asWritten => rfl
  | inOrder => exact sorted_of_canonical canonical

theorem entries_of_ascending (l : Layout) {xs : List α} (ascending : Keyed.Ascending key xs) :
    l.entries key xs = xs := by
  cases l with
  | asWritten => rfl
  | inOrder => exact ascending.table

theorem perm_entries (l : Layout) {xs : List α} (distinct : (xs.map key).Nodup) :
    (l.entries key xs).Perm xs := by
  cases l with
  | asWritten => exact List.Perm.refl xs
  | inOrder => exact Keyed.perm_table distinct

theorem entries_map {β : Type} (l : Layout) (f : β → α) (xs : List β) :
    l.entries key (xs.map f) = (l.entries (key ∘ f) xs).map f := by
  cases l with
  | asWritten => rfl
  | inOrder => exact Keyed.table_map f xs

end Layout

/-! ## Fields under their names -/

/-- What each step of a fold keeps, the whole fold keeps. -/
theorem foldlM_keeps {α β : Type} {f : β → α → Option β} {P : β → Prop}
    (step : ∀ b a c, P b → f b a = some c → P c) (xs : List α) {b c : β} (start : P b)
    (folded : xs.foldlM f b = some c) : P c := by
  induction xs generalizing b with
  | nil =>
      obtain rfl := Option.some.inj folded
      exact start
  | cons x rest ih =>
      rw [List.foldlM_cons] at folded
      obtain ⟨next, first, later⟩ := Option.bind_eq_some_iff.mp folded
      exact ih (step b x next start first) later

/-- A fold whose steps all succeed. -/
theorem foldlM_map_eq_some {α β γ : Type} {f : β → γ → Option β} {g : α → γ} {h : β → α → β}
    {xs : List α} (images : ∀ x ∈ xs, ∀ b, f b (g x) = some (h b x)) (b : β) :
    (xs.map g).foldlM f b = some (xs.foldl h b) := by
  induction xs generalizing b with
  | nil => rfl
  | cons x rest ih =>
      rw [List.map_cons, List.foldlM_cons, images x List.mem_cons_self]
      exact ih (fun y member => images y (List.mem_cons_of_mem x member)) (h b x)

theorem mapM_eq_some_map {α β : Type} {f : α → Option β} {g : α → β} {xs : List α}
    (images : ∀ x ∈ xs, f x = some (g x)) : xs.mapM f = some (xs.map g) := by
  induction xs with
  | nil => rfl
  | cons x rest ih =>
      rw [List.mapM_cons, images x List.mem_cons_self,
        ih fun y member => images y (List.mem_cons_of_mem x member)]
      rfl

/-- What a record holds for a field. -/
def slot (fields : List (String × Json)) (name : String) : Slot :=
  match fields.find? (·.1 == name) with
  | some field => .given field.2
  | none => .missing

/-- The value of a slot in a layout. -/
def Slot.json (l : Layout) : Slot → Slot
  | .given j => .given (l.json j)
  | s => s

theorem filter_of_distinct {fields : List (String × Json)} (distinct : (fields.map Prod.fst).Nodup)
    (name : String) : fields.filter (·.1 == name) = (fields.find? (·.1 == name)).toList := by
  induction fields with
  | nil => rfl
  | cons field rest ih =>
      rw [List.map_cons, List.nodup_cons] at distinct
      by_cases named : field.1 = name
      · have none : rest.filter (·.1 == name) = [] := by
          refine List.filter_eq_nil_iff.mpr fun other member same => distinct.1 ?_
          rw [named, ← beq_iff_eq.mp same]
          exact List.mem_map_of_mem member
        simp [named, none]
      · simp [named, ih distinct.2]

theorem slots?_object {fields : List (String × Json)} (distinct : (fields.map Prod.fst).Nodup)
    (names : List String) : slots? names (.object fields) = some (names.map (slot fields)) := by
  refine mapM_eq_some_map fun name _ => ?_
  rw [filter_of_distinct distinct, slot]
  cases fields.find? (·.1 == name) <;> rfl

theorem slot_of_perm {fields others : List (String × Json)} (perm : others.Perm fields)
    (distinct : (fields.map Prod.fst).Nodup) (name : String) : slot others name = slot fields name := by
  have distinct' : (others.map Prod.fst).Nodup := (perm.map Prod.fst).nodup_iff.mpr distinct
  have same := perm.filter (·.1 == name)
  rw [filter_of_distinct distinct, filter_of_distinct distinct'] at same
  have found : others.find? (·.1 == name) = fields.find? (·.1 == name) := by
    cases found : fields.find? (·.1 == name) with
    | none =>
        rw [found] at same
        exact Option.toList_eq_nil_iff.mp same.eq_nil
    | some field =>
        rw [found] at same
        exact Option.toList_eq_singleton_iff.mp (List.perm_singleton.mp same)
  rw [slot, slot, found]

theorem slot_map (l : Layout) (fields : List (String × Json)) (name : String) :
    slot (fields.map fun field => (field.1, l.json field.2)) name = (slot fields name).json l := by
  have found : (fields.map fun field => (field.1, l.json field.2)).find? (·.1 == name) =
      (fields.find? (·.1 == name)).map fun field => (field.1, l.json field.2) := List.find?_map ..
  rw [slot, slot, found]
  cases fields.find? (·.1 == name) <;> rfl

/-- The fields of a record are found by their names, in whatever order they stand. -/
theorem slots?_of_perm (l : Layout) {fields others : List (String × Json)}
    (perm : others.Perm (fields.map fun field => (field.1, l.json field.2)))
    (distinct : (fields.map Prod.fst).Nodup) (names : List String) :
    slots? names (.object others) = some (names.map fun name => (slot fields name).json l) := by
  have keys : ((fields.map fun field => (field.1, l.json field.2)).map Prod.fst) =
      fields.map Prod.fst := by simp
  rw [← keys] at distinct
  rw [slots?_object ((perm.map Prod.fst).nodup_iff.mpr distinct)]
  congr 1
  refine List.map_congr_left fun name _ => ?_
  rw [slot_of_perm perm distinct, slot_map]

theorem Layout.perm_fields (l : Layout) (fields : List (String × Json))
    (distinct : (fields.map Prod.fst).Nodup) :
    (l.entries Prod.fst (fields.map fun field => (field.1, l.json field.2))).Perm
      (fields.map fun field => (field.1, l.json field.2)) :=
  l.perm_entries (by rwa [List.map_map])

theorem slots?_json (l : Layout) {fields : List (String × Json)}
    (distinct : (fields.map Prod.fst).Nodup) (names : List String) :
    slots? names (l.json (.object fields)) =
      some (names.map fun name => (slot fields name).json l) := by
  rw [l.json_object, slots?_of_perm l (l.perm_fields fields distinct) distinct]

theorem slot_of_mem {fields : List (String × Json)} (distinct : (fields.map Prod.fst).Nodup)
    {field : String × Json} (member : field ∈ fields) : slot fields field.1 = .given field.2 := by
  rw [slot, Keyed.find?_eq_of_nodup distinct member]

/-- A record that has all its fields. -/
theorem slots?_record (l : Layout) {names : List String} (distinct : names.Nodup) {values : List Json}
    (all : names.length = values.length) :
    slots? names (l.json (.object (names.zip values))) = some (values.map fun j => .given (l.json j)) := by
  have keys : (names.zip values).map Prod.fst = names := List.map_fst_zip (Nat.le_of_eq all)
  have held : (names.zip values).map Prod.snd = values := List.map_snd_zip (Nat.le_of_eq all.symm)
  have distinct : ((names.zip values).map Prod.fst).Nodup := keys.symm ▸ distinct
  have found : ∀ field ∈ names.zip values,
      (slot (names.zip values) field.1).json l = .given (l.json field.2) := by
    intro field member
    rw [slot_of_mem distinct member]
    rfl
  rw [slots?_json l distinct]
  congr 1
  calc names.map (fun name => (slot (names.zip values) name).json l)
      = ((names.zip values).map Prod.fst).map (fun name => (slot (names.zip values) name).json l) := by
        rw [keys]
    _ = ((names.zip values).map Prod.snd).map (fun j => .given (l.json j)) := by
        rw [List.map_map, List.map_map]
        exact List.map_congr_left found
    _ = values.map (fun j => .given (l.json j)) := by
        rw [held]

/-! ## Values -/

theorem asNat?_nat {bound n : Nat} (below : n < bound) : asNat? bound (.nat n) = some n := by
  simp [asNat?, nat, below]

theorem asUInt16?_json (l : Layout) (n : UInt16) : asUInt16? (l.json (.nat n.toNat)) = some n := by
  rw [Layout.json_nat, asUInt16?, asNat?_nat n.toNat_lt]
  simp

theorem asUInt32?_json (l : Layout) (n : UInt32) : asUInt32? (l.json (.nat n.toNat)) = some n := by
  rw [Layout.json_nat, asUInt32?, asNat?_nat n.toNat_lt]
  simp

theorem asUInt64?_json (l : Layout) (n : UInt64) : asUInt64? (l.json (.nat n.toNat)) = some n := by
  rw [Layout.json_nat, asUInt64?, asNat?_nat n.toNat_lt]
  simp

section Values

variable {α : Type} {read : Json → Option α} {write : α → Json} {f : α → α}

/-- A list whose items are read back, each as `f` says. -/
theorem asList?_json (l : Layout) {xs : List α} (reads : ∀ x ∈ xs, read (l.json (write x)) = some (f x)) :
    asList? read (l.json (.list (xs.map write))) = some (xs.map f) := by
  rw [Layout.json_list, asList?, List.map_map, List.mapM_map]
  exact mapM_eq_some_map reads

/-- An optional value is read back by a reader that does not take null for one. -/
theorem nullable_ofOption (l : Layout) {x : Option α} (noNull : read .null = none)
    (reads : ∀ y ∈ x, read (l.json (write y)) = some (f y)) :
    Slot.nullable read (l.json (ofOption write x)) = some (x.map f) := by
  cases x with
  | none => simp [ofOption, Slot.nullable]
  | some y =>
      have value := reads y rfl
      rw [ofOption, Slot.nullable]
      · rw [value]
        rfl
      · -- a value written as null would have been read from null
        intro null
        rw [null, noNull] at value
        cases value

end Values

theorem asText?_json (l : Layout) (s : String) : asText? (l.json (.text s)) = some (id s) := by
  rw [Layout.json_text]
  rfl

theorem asList?_texts (l : Layout) (xs : List String) :
    asList? asText? (l.json (.list (xs.map .text))) = some xs := by
  rw [asList?_json l fun x _ => asText?_json l x, List.map_id]

theorem nullable_text (l : Layout) (x : Option String) :
    Slot.nullable asText? (l.json (ofOption .text x)) = some x := by
  rw [nullable_ofOption l rfl fun y _ => asText?_json l y, Option.map_id, id]

/-! ## Records without floating-point numbers -/

theorem exact_text (s : String) : (text s).Exact := every_text s

theorem exact_nat {n : Nat} (bound : n < UInt64.size) : (nat n).Exact := by
  refine (every_number _).mpr ⟨?_, Int.ofNat_lt.mpr bound⟩
  omega

theorem exact_uint32 (n : UInt32) : (nat n.toNat).Exact :=
  exact_nat (Nat.lt_trans n.toNat_lt (by decide))

theorem exact_list {α : Type} {write : α → Json} {xs : List α} (exact : ∀ x ∈ xs, (write x).Exact) :
    (list (xs.map write)).Exact := by
  refine (every_list _).mpr fun j member => ?_
  obtain ⟨x, among, rfl⟩ := List.mem_map.mp member
  exact exact x among

theorem exact_texts (xs : List String) : (list (xs.map text)).Exact :=
  exact_list fun s _ => exact_text s

theorem exact_ofOption {α : Type} {write : α → Json} {x : Option α}
    (exact : ∀ y ∈ x, (write y).Exact) : (ofOption write x).Exact := by
  cases x with
  | none => exact every_null
  | some y => exact exact y rfl

theorem exact_object {fields : List (String × Json)} :
    (object fields).Exact ↔ ∀ field ∈ fields, field.2.Exact := by
  simp [Exact]

theorem exact_record {names : List String} {values : List Json} (exact : ∀ j ∈ values, j.Exact) :
    (object (names.zip values)).Exact :=
  exact_object.mpr fun _ member => exact _ (List.of_mem_zip member).2

/-! ## What is carried -/

/-- How a value is carried as JSON: what is written is read as the value itself; with all fields in
ascending order it is read as an equal one; and its text is read as the value, unless it nests deeper
than is read. -/
structure Carried {α : Type} (write : α → Json) (read : Json → Option α) (equal : α → α → Prop)
    (x : α) : Prop where
  written : read (write x) = some x
  sorted : ∃ y, read (write x).sorted = some y ∧ equal x y
  text : (parse? (write x).render).bind read =
    if (write x).nesting ≤ maxNesting then some x else none

/-- A value is carried if it is read in both layouts. -/
theorem carried_of_layouts {α : Type} {write : α → Json} {read : Json → Option α}
    {equal : α → α → Prop} {x : α} {y : Layout → α} (exact : (write x).Exact)
    (reads : ∀ l : Layout, read (l.json (write x)) = some (y l)) (same : y .asWritten = x)
    (alike : equal x (y .inOrder)) : Carried write read equal x where
  written := (reads .asWritten).trans (congrArg some same)
  sorted := ⟨y .inOrder, reads .inOrder, alike⟩
  text := by
    rw [parse?_render exact]
    split
    · exact (reads .asWritten).trans (congrArg some same)
    · rfl

end Json

end CrawlMesh
