/-
# Where the items of a spider are stored

The directory of a spider is the name of the spider behind a base path, and its items lie in
directories named for their hosts.  Both are text that comes from elsewhere: the name from a
definition, the host from an item.  A text stays where it is put if it is one ordinary component of
a path (`Component`).

The check of a definition asks no more of a name than a character that is not blank, so a name may
be points, hold slashes or begin at the root.  A host that was read holds no slash and is not empty
(`itemHost_ordinary`), so it is ordinary unless it consists of one or two points, as in `http://../`.
These names apart, everything is in its place (`stored_in_place`): building the sink makes
directories on the way to the one of the spider, and storing items makes directories of their hosts
below it and files in those, whatever fails.  A host of two points leads out
(`file_beside_directory`).
-/
import CrawlMesh.Proofs.Storage.Tree
import CrawlMesh.Proofs.Text.Splitting
import CrawlMesh.Proofs.Url.Reading
import CrawlMesh.Spider.Definition

namespace CrawlMesh

set_option autoImplicit false

/-! ## Paths in text -/

namespace Storage

/-- One ordinary component of a path: it names something inside the directory before it. -/
structure Component (name : String) : Prop where
  filled : name ≠ ""
  point : name ≠ "."
  points : name ≠ ".."
  slash : '/' ∉ name.toList

instance (name : String) : Decidable (Component name) :=
  decidable_of_iff (name ≠ "" ∧ name ≠ "." ∧ name ≠ ".." ∧ '/' ∉ name.toList)
    ⟨fun ⟨filled, point, points, slash⟩ => ⟨filled, point, points, slash⟩,
      fun ⟨filled, point, points, slash⟩ => ⟨filled, point, points, slash⟩⟩

/-- The parts of a path between slashes. -/
def parts (path : String) : List (List Char) := Text.splitWhere (· == '/') path.toList

/-- Those of some parts that mean something. -/
def meaningful (parts : List (List Char)) : List String :=
  (parts.map String.ofList).filter fun name => !name.isEmpty && name != "."

theorem names_eq (path : String) : names path = meaningful (parts path) := rfl

theorem meaningful_append (front back : List (List Char)) :
    meaningful (front ++ back) = meaningful front ++ meaningful back := by
  simp [meaningful]

/-- A name in a path is two points or ordinary. -/
theorem component_of_mem_names {path name : String} (member : name ∈ names path)
    (down : name ≠ "..") : Component name := by
  obtain ⟨among, filled⟩ := List.mem_filter.mp member
  obtain ⟨part, found, rfl⟩ := List.mem_map.mp among
  simp only [Bool.and_eq_true, Bool.not_eq_true', bne_iff_ne] at filled
  refine ⟨fun empty => ?_, filled.2, down, fun slash => ?_⟩
  · rw [empty] at filled
    exact absurd filled.1 (by decide)
  · rw [String.toList_ofList] at slash
    simpa using (Text.of_mem_splitWhere found slash).2

theorem parts_of_component {name : String} (ordinary : Component name) :
    parts name = [name.toList] := by
  refine Text.splitWhere_whole fun c member => ?_
  rw [beq_eq_false_iff_ne]
  rintro rfl
  exact ordinary.slash member

theorem names_of_component {name : String} (ordinary : Component name) : names name = [name] := by
  have filled : name.isEmpty = false := by
    simpa using ordinary.filled
  simp [names_eq, parts_of_component ordinary, meaningful, filled, ordinary.point]

theorem relative_of_component {name : String} (ordinary : Component name) :
    name.startsWith "/" = false := by
  rw [String.startsWith_string_eq_false_iff]
  exact fun begins => ordinary.slash (begins.subset (by decide))

/-- A path behind a base ends in its own parts. -/
theorem parts_joinPath {path : String} (relative : path.startsWith "/" = false) (base : String) :
    ∃ front, parts (joinPath base path) = front ++ parts path ∧ meaningful front = names base := by
  have cut (front back : List Char) : Text.splitWhere (· == '/') (front ++ '/' :: back) =
      Text.splitWhere (· == '/') front ++ Text.splitWhere (· == '/') back :=
    Text.splitWhere_append (by decide) front back
  unfold joinPath
  rw [relative, Bool.false_or]
  split_ifs with empty ends
  · refine ⟨[], rfl, ?_⟩
    cases String.isEmpty_iff.mp empty
    rfl
  · rw [← String.endsWith_toSlice, String.Slice.endsWith_string_iff, String.copy_toSlice] at ends
    obtain ⟨before, same⟩ := ends
    refine ⟨Text.splitWhere (· == '/') before, ?_, ?_⟩
    · rw [parts, String.toList_append, ← same, List.append_assoc]
      exact cut before path.toList
    · rw [names_eq, parts, ← same, show "/".toList = '/' :: [] from rfl, cut, meaningful_append]
      exact (List.append_nil _).symm
  · refine ⟨parts base, ?_, rfl⟩
    rw [parts, String.toList_append, String.toList_append, List.append_assoc]
    exact cut base.toList path.toList

theorem names_joinPath {path : String} (relative : path.startsWith "/" = false) (base : String) :
    names (joinPath base path) = names base ++ names path := by
  obtain ⟨front, same, before⟩ := parts_joinPath relative base
  rw [names_eq, same, meaningful_append, before, ← names_eq path]

/-- A path behind a base begins where the base begins. -/
theorem Tree.startOf_joinPath {path : String} (relative : path.startsWith "/" = false)
    (base : String) (t : Tree) : t.startOf (joinPath base path) = t.startOf base := by
  have begins : (joinPath base path).startsWith "/" = base.startsWith "/" := by
    unfold joinPath
    rw [relative, Bool.false_or]
    split_ifs with empty
    · cases String.isEmpty_iff.mp empty
      exact relative
    all_goals
      rw [Bool.eq_iff_iff, String.startsWith_string_iff, String.startsWith_string_iff]
      obtain ⟨c, rest, same⟩ := List.exists_cons_of_ne_nil (l := base.toList) (by simpa using empty)
      simp [String.toList_append, same, List.cons_prefix_cons]
  rw [startOf, begins, startOf]

theorem endsInPoint_of_component {name : String} (ordinary : Component name) (base : String) :
    Tree.endsInPoint (joinPath base name) = false := by
  obtain ⟨front, same, -⟩ := parts_joinPath (relative_of_component ordinary) base
  have filled : name.toList ≠ [] := by
    simpa using ordinary.filled
  have other : name.toList ≠ ['.'] := fun point => ordinary.point (String.toList_injective point)
  have last : Tree.endsInPoint (joinPath base name) =
      (((parts (joinPath base name)).filter fun part => !part.isEmpty).getLast? == some ['.']) := rfl
  rw [last, same, parts_of_component ordinary]
  simp [List.filter_append, filled, other]

/-! ## Names and hosts -/

theorem isRead_of_itemUrl? {item : Item} {url : Url} (read : itemUrl? item = some url) :
    url.IsRead := by
  unfold itemUrl? at read
  split at read
  · rename_i s _
    cases parsed : Url.parse s with
    | error fault => simp [parsed, Except.toOption] at read
    | ok other =>
        simp only [parsed, Except.toOption, Option.some.injEq] at read
        exact .parse (read ▸ parsed)
  · cases read

/-- The host of an item is not empty and holds no slash. -/
theorem itemHost_ordinary (item : Item) : itemHost item ≠ "" ∧ '/' ∉ (itemHost item).toList := by
  unfold itemHost
  cases named : (itemUrl? item).bind Url.hostText? with
  | none => exact ⟨by decide, by decide⟩
  | some host =>
      obtain ⟨url, read, text⟩ := Option.bind_eq_some_iff.mp named
      obtain ⟨place, readable, filled, rfl⟩ :=
        (isRead_of_itemUrl? read).wellFormed.readable_of_hostText? text
      exact ⟨fun empty => filled (Url.Host.eq_empty_of_text readable empty),
        Url.Host.not_mem_text readable (by decide) (by decide)⟩

theorem component_itemHost_iff (item : Item) :
    Component (itemHost item) ↔ itemHost item ≠ "." ∧ itemHost item ≠ ".." := by
  obtain ⟨filled, slash⟩ := itemHost_ordinary item
  exact ⟨fun ordinary => ⟨ordinary.point, ordinary.points⟩, fun ⟨point, points⟩ =>
    ⟨filled, point, points, slash⟩⟩

/-- A definition that is accepted has a name that is not empty, and no more is known of it. -/
theorem component_name_iff {d : SpiderDefinition} (accepted : d.check = .ok ()) :
    Component d.name ↔ d.name ≠ "." ∧ d.name ≠ ".." ∧ '/' ∉ d.name.toList := by
  have filled : d.name ≠ "" := by
    intro empty
    have blank : Text.isAllBlank d.name = true := by
      rw [empty]
      rfl
    rw [SpiderDefinition.check, if_pos blank] at accepted
    cases accepted
  exact ⟨fun ordinary => ⟨ordinary.point, ordinary.points, ordinary.slash⟩,
    fun ⟨point, points, slash⟩ => ⟨filled, point, points, slash⟩⟩

/-! ## Where things are put -/

/-- Where a path in text leads. -/
def Tree.placeOf (t : Tree) (path : String) : Path := place (t.startOf path) (names path)

theorem Tree.placeOf_joinPath {path : String} (relative : path.startsWith "/" = false)
    (base : String) (t : Tree) :
    t.placeOf (joinPath base path) = place (t.placeOf base) (names path) := by
  rw [placeOf, startOf_joinPath relative, names_joinPath relative, place_append, placeOf]

theorem Tree.placeOf_component {name : String} (ordinary : Component name) (base : String)
    (t : Tree) : t.placeOf (joinPath base name) = t.placeOf base ++ [name] := by
  rw [placeOf_joinPath (relative_of_component ordinary), names_of_component ordinary,
    place_cons ordinary.points]
  rfl

/-- The names on the way to a place are ordinary, if those on the way home are. -/
theorem Tree.component_of_mem_placeOf {t : Tree} (home : ∀ name ∈ t.home, Component name)
    {path name : String} (member : name ∈ t.placeOf path) : Component name := by
  rcases mem_place member with start | ⟨among, down⟩
  · unfold startOf at start
    split_ifs at start
    · cases start
    · exact home name start
  · exact component_of_mem_names among down

/-- Where the next file for an item is put, the directory being given as text. -/
def filePlace (s : Storage) (directory : String) (item : Item) : Path :=
  s.tree.placeOf (joinPath directory (itemHost item)) ++ [fileName (s.stamps s.stamped)]

/-- A file lies in the directory of its host below the one of its spider exactly if the name of
the spider and the host are ordinary. -/
theorem filePlace_iff {s : Storage} (home : ∀ name ∈ s.tree.home, Component name)
    (base spider : String) (item : Item) :
    s.filePlace (spiderDirectory base spider) item = s.tree.placeOf base ++
        [spider, itemHost item, fileName (s.stamps s.stamped)] ↔
      Component spider ∧ Component (itemHost item) := by
  constructor
  · intro same
    have directories : s.tree.placeOf (joinPath (joinPath base spider) (itemHost item)) =
        s.tree.placeOf base ++ [spider, itemHost item] := by
      refine List.append_cancel_right (same.trans ?_)
      rw [List.append_assoc]
      rfl
    have ordinary {name : String} (member : name ∈ s.tree.placeOf base ++ [spider, itemHost item]) :
        Component name := by
      rw [← directories] at member
      exact Tree.component_of_mem_placeOf home member
    exact ⟨ordinary (by simp), ordinary (by simp)⟩
  · rintro ⟨named, hosted⟩
    rw [filePlace, spiderDirectory, Tree.placeOf_component hosted, Tree.placeOf_component named]
    simp

/-! ## Storing one item -/

/-- What storing an item puts into the tree: directories as far as they can be made, and the file
if they all can. -/
theorem store_grows {s : Storage} {base : String} {item : Item} {makes : Path → Entry → Prop}
    (directories : s.tree.Grows makes (s.tree.makeDirectories (joinPath base (itemHost item))).2)
    (file : makes (s.filePlace base item) (.file (fileContent (s.stamps s.stamped) item))) :
    s.tree.Grows makes (s.store base item).2.tree := by
  unfold store
  dsimp only [nextStamp]
  split
  · rename_i stopped
    rwa [stopped] at directories
  · rename_i tree made
    rw [made] at directories
    split
    · exact directories
    · rename_i written
      obtain ⟨free, rfl⟩ := Tree.writeFile_spec written
      refine directories.trans (Tree.grows_set (by simp) ?_ free)
      rw [Tree.startOf_grows directories]
      exact file

/-- A file that is stored is there. -/
theorem get?_of_store {s s' : Storage} {base : String} {item : Item}
    (stored : s.store base item = (.ok (), s')) :
    s'.tree.get? (s.filePlace base item) = some (.file (fileContent (s.stamps s.stamped) item)) := by
  unfold store at stored
  dsimp only [nextStamp] at stored
  split at stored
  · cases stored
  · rename_i tree made
    have grows := s.tree.makeDirectories_grows (joinPath base (itemHost item))
    rw [made] at grows
    split at stored
    · cases stored
    · rename_i written
      obtain ⟨-, rfl⟩ := Tree.writeFile_spec written
      cases stored
      dsimp only
      rw [Tree.startOf_grows grows]
      exact Tree.get?_set_self (by simp) _

/-- What an item makes below a directory: the directory of its host, and files in that one. -/
def Stored (directory : Path) (item : Item) (path : Path) (entry : Entry) : Prop :=
  path = directory ++ [itemHost item] ∧ entry = .directory ∨
    ∃ stamp, path = directory ++ [itemHost item, fileName stamp] ∧
      entry = .file (fileContent stamp item)

/-- Where the directory of the sink is there, an item with an ordinary host stays below it. -/
theorem store_below {s : Storage} {base : String} {directory : Path}
    (there : s.tree.walk (s.tree.startOf base) (names base) = .ok directory) {item : Item}
    (ordinary : Component (itemHost item)) :
    s.tree.Grows (Stored directory item) (s.store base item).2.tree := by
  have relative := relative_of_component ordinary
  have arrives : directory = s.tree.placeOf base := Tree.walk_eq_place there
  refine store_grows ?_ (Or.inr ⟨s.stamps s.stamped, ?_, rfl⟩)
  · unfold Tree.makeDirectories
    dsimp only
    rw [endsInPoint_of_component ordinary, Tree.startOf_joinPath relative,
      names_joinPath relative, names_of_component ordinary, List.reverse_append,
      List.reverse_singleton, List.singleton_append]
    simp only [Bool.false_eq_true, if_false]
    split_ifs
    · exact .refl _ s.tree
    · have way : s.tree.walk (s.tree.startOf base) (names base).reverse.reverse = .ok directory := by
        rw [List.reverse_reverse, there]
      rcases Tree.makeAll_of_walk way with same | ⟨free, made⟩
      · rw [same]
        exact .refl _ s.tree
      · rw [made]
        exact Tree.grows_set (by simp) (Or.inl ⟨rfl, rfl⟩) (by simp [free])
  · rw [filePlace, Tree.placeOf_component ordinary, arrives]
    simp

/-! ## The sink of a spider -/

/-- A storage after a step was given items one after the other. -/
def afterItems (step : Processor Storage) (items : List Item) (s : Storage) : Storage :=
  items.foldl (fun s item => (step item s).2) s

theorem diskStep_storage (base : String) (item : Item) (s : Storage) :
    (ProcessorSpec.diskStep base item s).2 = (s.store base item).2 := by
  unfold ProcessorSpec.diskStep
  split <;> rename_i stored <;> rw [stored]

/-- Items with ordinary hosts stay below the directory of the sink, whatever fails. -/
theorem items_below {s : Storage} {base : String} {directory : Path}
    (there : s.tree.walk (s.tree.startOf base) (names base) = .ok directory) {items : List Item}
    (ordinary : ∀ item ∈ items, Component (itemHost item)) :
    s.tree.Grows (fun path entry => ∃ item ∈ items, Stored directory item path entry)
      (afterItems (ProcessorSpec.diskStep base) items s).tree := by
  induction items generalizing s with
  | nil => exact .refl _ s.tree
  | cons item rest ih =>
      have first := store_below there (ordinary item List.mem_cons_self)
      have stays : (s.store base item).2.tree.walk ((s.store base item).2.tree.startOf base)
          (names base) = .ok directory := by
        rw [Tree.startOf_grows first]
        exact Tree.walk_grows first there
      have later := ih stays fun other among => ordinary other (List.mem_cons_of_mem item among)
      have step : afterItems (ProcessorSpec.diskStep base) (item :: rest) s =
          afterItems (ProcessorSpec.diskStep base) rest (s.store base item).2 := by
        rw [← diskStep_storage]
        rfl
      rw [step]
      exact (first.mono fun path entry made => ⟨item, List.mem_cons_self, made⟩).trans
        (later.mono fun path entry ⟨other, among, made⟩ =>
          ⟨other, List.mem_cons_of_mem item among, made⟩)

/-- Building the sink of a spider makes its directory and those on the way there. -/
theorem build_grows (base spider : String) (s : Storage) :
    s.tree.Grows (Tree.OnTheWay (s.tree.startOf (spiderDirectory base spider))
        (names (spiderDirectory base spider)))
      ((ProcessorSpec.disk base).build spider s).2.tree := by
  have grows := s.tree.makeDirectories_grows (spiderDirectory base spider)
  unfold ProcessorSpec.build
  dsimp only
  split <;> rename_i made <;> rwa [made] at grows

/-- A sink that was built has its directory. -/
theorem walk_of_build {base spider : String} {s s' : Storage} {step : Processor Storage}
    (built : (ProcessorSpec.disk base).build spider s = (.ok step, s')) :
    step = ProcessorSpec.diskStep (spiderDirectory base spider) ∧
      s'.tree.walk (s'.tree.startOf (spiderDirectory base spider))
        (names (spiderDirectory base spider)) =
          .ok (s.tree.placeOf (spiderDirectory base spider)) := by
  have grows := s.tree.makeDirectories_grows (spiderDirectory base spider)
  unfold ProcessorSpec.build at built
  dsimp only at built
  split at built
  · rename_i tree made
    have gotThere : (s.tree.makeDirectories (spiderDirectory base spider)).1 = .ok () := by
      rw [made]
    have walked := Tree.walk_makeDirectories gotThere
    rw [made] at walked grows
    cases built
    refine ⟨rfl, ?_⟩
    rw [Tree.startOf_grows grows]
    cases arrived : tree.walk (s.tree.startOf (spiderDirectory base spider))
        (names (spiderDirectory base spider)) with
    | error fault =>
        rw [arrived] at walked
        cases walked
    | ok directory =>
        rw [Tree.walk_eq_place arrived]
        rfl
  · cases built

/-- Where a sink for a spider below a base path puts things, beginning with some storage. -/
structure StoresInPlace (base spider : String) (s : Storage) : Prop where
  /-- The name of the spider is ordinary unless it is points or holds a slash. -/
  name : Component spider ↔ spider ≠ "." ∧ spider ≠ ".." ∧ '/' ∉ spider.toList
  /-- The host of an item is ordinary unless it is points. -/
  host (item : Item) : Component (itemHost item) ↔ itemHost item ≠ "." ∧ itemHost item ≠ ".."
  /-- A stored file is there, in the directory of its host below that of the spider exactly if both
  are ordinary. -/
  file (item : Item) (s' : Storage)
      (stored : s.store (spiderDirectory base spider) item = (.ok (), s')) :
    s'.tree.get? (s.filePlace (spiderDirectory base spider) item) =
        some (.file (fileContent (s.stamps s.stamped) item)) ∧
      (s.filePlace (spiderDirectory base spider) item = s.tree.placeOf base ++
          [spider, itemHost item, fileName (s.stamps s.stamped)] ↔
        Component spider ∧ Component (itemHost item))
  /-- Building the sink makes directories on the way to that of the spider only. -/
  built (ordinary : Component spider) :
    s.tree.Grows (Tree.OnTheWay (s.tree.startOf base) (names base ++ [spider]))
      ((ProcessorSpec.disk base).build spider s).2.tree
  /-- Items that are stored at any later time, successfully or not, make nothing but directories of
  their hosts below that of the spider, and files in these. -/
  items (ordinary : Component spider) (step : Processor Storage) (made later : Storage)
      (success : (ProcessorSpec.disk base).build spider s = (.ok step, made))
      (since : made.tree.Grows (fun _ _ => True) later.tree) (items : List Item)
      (hosts : ∀ item ∈ items, Component (itemHost item)) :
    later.tree.Grows
      (fun path entry => ∃ item ∈ items, Stored (s.tree.placeOf base ++ [spider]) item path entry)
      (afterItems step items later).tree

/-- The sink of every spider whose definition is accepted stores in place, as far as the name of
the spider and the hosts of its items are ordinary. -/
theorem stored_in_place {d : SpiderDefinition} (accepted : d.check = .ok ()) (base : String)
    {s : Storage} (home : ∀ name ∈ s.tree.home, Component name) :
    StoresInPlace base d.name s where
  name := component_name_iff accepted
  host := component_itemHost_iff
  file item s' stored := ⟨get?_of_store stored, filePlace_iff home base d.name item⟩
  built ordinary := by
    have relative := relative_of_component ordinary
    have grows := build_grows base d.name s
    rwa [spiderDirectory, Tree.startOf_joinPath relative, names_joinPath relative,
      names_of_component ordinary] at grows
  items ordinary step made later success since items hosts := by
    obtain ⟨rfl, there⟩ := walk_of_build success
    rw [← Tree.placeOf_component ordinary]
    refine items_below ?_ hosts
    rw [Tree.startOf_grows since]
    exact Tree.walk_grows since there

/-- A storage with nothing in it, and items of two addresses. -/
def emptyHome : Storage := .ofFiles ["home"] [] Stamp.numbered

def bookItem : Item := [("title", .text "One"), ("url", .text "http://books.example.com/b/1")]

def pointsItem : Item := [("title", .text "One"), ("url", .text "http://../")]

theorem stored_in_place_books :
    (emptyHome.store (spiderDirectory "out" "books") bookItem).1 = .ok () ∧
      (emptyHome.store (spiderDirectory "out" "books") bookItem).2.tree.get?
          ["home", "out", "books", "books.example.com", fileName (Stamp.numbered 0)] =
        some (.file (fileContent (Stamp.numbered 0) bookItem)) := by
  have accepted : (SpiderDefinition.new "books").check = .ok () := rfl
  have home : ∀ name ∈ emptyHome.tree.home, Component name := by decide
  have stored : (emptyHome.store (spiderDirectory "out" "books") bookItem).1 = .ok () := by
    decide +kernel
  obtain ⟨there, place⟩ :=
    (stored_in_place accepted "out" home).file bookItem _ (Prod.ext stored rfl)
  have ordinary : Component "books" ∧ Component (itemHost bookItem) := by decide +kernel
  have names : emptyHome.tree.placeOf "out" ++ ["books", itemHost bookItem,
      fileName (emptyHome.stamps emptyHome.stamped)] =
        ["home", "out", "books", "books.example.com", fileName (Stamp.numbered 0)] := by
    decide +kernel
  rw [place.mpr ordinary, show (SpiderDefinition.new "books").name = "books" from rfl, names]
    at there
  exact ⟨stored, there⟩

/-- An item whose host is two points is stored beside the directory of its spider. -/
theorem file_beside_directory :
    (SpiderDefinition.new "books").check = .ok () ∧ itemHost pointsItem = ".." ∧
      ∃ built, ((ProcessorSpec.disk "out").build "books" emptyHome).2 = built ∧
        (built.store (spiderDirectory "out" "books") pointsItem).1 = .ok () ∧
        (built.store (spiderDirectory "out" "books") pointsItem).2.tree.get?
            ["home", "out", fileName (Stamp.numbered 0)] =
          some (.file (fileContent (Stamp.numbered 0) pointsItem)) ∧
        ¬ ["home", "out", "books"] <+: ["home", "out", fileName (Stamp.numbered 0)] := by
  refine ⟨rfl, by decide +kernel, _, rfl, ?_⟩
  generalize same : ((ProcessorSpec.disk "out").build "books" emptyHome).2 = built
  have stored : (built.store (spiderDirectory "out" "books") pointsItem).1 = .ok () := by
    subst same
    decide +kernel
  have place : built.filePlace (spiderDirectory "out" "books") pointsItem =
      ["home", "out", fileName (Stamp.numbered 0)] := by
    subst same
    decide +kernel
  have stamp : built.stamps built.stamped = Stamp.numbered 0 := by
    subst same
    decide +kernel
  have there := get?_of_store (Prod.ext stored rfl)
  rw [place, stamp] at there
  exact ⟨stored, there, by decide +kernel⟩

end Storage

end CrawlMesh
