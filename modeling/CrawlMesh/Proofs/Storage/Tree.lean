/-
# What is made in a directory tree

Names lead from a directory to a place, two points to the place above (`place`).  A walk that gets
through arrives at that place (`Tree.walk_eq_place`), so everything that the makers of directories
and files put into a tree lies at a place that is known from the text of the path alone:

* `Tree.makeAll` makes nothing but directories, at the places of beginnings of the names
  (`Tree.makeAll_grows`), also if it fails on its way; if it gets through, the names can be walked
  (`Tree.walk_makeAll`);
* where all but the last name can be walked already, it makes at most the last one
  (`Tree.makeAll_of_walk`);
* `Tree.writeFile` puts one file under the place of its directory (`Tree.writeFile_spec`).

Growing is the relation behind all of them (`Tree.Grows`): what was a directory stays one, and what
is found in another way afterwards is one of a given set of entries.
-/
import CrawlMesh.Storage.Tree
import Mathlib.Data.List.Infix
import Mathlib.Tactic.SplitIfs

namespace CrawlMesh.Storage

set_option autoImplicit false

/-! ## Places -/

/-- Where names lead from a directory. -/
def place (start : Path) (names : List String) : Path :=
  names.foldl (fun path name => if name == ".." then path.dropLast else path ++ [name]) start

theorem place_append (start : Path) (front back : List String) :
    place start (front ++ back) = place (place start front) back :=
  List.foldl_append

theorem place_above (start : Path) (rest : List String) :
    place start (".." :: rest) = place start.dropLast rest := rfl

theorem place_cons {name : String} (down : name ≠ "..") (start : Path) (rest : List String) :
    place start (name :: rest) = place (start ++ [name]) rest := by
  simp only [place, List.foldl_cons, beq_iff_eq, down, if_false]

/-- Every name on the way to a place comes from the start or from the names that led there. -/
theorem mem_place {start : Path} {names : List String} {name : String}
    (member : name ∈ place start names) : name ∈ start ∨ name ∈ names ∧ name ≠ ".." := by
  induction names generalizing start with
  | nil => exact Or.inl member
  | cons first rest ih =>
      by_cases above : first = ".."
      · subst above
        rw [place_above] at member
        rcases ih member with old | ⟨among, ordinary⟩
        · exact Or.inl (List.mem_of_mem_dropLast old)
        · exact Or.inr ⟨List.mem_cons_of_mem _ among, ordinary⟩
      · rw [place_cons above] at member
        rcases ih member with old | ⟨among, ordinary⟩
        · rcases List.mem_append.mp old with old | here
          · exact Or.inl old
          · cases List.mem_singleton.mp here
            exact Or.inr ⟨List.mem_cons_self, above⟩
        · exact Or.inr ⟨List.mem_cons_of_mem _ among, ordinary⟩

namespace Tree

/-! ## One entry -/

theorem get?_set_of_ne {t : Tree} {path other : Path} {entry : Entry} (apart : other ≠ path) :
    (t.set path entry).get? other = t.get? other := by
  have passes (e : Path × Entry) :
      decide ((e.1 != path) = true ∧ (e.1 == other) = true) = (e.1 == other) := by
    by_cases here : e.1 = other
    · simp [here, apart]
    · simp [here]
  have ends : ([(path, entry)].find? fun e => e.1 == other) = none := by
    simpa using apart.symm
  simp only [get?, set, List.find?_append, List.find?_filter, passes, ends, Option.or_none]

theorem get?_set_self {t : Tree} {path : Path} (filled : path ≠ []) (entry : Entry) :
    (t.set path entry).get? path = some entry := by
  have skipped : ((t.entries.filter (·.1 != path)).find? (·.1 == path)) = none := by
    simp [List.find?_eq_none]
  simp [get?, set, List.find?_append, skipped, filled]

/-! ## Growing -/

/-- What was a directory stays one, and whatever is changed is found as `makes` says. -/
structure Grows (makes : Path → Entry → Prop) (t t' : Tree) : Prop where
  home : t'.home = t.home
  directories : ∀ path, t.get? path = some .directory → t'.get? path = some .directory
  changed : ∀ path, t'.get? path = t.get? path ∨ ∃ entry, t'.get? path = some entry ∧ makes path entry

variable {makes makes' : Path → Entry → Prop} {t t' t'' : Tree}

theorem Grows.refl (makes : Path → Entry → Prop) (t : Tree) : Grows makes t t :=
  ⟨rfl, fun _ found => found, fun _ => Or.inl rfl⟩

theorem Grows.trans (first : Grows makes t t') (second : Grows makes t' t'') :
    Grows makes t t'' where
  home := second.home.trans first.home
  directories path found := second.directories path (first.directories path found)
  changed path := by
    rcases second.changed path with same | later
    · rw [same]
      exact first.changed path
    · exact Or.inr later

theorem Grows.mono (grows : Grows makes t t')
    (wider : ∀ path entry, makes path entry → makes' path entry) : Grows makes' t t' where
  home := grows.home
  directories := grows.directories
  changed path := (grows.changed path).imp_right fun ⟨entry, found, made⟩ =>
    ⟨entry, found, wider path entry made⟩

/-- An entry where there was no directory. -/
theorem grows_set {path : Path} {entry : Entry} (filled : path ≠ []) (made : makes path entry)
    (free : t.get? path ≠ some .directory) : Grows makes t (t.set path entry) where
  home := rfl
  directories other found := by
    have apart : other ≠ path := by
      rintro rfl
      exact free found
    rw [get?_set_of_ne apart, found]
  changed other := by
    by_cases here : other = path
    · subst here
      exact Or.inr ⟨entry, get?_set_self filled entry, made⟩
    · exact Or.inl (get?_set_of_ne here)

/-! ## Walking -/

/-- A walk that gets through arrives at the place of its names. -/
theorem walk_eq_place {start arrived : Path} {names : List String}
    (walked : t.walk start names = .ok arrived) : arrived = place start names := by
  induction names generalizing start with
  | nil =>
      cases walked
      rfl
  | cons name rest ih =>
      rw [walk] at walked
      split_ifs at walked with above long
      · rw [beq_iff_eq] at above
        rw [above, place_above]
        exact ih walked
      · rw [beq_iff_eq] at above
        split at walked
        · cases walked
        · rw [place_cons above]
          exact ih walked
        · cases walked

/-- A walk stays possible while directories stay. -/
theorem walk_grows (grows : Grows makes t t') {start arrived : Path} {names : List String}
    (walked : t.walk start names = .ok arrived) : t'.walk start names = .ok arrived := by
  induction names generalizing start with
  | nil => exact walked
  | cons name rest ih =>
      rw [walk] at walked ⊢
      split_ifs at walked ⊢
      · exact ih walked
      · split at walked
        · cases walked
        · rename_i found
          rw [grows.directories _ found]
          exact ih walked
        · cases walked

theorem walk_append {start : Path} (front back : List String) :
    t.walk start (front ++ back) = (t.walk start front).bind fun path => t.walk path back := by
  induction front generalizing start with
  | nil => rfl
  | cons name rest ih =>
      rw [List.cons_append, walk, walk]
      split_ifs
      · exact ih
      · rfl
      · split
        · rfl
        · exact ih
        · rfl

/-! ## Directories -/

/-- A directory that is made lies beside what is there. -/
theorem makeLast_spec {start : Path} {parents : List String} {name : String}
    (made : t.makeLast start parents name = .ok t') :
    t.walk start parents = .ok (place start parents) ∧ name ≠ ".." ∧
      name.utf8ByteSize ≤ maxName ∧ t.get? (place start parents ++ [name]) = none ∧
      t' = t.set (place start parents ++ [name]) .directory := by
  unfold makeLast at made
  cases walked : t.walk start parents with
  | error fault =>
      rw [walked] at made
      cases made
  | ok parent =>
      rw [walked] at made
      cases walk_eq_place walked
      simp only [bind, Except.bind] at made
      split_ifs at made with above long there
      cases made
      refine ⟨rfl, by simpa using above, by omega, ?_, rfl⟩
      simpa using there

/-- Names lead to a directory that was made last. -/
theorem walk_makeLast {start : Path} {parents : List String} {name : String}
    (made : t.makeLast start parents name = .ok t') :
    (t'.walk start (parents ++ [name])).isOk = true := by
  obtain ⟨walked, down, short, free, rfl⟩ := makeLast_spec made
  have grows : Grows (fun _ _ => True) t (t.set (place start parents ++ [name]) .directory) :=
    grows_set (by simp) trivial (by simp [free])
  have ordinary : (name == "..") = false := by simpa using down
  rw [walk_append, walk_grows grows walked]
  simp only [Except.bind, walk, ordinary, Bool.false_eq_true, if_false]
  rw [if_neg (by omega), get?_set_self (by simp)]
  rfl

/-- Directories at the places of the beginnings of some names. -/
def OnTheWay (start : Path) (names : List String) (path : Path) (entry : Entry) : Prop :=
  entry = .directory ∧ ∃ front, front <+: names ∧ path = place start front

/-- Making a directory and those above it changes the way there only, also where it fails. -/
theorem makeAll_grows (t : Tree) (start : Path) (names : List String) :
    Grows (OnTheWay start names.reverse) t (t.makeAll start names).2 := by
  induction names generalizing t with
  | nil => exact .refl _ t
  | cons name above ih =>
      have last {t t' : Tree} (made : t.makeLast start above.reverse name = .ok t') :
          Grows (OnTheWay start (name :: above).reverse) t t' := by
        obtain ⟨-, down, -, free, rfl⟩ := makeLast_spec made
        have whole : place start (above.reverse ++ [name]) = place start above.reverse ++ [name] := by
          rw [place_append, place_cons down]
          rfl
        refine grows_set (by simp) ⟨rfl, (name :: above).reverse, List.prefix_rfl, ?_⟩ (by simp [free])
        rw [List.reverse_cons, whole]
      have parents : Grows (OnTheWay start (name :: above).reverse) t (t.makeAll start above).2 := by
        refine (ih t).mono fun path entry ⟨directory, front, begins, same⟩ =>
          ⟨directory, front, ?_, same⟩
        rw [List.reverse_cons]
        exact begins.trans (List.prefix_append above.reverse [name])
      rw [makeAll]
      split
      · rename_i made
        exact last made
      · split
        · rename_i stopped
          rwa [stopped] at parents
        · rename_i t' gotThere
          rw [gotThere] at parents
          split
          · rename_i made
            exact parents.trans (last made)
          · exact parents
      · exact .refl _ t

theorem walk_of_settle {start : Path} {path : List String} {fault : Fault}
    (settled : t.settle start path fault = .ok ()) : (t.walk start path).isOk = true := by
  unfold settle leadsToDirectory at settled
  split_ifs at settled with there
  exact there

/-- Directories that have been made can be walked. -/
theorem walk_makeAll {start : Path} {names : List String}
    (made : (t.makeAll start names).1 = .ok ()) :
    ((t.makeAll start names).2.walk start names.reverse).isOk = true := by
  cases names with
  | nil => rfl
  | cons name above =>
      rw [makeAll] at made ⊢
      split at made
      · rename_i last
        rw [List.reverse_cons]
        exact walk_makeLast last
      · split at made
        · cases made
        · split at made
          · rename_i last
            rw [List.reverse_cons]
            exact walk_makeLast last
          · exact walk_of_settle made
      · exact walk_of_settle made

/-- Where the way to a directory is there, at most the directory is made. -/
theorem makeAll_of_walk {start arrived : Path} {name : String} {above : List String}
    (walked : t.walk start above.reverse = .ok arrived) :
    (t.makeAll start (name :: above)).2 = t ∨
      t.get? (arrived ++ [name]) = none ∧
        (t.makeAll start (name :: above)).2 = t.set (arrived ++ [name]) .directory := by
  have arrives := walk_eq_place walked
  have present : t.makeLast start above.reverse name ≠ .error .missing := by
    unfold makeLast
    rw [walked]
    simp only [bind, Except.bind]
    split_ifs <;> simp [throw, throwThe, MonadExceptOf.throw, pure, Except.pure]
  rw [makeAll]
  split
  · rename_i made
    obtain ⟨-, -, -, free, same⟩ := makeLast_spec made
    rw [arrives]
    exact Or.inr ⟨free, same⟩
  · rename_i missing
    exact absurd missing present
  · exact Or.inl rfl

theorem startOf_grows (grows : Grows makes t t') (path : String) :
    t'.startOf path = t.startOf path := by
  rw [startOf, startOf, grows.home]

/-- The directories of a path in text are made on its way, also if that fails. -/
theorem makeDirectories_grows (t : Tree) (path : String) :
    Grows (OnTheWay (t.startOf path) (names path)) t (t.makeDirectories path).2 := by
  have whole := t.makeAll_grows (t.startOf path) (names path).reverse
  rw [List.reverse_reverse] at whole
  have parents : Grows (OnTheWay (t.startOf path) (names path)) t
      (t.makeAll (t.startOf path) (names path).dropLast.reverse).2 := by
    have before := t.makeAll_grows (t.startOf path) (names path).dropLast.reverse
    rw [List.reverse_reverse] at before
    exact before.mono fun there entry ⟨directory, front, begins, same⟩ =>
      ⟨directory, front, begins.trans (List.dropLast_prefix _), same⟩
  unfold makeDirectories
  rw [List.tail_reverse]
  dsimp only
  split_ifs
  · exact .refl _ t
  · split
    · split
      · rename_i stopped
        rwa [stopped] at parents
      · rename_i gotThere
        rwa [gotThere] at parents
    · exact .refl _ t
  · exact whole

/-- A path in text can be walked when its directories have been made. -/
theorem walk_makeDirectories {path : String} (made : (t.makeDirectories path).1 = .ok ()) :
    ((t.makeDirectories path).2.walk (t.startOf path) (names path)).isOk = true := by
  have isOk {t' : Tree}
      (there : (t'.walk (t.startOf path) (names path)).map (fun _ => ()) = .ok ()) :
      (t'.walk (t.startOf path) (names path)).isOk = true := by
    cases walked : t'.walk (t.startOf path) (names path) with
    | error fault =>
        rw [walked] at there
        cases there
    | ok arrived => rfl
  unfold makeDirectories at made ⊢
  dsimp only at made ⊢
  split_ifs at made ⊢
  · split at made
    · split at made
      · cases made
      · exact isOk made
    · exact isOk made
  · have walked := walk_makeAll made
    rwa [List.reverse_reverse] at walked

/-! ## Files -/

/-- A file that is written lies under the place of its directory. -/
theorem writeFile_spec {directory name : String} {content : Json}
    (written : t.writeFile directory name content = .ok t') :
    t.get? (place (t.startOf directory) (names directory) ++ [name]) ≠ some .directory ∧
      t' = t.set (place (t.startOf directory) (names directory) ++ [name]) (.file content) := by
  unfold writeFile at written
  cases walked : t.walk (t.startOf directory) (names directory) with
  | error fault =>
      rw [walked] at written
      cases written
  | ok parent =>
      rw [walked] at written
      cases walk_eq_place walked
      simp only [bind, Except.bind] at written
      split_ifs at written with there
      cases written
      refine ⟨fun found => ?_, rfl⟩
      simp [isDirectory, found, Entry.isDirectory] at there

end Tree

end CrawlMesh.Storage
