/-
# Primary domains

The primary domain of a host is an address without brackets, or some of the last labels of its name
(`primaryDomain_cases`).  It is a projection.  A name in lower case without blanks and dots at its end is
normalized already (`normalized_eq_self`), the labels that are kept of a name are all kept of what was
kept (`primaryLabels_primaryLabels`), and what is kept of a longer name has one dot or two, so that it is
no address where the name was none (`Keeps.not_isLiteral`).

A label in front of a name does not change what is kept of it, unless the whole name was kept and is
not long enough: a name of one label, or one under which a country registers names
(`primaryLabels_cons`).
-/
import CrawlMesh.Domain
import CrawlMesh.Proofs.Net.Texts
import CrawlMesh.Proofs.Text.Lowering
import CrawlMesh.Proofs.Text.Trimming

namespace CrawlMesh

set_option autoImplicit false

namespace Domain

/-- The name is an address, or one in brackets. -/
def IsLiteral (name : String) : Prop := (Net.Ip.ofText? (bare name)).isSome = true

instance : DecidablePred IsLiteral := fun _ => inferInstanceAs (Decidable (_ = true))

/-! ## Labels -/

variable {ls : List (List Char)} {name host : String} {c : Char}

theorem labels_eq (cs : List Char) : labels cs = cs.splitOn '.' := Text.splitWhere_eq cs

theorem joinLabels_labels (name : String) : joinLabels (labels name.toList) = name := by
  rw [joinLabels, labels_eq, List.intercalate_splitOn, String.ofList_toList]

theorem labels_joinLabels (filled : ls ≠ []) (whole : ∀ label ∈ ls, '.' ∉ label) :
    labels (joinLabels ls).toList = ls := by
  rw [joinLabels, String.toList_ofList, labels_eq, List.splitOn_intercalate _ whole filled]

theorem labels_cons {label rest : List Char} (whole : '.' ∉ label) :
    labels (label ++ '.' :: rest) = label :: labels rest := by
  have uncut : ∀ c ∈ label, (c == '.') = false := by
    intro c member
    rw [beq_eq_false_iff_ne]
    rintro rfl
    exact whole member
  rw [labels, Text.splitWhere_append (by rfl), Text.splitWhere_whole uncut]
  rfl

theorem dot_not_mem_of_labels {cs label : List Char} (among : label ∈ labels cs) : '.' ∉ label :=
  fun member => absurd (Text.of_mem_splitWhere among member).2 (by decide)

theorem length_labels (cs : List Char) : (labels cs).length = cs.count '.' + 1 := by
  induction cs with
  | nil => rfl
  | cons c rest ih =>
      rw [labels, Text.splitWhere_eq] at ih ⊢
      rw [List.splitOnP_cons_eq_if_modifyHead, List.count_cons]
      split <;> simp_all

/-- No dot is last if no label is empty. -/
theorem last_ne_dot {cs : List Char} (filled : [] ∉ labels cs) : ∀ c ∈ cs.getLast?, (c == '.') = false := by
  intro c last
  rw [beq_eq_false_iff_ne]
  rintro rfl
  obtain ⟨front, rfl⟩ := List.getLast?_eq_some_iff.mp last
  apply filled
  rw [labels, Text.splitWhere_append (by rfl)]
  exact List.mem_append_right _ (List.mem_singleton.mpr rfl)

/-! ## The labels that are kept -/

theorem keptLabels_cases (last second : List Char) :
    keptLabels last second = 2 ∨ keptLabels last second = 3 := by
  unfold keptLabels
  split
  · exact Or.inr rfl
  · exact Or.inl rfl

/-- The last labels are kept: all of them, or two or three. -/
theorem primaryLabels_spec (ls : List (List Char)) :
    ∃ front, ls = front ++ primaryLabels ls.reverse ∧ (primaryLabels ls.reverse).length ≤ 3 ∧
      (front = [] ∨ 2 ≤ (primaryLabels ls.reverse).length) := by
  obtain ⟨r, rfl⟩ : ∃ r : List (List Char), ls = r.reverse := ⟨ls.reverse, by simp⟩
  rw [List.reverse_reverse]
  match r with
  | [] => exact ⟨[], by simp [primaryLabels]⟩
  | [last] => exact ⟨[], by simp [primaryLabels]⟩
  | last :: second :: others =>
      refine ⟨((last :: second :: others).drop (keptLabels last second)).reverse, ?_, ?_, ?_⟩
      · rw [primaryLabels, ← List.reverse_append, List.take_append_drop]
      · have kept := keptLabels_cases last second
        simp only [primaryLabels, List.length_reverse, List.length_take]
        omega
      · right
        have kept := keptLabels_cases last second
        simp only [primaryLabels, List.length_reverse, List.length_take, List.length_cons]
        omega

theorem primaryLabels_eq_self (few : ls.length ≤ 2) : primaryLabels ls.reverse = ls := by
  obtain ⟨front, split, -, either⟩ := primaryLabels_spec ls
  have length := congrArg List.length split
  rw [List.length_append] at length
  have none : front = [] := by
    rcases either with none | two
    · exact none
    · exact List.eq_nil_of_length_eq_zero (by omega)
  rw [none, List.nil_append] at split
  exact split.symm

/-- What is kept is kept again. -/
theorem primaryLabels_primaryLabels (r : List (List Char)) :
    primaryLabels (primaryLabels r).reverse = primaryLabels r := by
  match r with
  | [] => rfl
  | [last] => rfl
  | last :: second :: others =>
      obtain ⟨n, kept⟩ : ∃ n, keptLabels last second = n + 2 := by
        rcases keptLabels_cases last second with two | three
        · exact ⟨0, two⟩
        · exact ⟨1, three⟩
      simp only [primaryLabels, kept, List.take_succ_cons, List.reverse_reverse, List.take_take,
        Nat.min_self]

/-- A label in front changes nothing if as many labels as are kept stand behind it. -/
theorem primaryLabels_cons (label : List Char) (two : 2 ≤ ls.length)
    (enough : ∀ second last, ls = [second, last] → keptLabels last second = 2) :
    primaryLabels (label :: ls).reverse = primaryLabels ls.reverse := by
  obtain ⟨r, rfl⟩ : ∃ r : List (List Char), ls = r.reverse := ⟨ls.reverse, by simp⟩
  rw [List.length_reverse] at two
  rw [List.reverse_cons, List.reverse_reverse]
  match r, two with
  | last :: second :: others, _ =>
      have kept : keptLabels last second ≤ (last :: second :: others).length := by
        cases others with
        | nil => rw [enough second last rfl]; rfl
        | cons third rest =>
            have either := keptLabels_cases last second
            simp only [List.length_cons]
            omega
      simp only [List.cons_append, primaryLabels]
      rw [← List.cons_append, ← List.cons_append, List.take_append_of_le_length kept]

/-! ## Names -/

/-- Brackets are at the ends. -/
theorem bare_spec (name : String) : ∃ front back, name.toList = front ++ (bare name).toList ++ back ∧
    (∀ c ∈ front, c = '[') ∧ ∀ c ∈ back, c = ']' := by
  obtain ⟨front, text, left⟩ := Text.trimStartWith_spec (· == '[') name
  obtain ⟨back, rest, right, -⟩ := Text.trimEndWith_spec (· == ']') (Text.trimStartWith (· == '[') name)
  refine ⟨front, back, ?_, by simpa using left, by simpa using right⟩
  rw [text, rest, ← List.append_assoc]
  rfl

theorem count_bare (name : String) : (bare name).toList.count '.' = name.toList.count '.' := by
  obtain ⟨front, back, text, left, right⟩ := bare_spec name
  have noDot {ends : List Char} {mark : Char} (all : ∀ c ∈ ends, c = mark) (apart : mark ≠ '.') :
      ends.count '.' = 0 := List.count_eq_zero_of_not_mem fun member => apart (all '.' member).symm
  rw [text, List.count_append, List.count_append, noDot left (by decide), noDot right (by decide)]
  omega

theorem bare_eq_self (plain : ∀ c ∈ name.toList, c ≠ '[' ∧ c ≠ ']') : bare name = name := by
  have left : Text.trimStartWith (· == '[') name = name :=
    Text.trimStartWith_eq_self fun c member => by simpa using (plain c member).1
  rw [bare, left]
  refine Text.trimEndWith_eq_self fun c last => ?_
  simpa using (plain c (List.mem_of_getLast? last)).2

/-- An address has no dots or three. -/
theorem IsLiteral.count (literal : IsLiteral name) :
    name.toList.count '.' = 0 ∨ name.toList.count '.' = 3 := by
  obtain ⟨i, read⟩ := Option.isSome_iff_exists.mp literal
  obtain ⟨points, piece, either⟩ := Net.piece_of_ofText? read
  rwa [← count_bare, piece.count]

/-- An address without brackets is an address. -/
theorem IsLiteral.stripped (literal : IsLiteral name) :
    bare name ≠ "" ∧ IsLiteral (bare name) ∧ bare (bare name) = bare name ∧
      ∀ c ∈ (bare name).toList.getLast?, (c == '.') = false := by
  obtain ⟨i, read⟩ := Option.isSome_iff_exists.mp literal
  obtain ⟨points, piece, -⟩ := Net.piece_of_ofText? read
  have again : bare (bare name) = bare name := by
    refine bare_eq_self fun c member => ⟨?_, ?_⟩
    · rintro rfl
      exact absurd (piece.characters _ member) (by decide)
    · rintro rfl
      exact absurd (piece.characters _ member) (by decide)
  refine ⟨?_, ?_, again, fun c last => ?_⟩
  · intro empty
    have unread : Net.Ip.ofText? "" = none := by decide
    rw [empty, unread] at read
    cases read
  · rw [IsLiteral, again]
    exact literal
  · rw [beq_eq_false_iff_ne]
    rintro rfl
    exact piece.last last

theorem mem_normalized (member : c ∈ (normalized host).toList) :
    Unicode.IsSmall c ∧ (c ∈ host.toList ∨ Unicode.Unreserved c) :=
  (Text.of_mem_lower member).imp_right <| Or.imp_left fun kept =>
    Text.mem_of_mem_trim (Text.mem_of_mem_trimEndWith kept)

theorem normalized_eq_lower (full : ∀ c ∈ host.toList, Text.isBlank c = false) :
    normalized host = Text.lower (Text.trimEndWith (· == '.') host) := by
  rw [normalized, Text.trim_eq_self full]

/-- A small name without blanks that does not end in a dot is normalized. -/
theorem normalized_eq_self (full : ∀ c ∈ host.toList, Text.isBlank c = false)
    (small : ∀ c ∈ host.toList, Unicode.IsSmall c) (last : ∀ c ∈ host.toList.getLast?, (c == '.') = false) :
    normalized host = host := by
  rw [normalized_eq_lower full, Text.trimEndWith_eq_self last, Text.lower_eq_self small]

end Domain

open Domain

/-- What a primary domain is. -/
theorem primaryDomain_eq_ok_iff {host domain : String} : primaryDomain host = .ok domain ↔
    normalized host ≠ "" ∧ (IsLiteral (normalized host) ∧ domain = bare (normalized host) ∨
      ¬IsLiteral (normalized host) ∧ [] ∉ labels (normalized host).toList ∧
        domain = joinLabels (primaryLabels (labels (normalized host).toList).reverse)) := by
  unfold primaryDomain
  generalize normalized host = name
  simp only
  split
  · rename_i empty
    constructor
    · intro named
      cases named
    · rintro ⟨filled, -⟩
      exact absurd (String.isEmpty_iff.mp empty) filled
  · rename_i filled
    have filled : name ≠ "" := fun empty => filled (String.isEmpty_iff.mpr empty)
    split
    · rename_i literal
      have literal : IsLiteral name := literal
      simp [filled, literal, eq_comm]
    · rename_i plain
      have plain : ¬IsLiteral name := plain
      split
      · rename_i empty
        simp at empty
        simp [filled, plain, empty]
      · rename_i whole
        simp at whole
        split
        · rename_i few
          rw [primaryLabels_eq_self few, joinLabels_labels]
          simp [filled, plain, whole, eq_comm]
        · simp [filled, plain, whole, eq_comm]

/-- The labels `back` of a name are kept as a domain, those in `front` of them are not. -/
structure Keeps (name domain : String) (front back : List (List Char)) : Prop where
  split : labels name.toList = front ++ back
  filled : [] ∉ back
  most : back.length ≤ 3
  all_or_two : front = [] ∨ 2 ≤ back.length
  again : primaryLabels back.reverse = back
  joined : domain = joinLabels back

namespace Keeps

variable {name domain : String} {front back : List (List Char)}

theorem ne_nil (keeps : Keeps name domain front back) : back ≠ [] := by
  rintro rfl
  rcases keeps.all_or_two with rfl | two
  · exact Text.splitWhere_ne_nil _ _ keeps.split
  · exact absurd two (by decide)

theorem mem_labels (keeps : Keeps name domain front back) {label : List Char} (among : label ∈ back) :
    label ∈ labels name.toList := by
  rw [keeps.split]
  exact List.mem_append_right _ among

theorem labels_eq (keeps : Keeps name domain front back) : labels domain.toList = back := by
  rw [keeps.joined]
  exact labels_joinLabels keeps.ne_nil fun label among =>
    dot_not_mem_of_labels (keeps.mem_labels among)

/-- What is kept of a name is no address if the name is none. -/
theorem not_isLiteral (keeps : Keeps name domain front back) (plain : ¬IsLiteral name) :
    ¬IsLiteral domain := by
  rcases keeps.all_or_two with rfl | two
  · have split := keeps.split
    rw [List.nil_append] at split
    rwa [keeps.joined, ← split, joinLabels_labels]
  · intro literal
    have dots := length_labels domain.toList
    rw [keeps.labels_eq] at dots
    have most := keeps.most
    have none_or_three := literal.count
    omega

end Keeps

variable {host domain : String} {c : Char}

/-- A primary domain is an address, or the labels that are kept of a name. -/
theorem primaryDomain_cases (named : primaryDomain host = .ok domain) :
    IsLiteral (normalized host) ∧ domain = bare (normalized host) ∨
      ¬IsLiteral (normalized host) ∧ ∃ front back, Keeps (normalized host) domain front back := by
  obtain ⟨-, literal | ⟨plain, filled, joined⟩⟩ := primaryDomain_eq_ok_iff.mp named
  · exact Or.inl literal
  · obtain ⟨front, split, most, all_or_two⟩ := primaryLabels_spec (labels (normalized host).toList)
    have again := primaryLabels_primaryLabels (labels (normalized host).toList).reverse
    have whole : [] ∉ primaryLabels (labels (normalized host).toList).reverse := by
      rw [split] at filled
      exact fun empty => filled (List.mem_append_right _ empty)
    exact Or.inr ⟨plain, front, _, split, whole, most, all_or_two, again, joined⟩

/-- A primary domain holds no character that its name does not hold, apart from dots. -/
theorem mem_of_mem_primaryDomain (named : primaryDomain host = .ok domain)
    (member : c ∈ domain.toList) : c = '.' ∨ c ∈ (normalized host).toList := by
  rcases primaryDomain_cases named with ⟨-, rfl⟩ | ⟨-, front, back, keeps⟩
  · exact Or.inr (Text.mem_of_mem_trimStartWith (Text.mem_of_mem_trimEndWith member))
  · rw [keeps.joined, joinLabels, String.toList_ofList] at member
    rcases Text.mem_of_mem_intercalate member with dot | ⟨label, among, inside⟩
    · exact Or.inl (List.mem_singleton.mp dot)
    · exact Or.inr (Text.of_mem_splitWhere (keeps.mem_labels among) inside).1

/-! ## The projection -/

theorem ne_empty_of_labels {name : String} (filled : [] ∉ labels name.toList) : name ≠ "" := by
  rintro rfl
  exact filled (List.mem_singleton.mpr rfl)

/-- Names without blanks have primary domains that are normalized. -/
theorem normalized_primaryDomain (full : ∀ c ∈ host.toList, Text.isBlank c = false)
    (named : primaryDomain host = .ok domain)
    (last : ∀ c ∈ domain.toList.getLast?, (c == '.') = false) : normalized domain = domain := by
  have inside {c : Char} (member : c ∈ domain.toList) :
      Unicode.IsSmall c ∧ Text.isBlank c = false := by
    rcases mem_of_mem_primaryDomain named member with rfl | kept
    · exact ⟨Unicode.isSmall_dot, by decide⟩
    · obtain ⟨small, present | free⟩ := mem_normalized kept
      · exact ⟨small, full c present⟩
      · exact ⟨small, free.not_blank⟩
  exact normalized_eq_self (fun c member => (inside member).2) (fun c member => (inside member).1) last

/-- **A primary domain is its own.** -/
theorem primaryDomain_primaryDomain (full : ∀ c ∈ host.toList, Text.isBlank c = false)
    (named : primaryDomain host = .ok domain) : domain ≠ "" ∧ primaryDomain domain = .ok domain := by
  rcases primaryDomain_cases named with ⟨literal, same⟩ | ⟨plain, front, back, keeps⟩
  · obtain ⟨nonempty, literal, again, last⟩ := literal.stripped
    rw [← same] at nonempty literal again last
    have normal := normalized_primaryDomain full named last
    refine ⟨nonempty, primaryDomain_eq_ok_iff.mpr ?_⟩
    rw [normal]
    exact ⟨nonempty, Or.inl ⟨literal, again.symm⟩⟩
  · have filled : [] ∉ labels domain.toList := by
      rw [keeps.labels_eq]
      exact keeps.filled
    have nonempty := ne_empty_of_labels filled
    have normal := normalized_primaryDomain full named (last_ne_dot filled)
    refine ⟨nonempty, primaryDomain_eq_ok_iff.mpr ?_⟩
    rw [normal]
    refine ⟨nonempty, Or.inr ⟨keeps.not_isLiteral plain, filled, ?_⟩⟩
    rw [keeps.labels_eq, keeps.again]
    exact keeps.joined

/-! ## A label in front -/

/-- Lower case is taken of a label and of the name behind it, each by itself. -/
def LowersApart (label name : String) : Prop :=
  Text.lower (label ++ "." ++ name) = Text.lower label ++ "." ++ Text.lower name

theorem lowersApart_of_no_sigma {label name : String}
    (left : '\u03a3' ∉ label.toList) (right : '\u03a3' ∉ name.toList) : LowersApart label name := by
  have free : '\u03a3' ∉ (label ++ ".").toList := by simpa using left
  have both : '\u03a3' ∉ (label ++ ".").toList ++ name.toList := by simp [left, right]
  have dot : '\u03a3' ∉ label.toList ++ ".".toList := by simpa using left
  rw [LowersApart, Text.lower_append both, Text.lower_append dot]
  rfl

/-- The label in front makes a capital sigma the last letter of a word. -/
example : Text.lower "\u03a3" = "\u03c3" ∧ Text.lower "a.\u03a3" = "a.\u03c2" := by decide +kernel

/-- The name of a host with a label in front of it. -/
theorem normalized_label {label : String} (full : ∀ c ∈ host.toList, Text.isBlank c = false)
    (labelFull : ∀ c ∈ label.toList, Text.isBlank c = false) (nonempty : normalized host ≠ "")
    (apart : LowersApart label (Text.trimEndWith (· == '.') host)) :
    normalized (label ++ "." ++ host) = Text.lower label ++ "." ++ normalized host := by
  have all : ∀ c ∈ (label ++ "." ++ host).toList, Text.isBlank c = false := by
    intro c member
    simp only [String.toList_append, List.mem_append] at member
    rcases member with (inside | dot) | behind
    · exact labelFull c inside
    · rw [List.mem_singleton.mp dot]
      decide
    · exact full c behind
  rw [normalized_eq_lower full] at nonempty ⊢
  have filled : Text.trimEndWith (· == '.') host ≠ "" := fun empty =>
    nonempty (Text.lower_eq_empty_iff.mpr empty)
  rw [normalized_eq_lower all, Text.trimEndWith_append filled]
  exact apart

/-- **A label in front of a name does not change its primary domain.** -/
theorem primaryDomain_label {label : String} (full : ∀ c ∈ host.toList, Text.isBlank c = false)
    (named : primaryDomain host = .ok domain) (filled : label ≠ "")
    (labelFull : ∀ c ∈ label.toList, Text.isBlank c = false ∧ c ≠ '.')
    (two : 2 ≤ (labels (normalized host).toList).length)
    (long : ∀ second last, labels (normalized host).toList = [second, last] →
      ¬(String.ofList second ∈ secondLevel ∧ (String.ofList last).utf8ByteSize = 2))
    (plain : ¬IsLiteral (normalized host)) (plain' : ¬IsLiteral (normalized (label ++ "." ++ host)))
    (apart : LowersApart label (Text.trimEndWith (· == '.') host)) :
    primaryDomain (label ++ "." ++ host) = .ok domain := by
  obtain ⟨nonempty, ⟨literal, -⟩ | ⟨-, whole, same⟩⟩ := primaryDomain_eq_ok_iff.mp named
  · exact absurd literal plain
  have name := normalized_label full (fun c member => (labelFull c member).1) nonempty apart
  have undotted : '.' ∉ (Text.lower label).toList := by
    intro dot
    obtain ⟨-, present | free⟩ := Text.of_mem_lower dot
    · exact (labelFull '.' present).2 rfl
    · exact free.ne (by decide) rfl
  have split : labels (normalized (label ++ "." ++ host)).toList =
      (Text.lower label).toList :: labels (normalized host).toList := by
    rw [name, String.toList_append, String.toList_append, List.append_assoc]
    exact labels_cons undotted
  have small : Text.lower label ≠ "" := fun empty => filled (Text.lower_eq_empty_iff.mp empty)
  have enough : ∀ second last, labels (normalized host).toList = [second, last] →
      keptLabels last second = 2 := by
    intro second last pair
    have short := long second last pair
    unfold keptLabels
    rw [if_neg]
    simpa [and_comm] using short
  have whole' : [] ∉ labels (normalized (label ++ "." ++ host)).toList := by
    rw [split, List.mem_cons, not_or]
    exact ⟨fun empty => small (String.toList_inj.mp empty.symm), whole⟩
  refine primaryDomain_eq_ok_iff.mpr ⟨ne_empty_of_labels whole', Or.inr ⟨plain', whole', ?_⟩⟩
  rw [same, split, primaryLabels_cons _ two enough]

/-- **Primary domains are a stable projection.**  The primary domain of a host without blanks is no empty
text, it is its own primary domain, and it is an address without its brackets or the last one, two or
three labels of the host in small letters and without dots at its end.  A label in front does not change it
if lower case is taken of the label and of the host apart, neither name is an address, and the host has two
labels or more that are not two under which a country registers names. -/
theorem primaryDomain_is_stable :
    (∀ host domain : String, (∀ c ∈ host.toList, Text.isBlank c = false) →
      primaryDomain host = .ok domain →
      domain ≠ "" ∧ primaryDomain domain = .ok domain ∧
        (IsLiteral (normalized host) ∧ domain = bare (normalized host) ∨
          ∃ front back, labels (normalized host).toList = front ++ back ∧ 1 ≤ back.length ∧
            back.length ≤ 3 ∧ domain = joinLabels back)) ∧
    (∀ host domain label : String, (∀ c ∈ host.toList, Text.isBlank c = false) →
      primaryDomain host = .ok domain → label ≠ "" →
      (∀ c ∈ label.toList, Text.isBlank c = false ∧ c ≠ '.') →
      2 ≤ (labels (normalized host).toList).length →
      (∀ second last, labels (normalized host).toList = [second, last] →
        ¬(String.ofList second ∈ secondLevel ∧ (String.ofList last).utf8ByteSize = 2)) →
      ¬IsLiteral (normalized host) → ¬IsLiteral (normalized (label ++ "." ++ host)) →
      LowersApart label (Text.trimEndWith (· == '.') host) →
      primaryDomain (label ++ "." ++ host) = .ok domain) := by
  refine ⟨fun host domain full named => ?_, fun host domain label full named filled labelFull two long
    plain plain' apart => primaryDomain_label full named filled labelFull two long plain plain' apart⟩
  obtain ⟨nonempty, again⟩ := primaryDomain_primaryDomain full named
  refine ⟨nonempty, again, ?_⟩
  rcases primaryDomain_cases named with literal | ⟨-, front, back, keeps⟩
  · exact Or.inl literal
  · exact Or.inr ⟨front, back, keeps.split, List.length_pos_of_ne_nil keeps.ne_nil, keeps.most,
      keeps.joined⟩

/-- A name under which a country registers others, and a label in front of a name of two labels. -/
theorem primaryDomain_is_stable_bing :
    primaryDomain "News.BBC.co.uk." = .ok "bbc.co.uk" ∧ primaryDomain "bbc.co.uk" = .ok "bbc.co.uk" ∧
      primaryDomain "Bing.COM." = .ok "bing.com" ∧
      primaryDomain ("Cn" ++ "." ++ "Bing.COM.") = .ok "bing.com" := by
  have news : primaryDomain "News.BBC.co.uk." = .ok "bbc.co.uk" := by decide
  have bing : primaryDomain "Bing.COM." = .ok "bing.com" := by decide
  have two : labels (normalized "Bing.COM.").toList = ["bing".toList, "com".toList] := by decide
  have apart : LowersApart "Cn" (Text.trimEndWith (· == '.') "Bing.COM.") :=
    lowersApart_of_no_sigma (by decide) (by decide)
  have long : ∀ second last, labels (normalized "Bing.COM.").toList = [second, last] →
      ¬(String.ofList second ∈ secondLevel ∧ (String.ofList last).utf8ByteSize = 2) := by
    intro second last pair
    rw [two] at pair
    cases pair
    decide
  exact ⟨news, (primaryDomain_is_stable.1 _ _ (by simp [Text.isBlank]) news).2.1, bing,
    primaryDomain_is_stable.2 _ _ "Cn" (by simp [Text.isBlank]) bing (by decide)
      (by simp [Text.isBlank]) (by decide) long (by decide) (by decide) apart⟩

end CrawlMesh
