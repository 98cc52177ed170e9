/-
# What the text of an address tells

An address is compared and recorded by its text.  The text tells the host (`hostOf_text`): no part
of an address holds the character that ends it, so that the authority ends at the first slash,
question mark or number sign, the user at the last at sign before that, and the host at the colon
in front of the port or at its bracket.  The primary domain of such a host holds no bar
(`bar_not_mem_primaryDomain`).
-/
import CrawlMesh.Proofs.Domains
import CrawlMesh.Proofs.Text.Splitting
import CrawlMesh.Proofs.Url.Host
import CrawlMesh.Url.Parser

namespace CrawlMesh

set_option autoImplicit false

namespace Url

/-! ## Addresses whose text can be told apart -/

/-- An authority whose parts do not hold what separates them. -/
structure Authority.WellFormed (a : Authority) : Prop where
  user : Plain a.user.toList
  password : ∀ p, a.password = some p → Plain p.toList
  host : a.host.Readable

/-- What is known of an address that has been read. -/
structure WellFormed (u : Url) : Prop where
  scheme : ':' ∉ u.scheme.toList
  authority : ∀ a, u.authority = some a → a.WellFormed ∧ ∃ items, u.path = .segments items
  special : isSpecial u.scheme = true → u.authority ≠ none

/-- A plain character is none of those that separate. -/
theorem ne_of_isPlain {c d : Char} (plain : isPlain c = true) (separates : d ∈ separators) :
    c ≠ d := by
  rintro rfl
  exact (isPlain_iff.mp plain).2 separates

/-! ## The parts of a text -/

/-- The text of the host in the text of an address with an authority. -/
def hostOf (text : List Char) : List Char :=
  let authority := ((text.dropWhile (· != ':')).drop 3).takeWhile fun c => c != '/' && !endsPath c
  let place := (authority.reverse.takeWhile (· != '@')).reverse
  if place.head? == some '[' then place.takeWhile (· != ']') ++ [']']
  else place.takeWhile (· != ':')

theorem plain_portText (a : Authority) :
    a.portText.toList = [] ∨ ∃ digits, a.portText.toList = ':' :: digits ∧ Plain digits := by
  unfold Authority.portText
  split
  · rename_i port _
    refine Or.inr ⟨port.toNat.repr.toList, ?_, ?_⟩
    · rw [String.toList_append]
      rfl
    · rw [Nat.toList_repr]
      exact plain_toDigits (by omega) (by omega) _
  · exact Or.inl rfl

/-- The user stands in front of an at sign, and holds none. -/
theorem userText_cases {a : Authority} (wellFormed : a.WellFormed) :
    a.userText.toList = [] ∨ ∃ user, a.userText.toList = user ++ ['@'] ∧
      ∀ c ∈ user, c = ':' ∨ isPlain c = true := by
  unfold Authority.userText
  split
  · rename_i password present
    refine Or.inr ⟨a.user.toList ++ ':' :: password.toList, by simp, ?_⟩
    intro c member
    rcases List.mem_append.mp member with user | rest
    · exact Or.inr (wellFormed.user c user)
    · rcases List.mem_cons.mp rest with colon | behind
      · exact Or.inl colon
      · exact Or.inr (wellFormed.password password present c behind)
  · split
    · exact Or.inl rfl
    · refine Or.inr ⟨a.user.toList, by simp, ?_⟩
      intro c member
      exact Or.inr (wellFormed.user c member)

theorem userText_goesOn {a : Authority} (wellFormed : a.WellFormed) {c : Char}
    (member : c ∈ a.userText.toList) : (c != '/' && !endsPath c) = true := by
  rcases userText_cases wellFormed with none | ⟨user, same, inside⟩
  · rw [none] at member
    cases member
  · rw [same] at member
    rcases List.mem_append.mp member with among | last
    · rcases inside c among with rfl | plain
      · decide
      · have apart := (isPlain_iff.mp plain).2
        simp [separators, endsPath] at apart ⊢
        tauto
    · rw [List.mem_singleton.mp last]
      decide

/-- The characters of a host and its port. -/
def Authority.place (a : Authority) : List Char := a.host.text.toList ++ a.portText.toList

/-- What stands behind the user holds no at sign, and nothing that ends an authority. -/
theorem mem_place {a : Authority} (wellFormed : a.WellFormed) {c : Char} (member : c ∈ a.place) :
    c ∉ ['@', '/', '?', '#'] := by
  have plain {c : Char} (among : c = ':' ∨ isPlain c = true) : c ∉ ['@', '/', '?', '#'] := by
    rcases among with rfl | plain
    · decide
    · have apart := (isPlain_iff.mp plain).2
      simp [separators] at apart ⊢
      tauto
  rcases List.mem_append.mp member with host | port
  · rcases Host.text_cases wellFormed.host with all | ⟨cs, same, inside⟩
    · exact plain (Or.inr (all c host))
    · rw [same] at host
      simp only [List.cons_append, List.mem_cons, List.mem_append, List.not_mem_nil,
        or_false] at host
      rcases host with rfl | among | rfl
      · decide
      · exact plain (inside c among)
      · decide
  · rcases plain_portText a with none | ⟨digits, same, all⟩
    · rw [none] at port
      cases port
    · rw [same] at port
      rcases List.mem_cons.mp port with rfl | digit
      · decide
      · exact plain (Or.inr (all c digit))

/-- The host in front of a port. -/
theorem host_of_place {a : Authority} (wellFormed : a.WellFormed) :
    (if a.place.head? == some '[' then a.place.takeWhile (· != ']') ++ [']']
      else a.place.takeWhile (· != ':')) = a.host.text.toList := by
  have colon : ∀ x ∈ a.portText.toList.head?, (x != ':') = false := by
    rcases plain_portText a with none | ⟨digits, same, -⟩
    · simp [none]
    · simp [same]
  rcases Host.text_cases wellFormed.host with plain | ⟨cs, same, inside⟩
  · have unbracketed : (a.place.head? == some '[') = false := by
      cases text : a.host.text.toList with
      | nil =>
          rcases plain_portText a with none | ⟨digits, port, -⟩
          · simp [Authority.place, text, none]
          · simp [Authority.place, text, port]
      | cons c rest =>
          have first : c ≠ '[' := ne_of_isPlain (plain c (by simp [text])) (by decide)
          simp [Authority.place, text, first]
    rw [unbracketed]
    simp only [Bool.false_eq_true, if_false]
    refine Text.takeWhile_append_stop ?_ colon
    intro c member
    simpa using ne_of_isPlain (plain c member) (by decide)
  · have bracketed : (a.place.head? == some '[') = true := by simp [Authority.place, same]
    rw [bracketed]
    have ends : a.place = ('[' :: cs) ++ (']' :: a.portText.toList) := by simp [Authority.place, same]
    rw [if_pos rfl, ends, same]
    congr 1
    refine Text.takeWhile_append_stop ?_ (by simp)
    intro c member
    rcases List.mem_cons.mp member with rfl | among
    · decide
    · rcases inside c among with rfl | plain
      · decide
      · simpa using ne_of_isPlain plain (by decide)

/-- What stands behind the authority is empty or begins with a mark of its own. -/
theorem head_behind {u : Url} {a : Authority} {items : List String} (present : u.authority = some a)
    (path : u.path = .segments items) : ∃ tail : List Char,
      u.text.toList = u.scheme.toList ++ ':' :: '/' :: '/' :: (a.userText.toList ++ a.place ++ tail) ∧
      ∀ c ∈ tail.head?, c = '/' ∨ c = '?' ∨ c = '#' := by
  have pathText : u.pathText = String.join (items.map ("/" ++ ·)) := by
    simp [Url.pathText, present, path, Path.text]
  refine ⟨u.pathText.toList ++ (u.query.map fun q => '?' :: q.toList).getD [] ++
    (u.fragment.map fun f => '#' :: f.toList).getD [], ?_, ?_⟩
  · simp only [text, authorityText, present, Authority.text, Authority.place]
    cases u.query <;> cases u.fragment <;> simp
  · rw [pathText]
    cases items with
    | nil => cases u.query <;> cases u.fragment <;> simp
    | cons item rest => simp [String.join_cons]

/-- The text of an address with an authority tells its host. -/
theorem hostOf_text {u : Url} (wellFormed : u.WellFormed) {a : Authority}
    (present : u.authority = some a) : hostOf u.text.toList = a.host.text.toList := by
  obtain ⟨authority, items, path⟩ := wellFormed.authority a present
  obtain ⟨tail, text, marked⟩ := head_behind present path
  have scheme : ∀ c ∈ u.scheme.toList, (c != ':') = true := by
    intro c member
    rw [bne_iff_ne]
    rintro rfl
    exact wellFormed.scheme member
  have behind : (u.text.toList.dropWhile (· != ':')).drop 3 =
      a.userText.toList ++ a.place ++ tail := by
    rw [text, Text.dropWhile_append_stop scheme (by simp)]
    rfl
  have inside : ∀ c ∈ a.userText.toList ++ a.place, (c != '/' && !endsPath c) = true := by
    intro c member
    rcases List.mem_append.mp member with user | place
    · exact userText_goesOn authority user
    · have apart := mem_place authority place
      simp [endsPath] at apart ⊢
      tauto
  have body : (a.userText.toList ++ a.place ++ tail).takeWhile (fun c => c != '/' && !endsPath c) =
      a.userText.toList ++ a.place := by
    refine Text.takeWhile_append_stop inside ?_
    intro c first
    rcases marked c first with rfl | rfl | rfl <;> decide
  have placed : ((a.userText.toList ++ a.place).reverse.takeWhile (· != '@')).reverse = a.place := by
    rw [List.reverse_append, Text.takeWhile_append_stop, List.reverse_reverse]
    · intro c member
      have apart := mem_place authority (List.mem_reverse.mp member)
      simp at apart ⊢
      exact apart.1
    · rcases userText_cases authority with none | ⟨user, same, -⟩
      · simp [none]
      · simp [same]
  simp only [hostOf, behind, body, placed]
  exact host_of_place authority

/-- The text of an address tells its scheme. -/
theorem scheme_of_text {u : Url} (wellFormed : u.WellFormed) :
    u.text.toList.takeWhile (· != ':') = u.scheme.toList := by
  have text : ∃ rest, u.text.toList = u.scheme.toList ++ ':' :: rest := by
    simp only [text, String.toList_append, List.append_assoc]
    exact ⟨_, rfl⟩
  obtain ⟨rest, same⟩ := text
  rw [same]
  refine Text.takeWhile_append_stop ?_ (by simp)
  intro c member
  rw [bne_iff_ne]
  rintro rfl
  exact wellFormed.scheme member

/-- The host that is asked for has been read. -/
theorem WellFormed.readable_of_hostText? {u : Url} (wellFormed : u.WellFormed) {host : String}
    (named : u.hostText? = some host) :
    ∃ place : Host, place.Readable ∧ place ≠ .empty ∧ host = place.text := by
  unfold hostText? at named
  split at named
  · cases named
  · rename_i a present
    split at named
    · cases named
    · rename_i filled
      cases named
      exact ⟨a.host, (wellFormed.authority a present).1.host, filled, rfl⟩

/-- Addresses of one text, one of which is of the web and has a host, have the same host. -/
theorem hostText?_of_text {u v : Url} (read : u.WellFormed) (read' : v.WellFormed)
    (special : isSpecial u.scheme = true) {host : String} (named : u.hostText? = some host)
    (same : u.text = v.text) : v.hostText? = some host := by
  have scheme : v.scheme = u.scheme := by
    apply String.toList_inj.mp
    rw [← scheme_of_text read, ← scheme_of_text read', same]
  obtain ⟨b, present'⟩ := Option.ne_none_iff_exists'.mp (read'.special (scheme ▸ special))
  unfold hostText? at named
  split at named
  · cases named
  · rename_i a present
    split at named
    · cases named
    · rename_i filled
      cases named
      have hosts : b.host.text = a.host.text := by
        apply String.toList_inj.mp
        rw [← hostOf_text read present, ← hostOf_text read' present', same]
      have filled' : b.host ≠ .empty := by
        intro empty
        rw [empty] at hosts
        exact filled (Host.eq_empty_of_text (read.authority a present).1.host hosts.symm)
      simp only [hostText?, present', if_neg filled', hosts]

end Url

/-! ## Primary domains hold no bar -/

/-- The text of a host is plain apart from colons and brackets. -/
theorem Url.Host.mem_text_cases {host : Url.Host} (readable : host.Readable) {c : Char}
    (member : c ∈ host.text.toList) : c ∈ ['[', ':', ']'] ∨ isPlain c = true := by
  rcases Host.text_cases readable with all | ⟨cs, same, inside⟩
  · exact Or.inr (all c member)
  · rw [same] at member
    simp only [List.cons_append, List.mem_cons, List.mem_append, List.not_mem_nil,
      or_false] at member
    rcases member with rfl | among | rfl
    · exact Or.inl (by decide)
    · rcases inside c among with rfl | plain
      · exact Or.inl (by decide)
      · exact Or.inr plain
    · exact Or.inl (by decide)

/-- What separates the parts of an address is not in the text of a host. -/
theorem Url.Host.not_mem_text {host : Url.Host} (readable : host.Readable) {d : Char}
    (unplain : isPlain d = false) (noMark : d ∉ ['[', ':', ']']) : d ∉ host.text.toList := by
  intro member
  rcases mem_text_cases readable member with mark | plain
  · exact noMark mark
  · rw [unplain] at plain
    cases plain

theorem bar_not_mem_normalized {host : Url.Host} (readable : host.Readable) :
    '|' ∉ (Domain.normalized host.text).toList := by
  intro member
  rcases (Domain.mem_normalized member).2 with kept | free
  · exact Url.Host.not_mem_text readable (by decide) (by decide) kept
  · exact free.ne (by decide) rfl

/-- The primary domain of a host that was read holds no bar. -/
theorem bar_not_mem_primaryDomain {host : Url.Host} (readable : host.Readable) {domain : String}
    (named : primaryDomain host.text = .ok domain) : '|' ∉ domain.toList := by
  intro member
  rcases mem_of_mem_primaryDomain named member with dot | inside
  · exact absurd dot (by decide)
  · exact bar_not_mem_normalized readable inside

end CrawlMesh
