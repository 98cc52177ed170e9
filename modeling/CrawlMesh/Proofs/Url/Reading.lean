/-
# What is known of an address that was read

The reader takes the characters of a text and repairs what it can.  Whatever it makes of them, the
scheme holds no colon, the user and the password are escaped, the host is one that a reader of
hosts returned, and an address with an authority has a path of segments
(`IsRead.wellFormed`).  This follows the reader from its tail to its top: an address that is read
relative to another one takes over parts of it, which is why the page has to have been read, too.
-/
import CrawlMesh.Proofs.Url.Text
import Mathlib.Data.List.TakeWhile

namespace CrawlMesh

set_option autoImplicit false

namespace Url

/-- An address that was read, by itself or relative to another one. -/
inductive IsRead : Url → Prop
  | parse {s : String} {u : Url} (read : parse s = .ok u) : IsRead u
  | join {base u : Url} {s : String} (page : IsRead base) (read : join base s = .ok u) : IsRead u

/-- A path of segments. -/
def Path.IsWalked (path : Path) : Prop := ∃ items, path = .segments items

theorem isWalked_readPath (scheme : String) (done : List String) (cs : List Char) :
    (readPath scheme done cs).1.IsWalked := ⟨_, rfl⟩

theorem isWalked_readPathStart (scheme : String) (cs : List Char) :
    (readPathStart scheme cs).1.IsWalked := by
  unfold readPathStart
  split
  · split
    · exact isWalked_readPath scheme [] []
    · exact ⟨_, rfl⟩
  · split
    · exact isWalked_readPath scheme [] _
    · split
      · exact ⟨_, rfl⟩
      · exact isWalked_readPath scheme [] _

/-- Query and fragment do not matter. -/
theorem WellFormed.of_parts {u v : Url} (wellFormed : u.WellFormed) (scheme : v.scheme = u.scheme)
    (authority : v.authority = u.authority) (path : v.path = u.path ∨ v.path.IsWalked) :
    v.WellFormed := by
  refine ⟨?_, ?_, ?_⟩
  · rw [scheme]
    exact wellFormed.scheme
  · intro a present
    rw [authority] at present
    obtain ⟨readable, walked⟩ := wellFormed.authority a present
    rcases path with same | walks
    · rw [same]
      exact ⟨readable, walked⟩
    · exact ⟨readable, walks⟩
  · rw [scheme, authority]
    exact wellFormed.special

theorem wellFormed_withTail {u : Url} (wellFormed : u.WellFormed) (cs : List Char) :
    (withTail u cs).WellFormed := wellFormed.of_parts rfl rfl (Or.inl rfl)

/-- An address with an authority and a path of segments. -/
theorem wellFormed_of_authority {scheme : String} {a : Authority} {path : Path}
    (colon : ':' ∉ scheme.toList) (authority : a.WellFormed) (walked : path.IsWalked) :
    (⟨scheme, some a, path, none, none⟩ : Url).WellFormed := by
  refine ⟨colon, ?_, ?_⟩
  · intro b present
    cases present
    exact ⟨authority, walked⟩
  · intro _ missing
    cases missing

/-- An address of a scheme that does not need an authority. -/
theorem wellFormed_bare {scheme : String} {path : Path} (colon : ':' ∉ scheme.toList)
    (plain : isSpecial scheme = false) : (⟨scheme, none, path, none, none⟩ : Url).WellFormed := by
  refine ⟨colon, ?_, ?_⟩
  · intro b present
    cases present
  · intro special
    rw [plain] at special
    cases special

theorem wellFormed_local {host : Host} (readable : host.Readable) :
    ({ noHost with host := host } : Authority).WellFormed := by
  refine ⟨?_, ?_, readable⟩
  · intro c member
    cases member
  · intro p present
    cases present

/-- What a successful call and its continuation returned. -/
theorem ok_of_bind {ε α β : Type} {x : Except ε α} {f : α → Except ε β} {b : β}
    (done : x >>= f = .ok b) : ∃ a, x = .ok a ∧ f a = .ok b := by
  cases x with
  | error e => cases done
  | ok a => exact ⟨a, rfl, done⟩

/-- The user that is read in front of a host. -/
theorem plain_readUserInfo {special : Bool} {cs rest : List Char} {user : String}
    {password : Option String} (read : readUserInfo special cs = .ok ((user, password), rest)) :
    Plain user.toList ∧ ∀ p, password = some p → Plain p.toList := by
  have nobody : Plain "".toList ∧ ∀ p, (none : Option String) = some p → Plain p.toList := by
    refine ⟨?_, ?_⟩
    · intro c member
      cases member
    · intro p present
      cases present
  unfold readUserInfo at read
  simp only at read
  split at read
  · cases read
    exact nobody
  · split at read
    · split at read
      · cases read
      · cases read
        exact nobody
    · cases read
      refine ⟨plain_user _, ?_⟩
      intro p present
      split at present
      · cases present
      · cases present
        exact plain_user _

/-- The port behind a host changes nothing about the user and the host. -/
theorem wellFormed_behindHost {scheme : String} {user : String} {password : Option String}
    {host : Host} {cs rest : List Char} {a : Authority}
    (parts : ∀ port, (⟨user, password, host, port⟩ : Authority).WellFormed)
    (read : (do
      if host = .empty && cs.head? == some ':' then throw .emptyHost
      let (port, rest) ← readPort scheme cs
      let authority : Authority := ⟨user, password, host, port⟩
      if host = .empty && !authority.userText.isEmpty then throw .emptyHost
      return (authority, rest) : Except Fault (Authority × List Char)) = .ok (a, rest)) :
    a.WellFormed := by
  split at read
  · cases read
  · obtain ⟨⟨port, behind⟩, -, read⟩ := ok_of_bind read
    simp only at read
    split at read
    · cases read
    · cases read
      exact parts port

theorem wellFormed_readAuthority {scheme : String} {cs rest : List Char} {a : Authority}
    (read : readAuthority scheme cs = .ok (a, rest)) : a.WellFormed := by
  obtain ⟨⟨⟨user, password⟩, behind⟩, info, read⟩ := ok_of_bind read
  obtain ⟨named, hidden⟩ := plain_readUserInfo info
  simp only at read
  split at read
  · cases read
  · split at read
    · obtain ⟨host, hostRead, read⟩ := ok_of_bind read
      exact wellFormed_behindHost (fun _ => ⟨named, hidden, Host.readable_read hostRead⟩) read
    · obtain ⟨host, hostRead, read⟩ := ok_of_bind read
      exact wellFormed_behindHost (fun _ => ⟨named, hidden, Host.readable_readOpaque hostRead⟩) read

theorem wellFormed_readAfterSlashes {scheme : String} (colon : ':' ∉ scheme.toList)
    {cs : List Char} {u : Url} (read : readAfterSlashes scheme cs = .ok u) : u.WellFormed := by
  obtain ⟨⟨authority, rest⟩, authorityRead, read⟩ := ok_of_bind read
  cases read
  refine wellFormed_withTail ?_ _
  exact wellFormed_of_authority colon (wellFormed_readAuthority authorityRead)
    (isWalked_readPathStart scheme rest)

theorem colon_not_mem_file : ':' ∉ "file".toList := by decide

theorem wellFormed_readFileHost {cs : List Char} {u : Url} (read : readFileHost cs = .ok u) :
    u.WellFormed := by
  have placed {host : Host} (readable : host.Readable) (cs rest : List Char) :
      (withTail ⟨"file", some { noHost with host := if startsWithDrive cs then .empty else host },
        (readPath "file" [] cs).1, none, none⟩ rest).WellFormed := by
    refine wellFormed_withTail ?_ rest
    refine wellFormed_of_authority colon_not_mem_file (wellFormed_local ?_) (isWalked_readPath _ _ _)
    split
    · trivial
    · exact readable
  unfold readFileHost at read
  simp only at read
  split at read
  · cases read
    exact placed Host.readable_empty cs _
  · split at read
    · cases read
      exact placed Host.readable_empty cs _
    · obtain ⟨name, nameRead, read⟩ := ok_of_bind read
      cases read
      refine placed ?_ _ _
      split
      · trivial
      · exact Host.readable_read nameRead

theorem readable_of_authority {u : Url} (wellFormed : u.WellFormed) :
    ((u.authority.map (·.host)).getD Host.empty).Readable := by
  cases present : u.authority with
  | none => trivial
  | some a => exact (wellFormed.authority a present).1.host

theorem wellFormed_readFileSlash {base : Option Url} (page : ∀ b ∈ base, b.WellFormed)
    (cs : List Char) : (readFileSlash base cs).WellFormed := by
  unfold readFileSlash
  refine wellFormed_withTail ?_ _
  refine wellFormed_of_authority colon_not_mem_file (wellFormed_local ?_) (isWalked_readPath _ _ _)
  cases base with
  | none => trivial
  | some b =>
      have host := readable_of_authority (page b rfl)
      simp only
      split
      · trivial
      · split
        · split
          · trivial
          · exact host
        · exact host

theorem wellFormed_readFile {base : Option Url} (page : ∀ b ∈ base, b.WellFormed)
    {cs : List Char} {u : Url} (read : readFile base cs = .ok u) : u.WellFormed := by
  have onDrive (done : List String) (cs rest : List Char) :
      (withTail ⟨"file", some noHost, (readPath "file" done cs).1, none, none⟩ rest).WellFormed := by
    refine wellFormed_withTail ?_ _
    exact wellFormed_of_authority colon_not_mem_file (wellFormed_local Host.readable_empty)
      (isWalked_readPath _ _ _)
  unfold readFile at read
  split at read
  · rename_i c rest
    split at read
    · split at read
      · split at read
        · exact wellFormed_readFileHost read
        · cases read
          exact wellFormed_readFileSlash page _
      · cases read
        exact wellFormed_readFileSlash page _
    · split at read
      · cases read
        exact onDrive _ _ _
      · rename_i b
        have kept := page b rfl
        split at read
        · cases read
          exact wellFormed_withTail kept _
        · split at read
          · cases read
            exact kept.of_parts rfl rfl (Or.inl rfl)
          · split at read
            · cases read
              exact onDrive _ _ _
            · cases read
              refine wellFormed_withTail ?_ _
              exact kept.of_parts rfl rfl (Or.inr (isWalked_readPath _ _ _))
  · split at read
    · rename_i b
      cases read
      exact (page b rfl).of_parts rfl rfl (Or.inl rfl)
    · cases read
      exact wellFormed_of_authority colon_not_mem_file (wellFormed_local Host.readable_empty)
        ⟨_, rfl⟩

theorem wellFormed_readRelative {base : Url} (page : base.WellFormed) {cs : List Char} {u : Url}
    (read : readRelative base cs = .ok u) : u.WellFormed := by
  have walks (done : List String) (cs rest : List Char) :
      (withTail { base with path := (readPath base.scheme done cs).1 } rest).WellFormed := by
    refine wellFormed_withTail ?_ _
    exact page.of_parts rfl rfl (Or.inr (isWalked_readPath _ _ _))
  unfold readRelative at read
  split at read
  · cases read
    exact page.of_parts rfl rfl (Or.inl rfl)
  · cases read
    exact wellFormed_withTail page _
  · cases read
    exact page.of_parts rfl rfl (Or.inl rfl)
  · split at read
    · split at read
      · split at read
        · exact wellFormed_readAfterSlashes page.scheme read
        · exact wellFormed_readAfterSlashes page.scheme read
      · cases read
        exact walks _ _ _
    · cases read
      exact walks _ _ _

theorem wellFormed_readGeneric {scheme : String} (colon : ':' ∉ scheme.toList)
    (plain : isSpecial scheme = false) {cs : List Char} {u : Url}
    (read : readGeneric scheme cs = .ok u) : u.WellFormed := by
  unfold readGeneric at read
  split at read
  · exact wellFormed_readAfterSlashes colon read
  · cases read
    exact wellFormed_withTail (wellFormed_bare colon plain) _
  · cases read
    exact wellFormed_withTail (wellFormed_bare colon plain) _

theorem wellFormed_readWithScheme {base : Option Url} (page : ∀ b ∈ base, b.WellFormed)
    {scheme : String} (colon : ':' ∉ scheme.toList) {cs : List Char} {u : Url}
    (read : readWithScheme base scheme cs = .ok u) : u.WellFormed := by
  unfold readWithScheme at read
  split at read
  · refine wellFormed_readFile ?_ read
    intro b member
    exact page b (Option.mem_filter_iff.mp member).1
  · split at read
    · split at read
      · rename_i b
        split at read
        · exact wellFormed_readRelative (page b rfl) read
        · exact wellFormed_readAfterSlashes colon read
      · exact wellFormed_readAfterSlashes colon read
    · rename_i plain
      exact wellFormed_readGeneric colon (by simpa using plain) read

/-- A scheme that is read holds no colon. -/
theorem colon_not_mem_scheme {cs rest : List Char} {scheme : String}
    (read : readScheme? cs = some (scheme, rest)) : ':' ∉ scheme.toList := by
  unfold readScheme? at read
  simp only at read
  split at read
  · cases read
  · split at read
    · cases read
    · split at read
      · cases read
        rw [String.toList_ofList]
        intro member
        obtain ⟨c, among, colon⟩ := List.mem_map.mp member
        have allowed := List.mem_takeWhile_imp among
        rcases Text.toLower_cases c with same | ⟨n, bound, rfl⟩
        · rw [same] at colon
          subst colon
          exact absurd allowed (by decide)
        · clear among allowed
          revert n
          decide
      · cases read

theorem wellFormed_read {base : Option Url} (page : ∀ b ∈ base, b.WellFormed) {s : String}
    {u : Url} (done : read base s = .ok u) : u.WellFormed := by
  unfold read at done
  simp only at done
  split at done
  · rename_i scheme rest schemeRead
    exact wellFormed_readWithScheme page (colon_not_mem_scheme schemeRead) done
  · split at done
    · cases done
    · rename_i b
      have kept := page b rfl
      split at done
      · cases done
        exact kept.of_parts rfl rfl (Or.inl rfl)
      · split at done
        · cases done
        · split at done
          · exact wellFormed_readFile page done
          · exact wellFormed_readRelative kept done

/-- What has been read can be told apart by its text. -/
theorem IsRead.wellFormed {u : Url} (isRead : u.IsRead) : u.WellFormed := by
  induction isRead with
  | parse done => exact wellFormed_read (by simp) done
  | join page done ih => exact wellFormed_read (by simpa using ih) done

end Url

end CrawlMesh
