/-
# The characters of a host

The characters that separate the parts of an address do not occur inside them.  Names of hosts,
users and passwords are made of plain characters only (`isPlain`), because a reader either refuses
the others or writes them as escapes or in punycode.  The one host that is not plain is an address
of version six, which holds colons and stands in brackets (`Host.Readable`).
-/
import CrawlMesh.Proofs.Number.Digits
import CrawlMesh.Proofs.Text.Splitting
import CrawlMesh.Url.Host

namespace CrawlMesh

set_option autoImplicit false

/-! ## Members of lists -/

/-- What a function makes of all members of a list comes from one of them each. -/
theorem mem_of_mapM_eq_some {α β : Type} {f : α → Option β} {l : List α} {images : List β}
    (all : l.mapM f = some images) {y : β} (member : y ∈ images) : ∃ x ∈ l, f x = some y := by
  induction l generalizing images with
  | nil =>
      cases all
      cases member
  | cons x rest ih =>
      rw [List.mapM_cons] at all
      obtain ⟨first, same, all⟩ := Option.bind_eq_some_iff.mp all
      obtain ⟨others, later, all⟩ := Option.bind_eq_some_iff.mp all
      cases all
      rcases List.mem_cons.mp member with rfl | behind
      · exact ⟨x, List.mem_cons_self, same⟩
      · obtain ⟨z, among, image⟩ := ih later behind
        exact ⟨z, List.mem_cons_of_mem x among, image⟩

namespace Url

/-! ## Plain characters -/

/-- The characters that separate the parts of an address, and the bar. -/
def separators : List Char := ['#', '/', ':', '?', '@', '[', '\\', ']', '|']

/-- A seven-bit character that separates nothing. -/
def isPlain (c : Char) : Bool := c.toNat < 0x80 && !separators.contains c

theorem isPlain_iff {c : Char} : isPlain c = true ↔ c.toNat < 0x80 ∧ c ∉ separators := by
  simp [isPlain]

/-- A list of plain characters. -/
def Plain (cs : List Char) : Prop := ∀ c ∈ cs, isPlain c = true

instance (cs : List Char) : Decidable (Plain cs) :=
  decidable_of_iff (cs.all isPlain = true) List.all_eq_true

@[simp] theorem plain_append {a b : List Char} : Plain (a ++ b) ↔ Plain a ∧ Plain b :=
  List.forall_mem_append

theorem isPlain_digitChar : ∀ d < 16, isPlain (Nat.digitChar d) = true := by decide

theorem plain_toDigits {base : Nat} (two_le : 1 < base) (small : base ≤ 16) (n : Nat) :
    Plain (base.toDigits n) := by
  intro c member
  obtain ⟨d, lt, rfl⟩ := mem_toDigits two_le member
  exact isPlain_digitChar d (by omega)

theorem plain_escapeByte (b : UInt8) : Plain (escapeByte b) := by
  have upper : ∀ d < 16, isPlain (Nat.digitChar d).toUpper = true := by decide
  have lt : b.toNat < 256 := b.toNat_lt
  intro c member
  simp only [escapeByte, List.mem_cons, List.not_mem_nil, or_false] at member
  rcases member with rfl | rfl | rfl
  · decide
  · exact upper _ (by omega)
  · exact upper _ (Nat.mod_lt _ (by omega))

/-- Escaping leaves plain characters, if it leaves no others as they are. -/
theorem plain_escape {escaped : Char → Bool} {cs : List Char}
    (kept : ∀ c ∈ cs, escaped c = false → isPlain c = true) :
    Plain (escape escaped cs).toList := by
  intro c member
  rw [escape, String.toList_ofList] at member
  obtain ⟨d, among, image⟩ := List.mem_flatMap.mp member
  cases marked : escaped d with
  | true =>
      simp only [marked, if_true] at image
      obtain ⟨b, -, inside⟩ := List.mem_flatMap.mp image
      exact plain_escapeByte b c inside
  | false =>
      simp only [marked, Bool.false_eq_true, if_false, List.mem_singleton] at image
      subst image
      exact kept c among marked

theorem plain_user (cs : List Char) : Plain (escape escapedUser cs).toList := by
  refine plain_escape ?_
  intro c _ kept
  simp [escapedUser, escapedPath, escapedFragment, escapedControl] at kept
  rw [isPlain_iff]
  refine ⟨by omega, ?_⟩
  simp [separators]
  tauto

/-! ## Hosts -/

theorem plain_ipv4 (i : Net.Ipv4) : Plain i.text.toList := by
  have decimal (n : Nat) : Plain (toString n).toList := by
    change Plain n.repr.toList
    rw [Nat.toList_repr]
    exact plain_toDigits (by omega) (by omega) n
  have dot : Plain ".".toList := by decide
  simp only [Net.Ipv4.text, String.toList_append, plain_append]
  exact ⟨⟨⟨⟨⟨⟨decimal _, dot⟩, decimal _⟩, dot⟩, decimal _⟩, dot⟩, decimal _⟩

/-- The text of an address of version six is plain apart from its colons. -/
theorem mem_compressed {i : Net.Ipv6} {c : Char} (member : c ∈ i.compressed.toList) :
    c = ':' ∨ isPlain c = true := by
  have joined {groups : List UInt16} (member : c ∈ (Net.Ipv6.joinGroups groups).toList) :
      c = ':' ∨ isPlain c = true := by
    rw [Net.Ipv6.joinGroups, String.toList_intercalate] at member
    rcases Text.mem_of_mem_intercalate member with colon | ⟨part, among, inside⟩
    · exact Or.inl (List.mem_singleton.mp colon)
    · rw [List.map_map] at among
      obtain ⟨g, -, rfl⟩ := List.mem_map.mp among
      simp only [Function.comp_apply, Net.Ipv6.groupText, String.toList_ofList] at inside
      exact Or.inr (plain_toDigits (by omega) (by omega) g.toNat c inside)
  unfold Net.Ipv6.compressed at member
  simp only at member
  split at member
  · simp only [String.toList_append, List.mem_append] at member
    rcases member with (front | colons) | back
    · exact joined front
    · left
      simpa using colons
    · exact joined back
  · exact joined member

/-- The wire form of a label is plain. -/
theorem plain_encodeDistance (bias k q : Nat) : Plain (Punycode.encodeDistance bias k q) := by
  have digit : ∀ d < 36, isPlain (Punycode.digitChar d) = true := by decide
  induction q using Nat.strong_induction_on generalizing k with
  | _ q ih =>
      have low := Punycode.threshold_pos k bias
      have high := Punycode.threshold_le k bias
      intro c member
      rw [Punycode.encodeDistance] at member
      split at member
      · rw [List.mem_singleton.mp member]
        exact digit q (by omega)
      · rename_i large
        rcases List.mem_cons.mp member with rfl | later
        · have rest := Nat.mod_lt (q - Punycode.threshold k bias)
            (show 0 < 36 - Punycode.threshold k bias by omega)
          exact digit _ (by omega)
        · refine ih _ ?_ (k + 36) c later
          have smaller := Nat.div_le_self (q - Punycode.threshold k bias)
            (36 - Punycode.threshold k bias)
          omega

theorem plain_encodeFrom {label : List Char} {basic next : Nat} {numbers : List Nat}
    {w : Punycode.Writer} (plain : ∀ part ∈ w.parts, Plain part) :
    ∀ part ∈ (Punycode.encodeFrom label basic next numbers w).parts, Plain part := by
  have pass {next : Nat} {w : Punycode.Writer} (c : Char) (plain : ∀ part ∈ w.parts, Plain part) :
      ∀ part ∈ (w.pass basic next c).parts, Plain part := by
    unfold Punycode.Writer.pass
    split
    · exact plain
    · split
      · intro part among
        rcases List.mem_cons.mp among with rfl | old
        · exact plain_encodeDistance _ _ _
        · exact plain part old
      · exact plain
  have passes {next : Nat} (cs : List Char) {w : Punycode.Writer}
      (plain : ∀ part ∈ w.parts, Plain part) :
      ∀ part ∈ (cs.foldl (Punycode.Writer.pass basic next) w).parts, Plain part := by
    induction cs generalizing w with
    | nil => exact plain
    | cons c rest ih => exact ih (pass c plain)
  induction numbers generalizing next w with
  | nil => exact plain
  | cons n rest ih =>
      rw [Punycode.encodeFrom]
      exact ih (passes label plain)

theorem plain_encode {label : List Char} (basic : ∀ c ∈ label, c.toNat < 0x80 → isPlain c = true) :
    Plain (Punycode.encode label) := by
  intro c member
  simp only [Punycode.encode, List.mem_append] at member
  rcases member with (front | dash) | back
  · have among := List.mem_filter.mp front
    exact basic c among.1 (by simpa using among.2)
  · split at dash
    · cases dash
    · rw [List.mem_singleton.mp dash]
      decide
  · obtain ⟨part, among, inside⟩ := List.mem_flatten.mp back
    exact plain_encodeFrom (by simp) part (List.mem_reverse.mp among) c inside

/-- What is not denied to a host is plain. -/
theorem isPlain_of_valid {label : List Char} (valid : Idna.isValidLabel label = true) :
    ∀ c ∈ label, c.toNat < 0x80 → isPlain c = true := by
  intro c member small
  simp only [Idna.isValidLabel, Bool.and_eq_true, Bool.not_eq_true', List.any_eq_false] at valid
  have allowed := valid.2 c member
  rw [isPlain_iff]
  refine ⟨small, ?_⟩
  simp [Idna.isDenied] at allowed
  simp [separators]
  tauto

theorem valid_of_labelText? {label text : List Char} (read : Idna.labelText? label = some text) :
    Idna.isValidLabel text = true := by
  unfold Idna.labelText? at read
  split at read
  · simp only at read
    split at read
    · cases read
    · obtain ⟨decoded, -, read⟩ := Option.bind_eq_some_iff.mp read
      split at read
      · cases read
      · rename_i checked
        cases read
        simp only [Bool.or_eq_true, Bool.not_eq_true', not_or, Bool.not_eq_false] at checked
        exact checked.2
  · split at read
    · rename_i valid
      cases read
      exact valid
    · cases read

theorem plain_labelAscii? {text wire : List Char} (valid : Idna.isValidLabel text = true)
    (written : Idna.labelAscii? text = some wire) : Plain wire := by
  have basic := isPlain_of_valid valid
  unfold Idna.labelAscii? at written
  split at written
  · rename_i small
    cases written
    intro c member
    rw [List.all_eq_true] at small
    exact basic c member (by simpa using small c member)
  · split at written <;> cases written
    have mark : Plain Idna.mark := by decide
    exact plain_append.mpr ⟨mark, plain_encode basic⟩

/-- A domain name in wire form is plain. -/
theorem plain_toAscii? {domain name : String} (read : Idna.toAscii? domain = some name) :
    Plain name.toList := by
  simp only [Idna.toAscii?, Option.bind_eq_bind, Option.bind_eq_some_iff] at read
  obtain ⟨mapped, -, texts, read, written⟩ := read
  split at written
  · cases written
  · obtain ⟨wire, labels, same⟩ := Option.bind_eq_some_iff.mp written
    cases same
    rw [String.toList_ofList]
    intro c member
    rcases Text.mem_of_mem_intercalate member with dot | ⟨label, among, inside⟩
    · rw [List.mem_singleton.mp dot]
      decide
    · obtain ⟨text, old, label⟩ := mem_of_mapM_eq_some labels among
      obtain ⟨raw, -, text⟩ := mem_of_mapM_eq_some read old
      exact plain_labelAscii? (valid_of_labelText? text) label c inside

/-- A host whose text can be told from what stands behind it. -/
def Host.Readable : Host → Prop
  | .domain name => name ≠ "" ∧ Plain name.toList
  | _ => True

theorem Host.readable_empty : Host.empty.Readable := trivial

theorem Host.readable_bracketed {cs : List Char} {host : Host} (read : bracketed cs = .ok host) :
    host.Readable := by
  unfold bracketed at read
  split at read
  · cases read
  · split at read <;> cases read
    trivial

theorem Host.readable_read {cs : List Char} {host : Host} (read : Host.read cs = .ok host) :
    host.Readable := by
  unfold Host.read at read
  split at read
  · exact readable_bracketed read
  · split at read
    · cases read
    · rename_i name wire
      obtain ⟨domain, -, ascii⟩ := Option.bind_eq_some_iff.mp wire
      split at read
      · cases read
      · rename_i filled
        split at read
        · split at read <;> cases read
          trivial
        · cases read
          refine ⟨?_, plain_toAscii? ascii⟩
          rintro rfl
          exact filled rfl

theorem Host.readable_readOpaque {cs : List Char} {host : Host}
    (read : Host.readOpaque cs = .ok host) : host.Readable := by
  unfold Host.readOpaque at read
  split at read
  · exact readable_bracketed read
  · split at read
    · cases read
    · rename_i allowed
      have plain : Plain (escape escapedControl cs).toList := by
        refine plain_escape ?_
        intro c member kept
        have allowed : isForbidden c = false := by
          simp only [List.any_eq_true, not_exists, not_and, Bool.not_eq_true] at allowed
          exact allowed c member
        simp [escapedControl] at kept
        simp [isForbidden] at allowed
        rw [isPlain_iff]
        refine ⟨by omega, ?_⟩
        simp [separators]
        tauto
      cases read
      unfold Host.ofName
      split
      · trivial
      · rename_i filled
        refine ⟨?_, plain⟩
        intro empty
        rw [empty] at filled
        exact filled rfl

/-- The text of a host is plain or stands in brackets, plain apart from colons. -/
theorem Host.text_cases {host : Host} (readable : host.Readable) :
    Plain host.text.toList ∨ ∃ cs : List Char, host.text.toList = '[' :: cs ++ [']'] ∧
      ∀ c ∈ cs, c = ':' ∨ isPlain c = true := by
  cases host with
  | empty =>
      left
      intro c member
      cases member
  | domain name => exact Or.inl readable.2
  | ipv4 i => exact Or.inl (plain_ipv4 i)
  | ipv6 i =>
      refine Or.inr ⟨i.compressed.toList, ?_, fun c => mem_compressed⟩
      simp [Host.text]

/-- Only a host that is not there has no text. -/
theorem Host.eq_empty_of_text {host : Host} (readable : host.Readable) (empty : host.text = "") :
    host = .empty := by
  cases host with
  | empty => rfl
  | domain name => exact absurd empty readable.1
  | ipv4 i =>
      have characters := congrArg String.toList empty
      simp [Host.text, Net.Ipv4.text] at characters
  | ipv6 i =>
      have characters := congrArg String.toList empty
      simp [Host.text] at characters

end Url

end CrawlMesh
