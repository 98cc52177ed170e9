/-
# Addresses are read back

The text of an address is read as that address, and reading stops where the text ends.  What follows
must not be taken for a part of it: digits of a number end where no digit of their base follows
(`Ends`), and the groups of a version six address where no further group follows (`Closes`).

* A number below the bound of a reader is read from its digits (`readNumber_toDigits`), and so is a
  version four address from its octets (`readIpv4_text`).
* The groups of a version six address are read one after the other (`readGroups_chars`).  At every one of
  them an embedded version four address is tried first; without a point in the text there is none
  (`readIpv4_eq_none`).
* The run of zeros that is left out is what lies between the groups before the double colon and those
  behind it (`longestZeros_split`), so that both forms of a text, shortened or not, are read back
  (`readIpv6_compressed`), and the mixed form of a mapped address as well (`readIpv6_text`).

With the port and the zone behind it a socket address is read back from its text (`ofText?_text`).
-/
import CrawlMesh.Net.Address
import CrawlMesh.Proofs.Number.Digits

namespace CrawlMesh.Net

set_option autoImplicit false

/-! ## Numbers -/

/-- The text begins with no digit of the base. -/
def Ends (base : Nat) (rest : List Char) : Prop := ∀ c ∈ rest.head?, digitIn? base c = none

theorem ends_nil (base : Nat) : Ends base [] := by
  intro c member
  cases member

theorem ends_cons {base : Nat} {c : Char} (noDigit : digitIn? base c = none) (rest : List Char) :
    Ends base (c :: rest) := by
  intro d member
  cases member
  exact noDigit

theorem Ends.mono {base larger : Nat} {rest : List Char} (ends : Ends larger rest)
    (le : base ≤ larger) : Ends base rest := by
  intro c member
  have none := ends c member
  simp only [digitIn?, Option.filter_eq_none_iff, decide_eq_true_eq] at none ⊢
  exact fun d value lt => none d value (by omega)

theorem digitIn?_digitChar {base d : Nat} (small : base ≤ 16) (lt : d < base) :
    digitIn? base d.digitChar = some d := by
  have sixteen : ∀ d < 16, digitIn? 16 d.digitChar = some d := by decide
  have value := sixteen d (by omega)
  simp only [digitIn?, Option.filter_eq_some_iff, decide_eq_true_eq] at value ⊢
  exact ⟨value.1, lt⟩

theorem spanDigits_of_ends {base acc : Nat} {rest : List Char} (ends : Ends base rest) :
    spanDigits base acc rest = (acc, 0, rest) := by
  cases rest with
  | nil => rfl
  | cons c rest => rw [spanDigits, ends c rfl]

theorem spanDigits_cons {base acc d : Nat} {c : Char} (digit : digitIn? base c = some d)
    (cs : List Char) :
    spanDigits base acc (c :: cs) = ((spanDigits base (acc * base + d) cs).1,
      (spanDigits base (acc * base + d) cs).2.1 + 1, (spanDigits base (acc * base + d) cs).2.2) := by
  rw [spanDigits, digit]

/-- The digits of a number come first, whatever follows them. -/
theorem spanDigits_append {base : Nat} (two_le : 1 < base) (small : base ≤ 16) (n : Nat)
    (cs : List Char) :
    spanDigits base 0 (base.toDigits n ++ cs) =
      ((spanDigits base n cs).1, (spanDigits base n cs).2.1 + (base.toDigits n).length,
        (spanDigits base n cs).2.2) := by
  induction n using Nat.strong_induction_on generalizing cs with
  | _ n ih =>
      rw [Nat.toDigits_eq_if two_le]
      split
      · rename_i lt
        rw [List.singleton_append, spanDigits_cons (digitIn?_digitChar small lt), Nat.zero_mul,
          Nat.zero_add, List.length_singleton]
      · rename_i large
        have lt := Nat.mod_lt n (show 0 < base by omega)
        have whole : n / base * base + n % base = n := Nat.div_add_mod' n base
        rw [List.append_assoc, ih (n / base) (Nat.div_lt_self (by omega) two_le),
          List.singleton_append, spanDigits_cons (digitIn?_digitChar small lt), whole,
          List.length_append, List.length_singleton, Nat.add_assoc, Nat.add_comm 1]

theorem spanDigits_toDigits {base : Nat} (two_le : 1 < base) (small : base ≤ 16) (n : Nat)
    {rest : List Char} (ends : Ends base rest) :
    spanDigits base 0 (base.toDigits n ++ rest) = (n, (base.toDigits n).length, rest) := by
  rw [spanDigits_append two_le small, spanDigits_of_ends ends, Nat.zero_add]

/-- A number that begins with a zero has no other digit. -/
theorem length_of_leading_zero {n : Nat} {rest : List Char}
    (zero : (Nat.toDigits 10 n ++ rest).head? = some '0') : (Nat.toDigits 10 n).length = 1 := by
  rcases Nat.eq_zero_or_pos n with rfl | pos
  · rfl
  · obtain ⟨c, ds, shape, first⟩ := toDigits_of_pos pos
    rw [shape] at zero
    exact absurd (Option.some.inj zero) first

/-- A number below the bound is read from its digits, if there are not more than allowed. -/
theorem readNumber_toDigits {base bound n : Nat} {limit : Option Nat} {leadingZeros : Bool}
    {rest : List Char} (two_le : 1 < base) (small : base ≤ 16) (lt : n < bound)
    (short : ∀ most ∈ limit, (base.toDigits n).length ≤ most)
    (plain : leadingZeros = true ∨ base = 10) (ends : Ends base rest) :
    readNumber base bound limit leadingZeros (base.toDigits n ++ rest) = some (n, rest) := by
  have some_digit : (base.toDigits n).length ≠ 0 :=
    fun none => Nat.toDigits_ne_nil (List.eq_nil_of_length_eq_zero none)
  have inLimit : limit.any ((base.toDigits n).length > ·) = false := by
    cases limit with
    | none => rfl
    | some most => simpa using short most rfl
  have noZero : (!leadingZeros && (base.toDigits n ++ rest).head? == some '0' &&
      decide ((base.toDigits n).length > 1)) = false := by
    rcases plain with rfl | rfl
    · rfl
    · rw [Bool.eq_false_iff]
      intro bad
      simp only [Bool.and_eq_true, beq_iff_eq, decide_eq_true_eq] at bad
      have one := length_of_leading_zero bad.1.2
      omega
  have inBound : ¬ n ≥ bound := by omega
  simp only [readNumber, spanDigits_toDigits two_le small n ends, inLimit, noZero, beq_iff_eq,
    Bool.or_eq_true, decide_eq_true_eq, some_digit, inBound, or_self, if_false, Bool.false_eq_true]

theorem readChar_eq_some_iff {c : Char} {cs rest : List Char} :
    readChar c cs = some rest ↔ cs = c :: rest := by
  cases cs with
  | nil => simp [readChar]
  | cons d ds =>
      by_cases same : c = d
      · simp [readChar, same]
      · simp [readChar, same, Ne.symm same]

theorem spanDigits_takes (base acc : Nat) (cs : List Char) :
    ∃ used, cs = used ++ (spanDigits base acc cs).2.2 ∧
      used.length = (spanDigits base acc cs).2.1 ∧ ∀ c ∈ used, (digitIn? base c).isSome = true := by
  induction cs generalizing acc with
  | nil => exact ⟨[], rfl, rfl, List.forall_mem_nil _⟩
  | cons c rest ih =>
      cases digit : digitIn? base c with
      | none =>
          rw [spanDigits, digit]
          exact ⟨[], rfl, rfl, List.forall_mem_nil _⟩
      | some d =>
          obtain ⟨used, split, length, all⟩ := ih (acc * base + d)
          rw [spanDigits_cons digit]
          refine ⟨c :: used, by rw [List.cons_append, ← split], by simp [length], ?_⟩
          exact List.forall_mem_cons.mpr ⟨by simp [digit], all⟩

/-- A number takes one or more digits of its base. -/
theorem readNumber_takes {base bound n : Nat} {limit : Option Nat} {leadingZeros : Bool}
    {cs rest : List Char} (read : readNumber base bound limit leadingZeros cs = some (n, rest)) :
    ∃ used, cs = used ++ rest ∧ used ≠ [] ∧ ∀ c ∈ used, (digitIn? base c).isSome = true := by
  obtain ⟨used, split, length, all⟩ := spanDigits_takes base 0 cs
  simp only [readNumber] at read
  split at read
  · cases read
  · rename_i counted
    split at read
    · cases read
    · split at read
      · cases read
      · cases read
        refine ⟨used, split, ?_, all⟩
        rintro rfl
        exact counted (by simp [← length])

/-! ## Version four -/

theorem readOctet_toDigits (n : UInt8) {rest : List Char} (ends : Ends 10 rest) :
    readOctet (Nat.toDigits 10 n.toNat ++ rest) = some (n, rest) := by
  have lt : n.toNat < 256 := n.toNat_lt
  have short : ∀ most ∈ some 3, (Nat.toDigits 10 n.toNat).length ≤ most := by
    intro most same
    cases same
    exact (Nat.length_toDigits_le_iff (by omega) (by omega)).mpr (by omega)
  rw [readOctet, readNumber_toDigits (by omega) (by omega) lt short (Or.inr rfl) ends]
  simp

theorem toList_ipv4 (i : Ipv4) :
    i.text.toList = Nat.toDigits 10 i.a.toNat ++ '.' :: (Nat.toDigits 10 i.b.toNat ++
      '.' :: (Nat.toDigits 10 i.c.toNat ++ '.' :: Nat.toDigits 10 i.d.toNat)) := by
  simp [Ipv4.text, toString]

/-- The text of a version four address is read as that address. -/
theorem readIpv4_text (i : Ipv4) {rest : List Char} (ends : Ends 10 rest) :
    readIpv4 (i.text.toList ++ rest) = some (i, rest) := by
  have point (cs : List Char) : Ends 10 ('.' :: cs) := ends_cons (by decide) cs
  simp only [toList_ipv4, List.append_assoc, List.cons_append, readIpv4, readChar,
    readOctet_toDigits _ (point _), readOctet_toDigits _ ends, Option.bind_eq_bind, Option.bind_some,
    beq_self_eq_true, if_true]

/-- Without a point there is no version four address. -/
theorem readIpv4_eq_none {cs : List Char} (pointless : '.' ∉ cs) : readIpv4 cs = none := by
  rw [Option.eq_none_iff_forall_ne_some]
  intro i read
  simp only [readIpv4, readOctet, Option.bind_eq_bind, Option.bind_eq_some_iff,
    readChar_eq_some_iff] at read
  obtain ⟨_, ⟨⟨n, rest⟩, number, same⟩, _, point, -⟩ := read
  cases same
  cases point
  obtain ⟨used, rfl, -⟩ := readNumber_takes number
  exact pointless (by simp)

/-! ## Groups -/

/-- No further group of a version six address follows. -/
def Closes (rest : List Char) : Prop :=
  ∀ first, (readSeparator first rest).bind (readNumber 16 65536 (some 4) true) = none

/-- The characters of groups, parted by colons, with one in front unless they come first. -/
def groupChars (first : Bool) : List UInt16 → List Char
  | [] => []
  | g :: rest =>
    (if first then [] else [':']) ++ Nat.toDigits 16 g.toNat ++ groupChars false rest

theorem toList_joinGroups (groups : List UInt16) :
    (Ipv6.joinGroups groups).toList = groupChars true groups := by
  have behind (g : UInt16) (rest : List UInt16) :
      [':'].intercalate ((g :: rest).map fun g => (Ipv6.groupText g).toList) =
        Nat.toDigits 16 g.toNat ++ groupChars false rest := by
    induction rest generalizing g with
    | nil => simp [groupChars, Ipv6.groupText]
    | cons h rest ih =>
        have ih := ih h
        rw [List.map_cons] at ih
        rw [List.map_cons, List.map_cons, List.intercalate_cons_cons, ih]
        simp [groupChars, Ipv6.groupText]
  rw [Ipv6.joinGroups, String.toList_intercalate, List.map_map]
  cases groups with
  | nil => rfl
  | cons g rest => exact (behind g rest).trans (by simp [groupChars])

theorem mem_groupChars {first : Bool} {groups : List UInt16} {c : Char}
    (member : c ∈ groupChars first groups) : c = ':' ∨ ∃ d < 16, c = Nat.digitChar d := by
  induction groups generalizing first with
  | nil => cases member
  | cons g rest ih =>
      rw [groupChars, List.mem_append, List.mem_append] at member
      rcases member with (colon | digit) | later
      · left
        split at colon
        · cases colon
        · exact List.mem_singleton.mp colon
      · exact Or.inr (mem_toDigits (by omega) digit)
      · exact ih later

theorem point_not_mem_groupChars (first : Bool) (groups : List UInt16) :
    '.' ∉ groupChars first groups := by
  intro member
  have noPoint : ∀ d < 16, '.' ≠ Nat.digitChar d := by decide
  rcases mem_groupChars member with colon | ⟨d, lt, same⟩
  · exact absurd colon (by decide)
  · exact noPoint d lt same

theorem readSeparator_colon (first : Bool) (cs : List Char) :
    readSeparator first ((if first then [] else [':']) ++ cs) = some cs := by
  cases first <;> rfl

theorem readGroup_toDigits (g : UInt16) {rest : List Char} (ends : Ends 16 rest) :
    readNumber 16 65536 (some 4) true (Nat.toDigits 16 g.toNat ++ rest) = some (g.toNat, rest) := by
  have lt : g.toNat < 65536 := g.toNat_lt
  have short : ∀ most ∈ some 4, (Nat.toDigits 16 g.toNat).length ≤ most := by
    intro most same
    cases same
    exact (Nat.length_toDigits_le_iff (by omega) (by omega)).mpr (by omega)
  exact readNumber_toDigits (by omega) (by omega) lt short (Or.inl rfl) ends

/-- Groups are read one after the other, up to a place where none follows. -/
theorem readGroups_chars {groups : List UInt16} {rest : List Char} (pointless : '.' ∉ rest)
    (ends : Ends 16 rest) (closes : Closes rest) (first : Bool) {limit : Nat}
    (fits : groups.length ≤ limit) :
    readGroups first limit (groupChars first groups ++ rest) = (groups, false, rest) := by
  have unmixed {cs : List Char} (first : Bool) (noPoint : '.' ∉ cs) :
      (readSeparator first cs).bind readIpv4 = none := by
    cases separated : readSeparator first cs with
    | none => rfl
    | some behind =>
        refine readIpv4_eq_none fun member => noPoint ?_
        cases first with
        | true =>
            cases separated
            exact member
        | false =>
            rw [readChar_eq_some_iff.mp separated]
            exact List.mem_cons_of_mem ':' member
  induction groups generalizing first limit with
  | nil =>
      cases limit with
      | zero => rfl
      | succ limit =>
          simp only [groupChars, List.nil_append, readGroups, unmixed first pointless, ite_self,
            closes first]
  | cons g groups ih =>
      obtain ⟨limit, rfl⟩ := Nat.exists_eq_add_one_of_ne_zero
        (show limit ≠ 0 by rw [List.length_cons] at fits; omega)
      have whole : '.' ∉ groupChars first (g :: groups) ++ rest := by
        rw [List.mem_append, not_or]
        exact ⟨point_not_mem_groupChars first _, pointless⟩
      have next : Ends 16 (groupChars false groups ++ rest) := by
        cases groups with
        | nil => exact ends
        | cons h groups => exact ends_cons (by decide) _
      have later := ih false (show groups.length ≤ limit by simpa using fits)
      rw [readGroups, unmixed first whole]
      simp only [ite_self]
      rw [groupChars, List.append_assoc, List.append_assoc, readSeparator_colon, Option.bind_some,
        readGroup_toDigits g next]
      simp only [later, UInt16.ofNat_toNat]

/-! ## Version six -/

/-- What stands in front of a list is its run of zeros. -/
theorem zeroRun_split (groups : List UInt16) :
    ∃ behind, groups = List.replicate (Ipv6.zeroRun groups) 0 ++ behind := by
  induction groups with
  | nil => exact ⟨[], rfl⟩
  | cons g rest ih =>
      by_cases zero : g = 0
      · obtain ⟨behind, split⟩ := ih
        have run : Ipv6.zeroRun (g :: rest) = Ipv6.zeroRun rest + 1 := by simp [Ipv6.zeroRun, zero]
        exact ⟨behind, by rw [run, List.replicate_succ, List.cons_append, ← split, zero]⟩
      · have run : Ipv6.zeroRun (g :: rest) = 0 := by simp [Ipv6.zeroRun, zero]
        exact ⟨g :: rest, by rw [run]; rfl⟩

/-- The run of zeros that is found lies between what stands before it and what stands behind it. -/
theorem longestZeros_split {start place run : Nat} {groups : List UInt16}
    (found : Ipv6.longestZeros start groups = (place, run)) :
    ∃ before behind, groups = before ++ (List.replicate run 0 ++ behind) ∧
      place = start + before.length := by
  induction groups generalizing start with
  | nil =>
      cases found
      exact ⟨[], [], rfl, rfl⟩
  | cons g rest ih =>
      rw [Ipv6.longestZeros] at found
      cases later : Ipv6.longestZeros (start + 1) rest with
      | mk at_ length =>
          simp only [later] at found
          split at found <;> cases found
          · obtain ⟨behind, split⟩ := zeroRun_split (g :: rest)
            exact ⟨[], behind, split, rfl⟩
          · obtain ⟨before, behind, split, shifted⟩ := ih later
            refine ⟨g :: before, behind, ?_, ?_⟩
            · rw [List.cons_append, ← split]
            · rw [shifted, List.length_cons]
              omega

theorem ofList_toList (i : Ipv6) : Ipv6.ofList i.groups.toList = i := by
  cases i with
  | mk groups =>
      simp only [Ipv6.ofList, Ipv6.mk.injEq]
      ext place
      simp

theorem length_groups (i : Ipv6) : i.groups.toList.length = 8 := by simp

/-- The groups before a double colon and those behind it, with zeros between them. -/
theorem readIpv6_of_parts {cs behind rest : List Char} {head tail : List UInt16} {four : Bool}
    (short : head.length ≠ 8) (front : readGroups true 8 cs = (head, false, ':' :: ':' :: behind))
    (back : readGroups true (7 - head.length) behind = (tail, four, rest)) :
    readIpv6 cs = some (.ofList
      (head ++ List.replicate (8 - head.length - tail.length) 0 ++ tail), rest) := by
  simp [readIpv6, front, short, readChar, back]

/-- Zeros are left out between the groups before them and those behind them, if there are several. -/
theorem toList_compressed (i : Ipv6) :
    i.compressed.toList = groupChars true i.groups.toList ∨
      ∃ before behind run, i.groups.toList = before ++ List.replicate run 0 ++ behind ∧ 1 < run ∧
        i.compressed.toList = groupChars true before ++ ':' :: ':' :: groupChars true behind := by
  rw [Ipv6.compressed]
  cases found : Ipv6.longestZeros 0 i.groups.toList with
  | mk place run =>
      obtain ⟨before, behind, split, shifted⟩ := longestZeros_split found
      rw [Nat.zero_add] at shifted
      subst shifted
      simp only
      split
      · rename_i many
        have front : i.groups.toList.take before.length = before := by rw [split, List.take_left]
        have back : i.groups.toList.drop (before.length + run) = behind := by
          rw [split, ← List.append_assoc]
          exact List.drop_left' (by simp)
        refine Or.inr ⟨before, behind, run, ?_, many, ?_⟩
        · rw [split, List.append_assoc]
        · rw [front, back]
          simp [toList_joinGroups]
      · exact Or.inl (toList_joinGroups _)

/-- A text that is shortened or has all groups is read as its address. -/
theorem readIpv6_compressed (i : Ipv6) {rest : List Char} (pointless : '.' ∉ rest)
    (ends : Ends 16 rest) (closes : Closes rest) :
    readIpv6 (i.compressed.toList ++ rest) = some (i, rest) := by
  have eight := length_groups i
  rcases toList_compressed i with text | ⟨before, behind, run, split, many, text⟩
  · rw [text, readIpv6, readGroups_chars pointless ends closes true (Nat.le_of_eq eight)]
    simp only [eight, if_true, ofList_toList]
  · have lengths := congrArg List.length split
    simp only [eight, List.length_append, List.length_replicate] at lengths
    have colons (cs : List Char) : Closes (':' :: ':' :: cs) := by
      intro first
      cases first <;> rfl
    have front : readGroups true 8
        (groupChars true before ++ ':' :: ':' :: (groupChars true behind ++ rest)) =
          (before, false, ':' :: ':' :: (groupChars true behind ++ rest)) := by
      refine readGroups_chars ?_ (ends_cons (by decide) _) (colons _) true (by omega)
      simp [pointless, point_not_mem_groupChars]
    have back : readGroups true (7 - before.length) (groupChars true behind ++ rest) =
        (behind, false, rest) := readGroups_chars pointless ends closes true (by omega)
    have zeros : 8 - before.length - behind.length = run := by omega
    have whole := readIpv6_of_parts (by omega) front back
    rw [zeros, ← split, ofList_toList] at whole
    rw [text, List.append_assoc]
    exact whole

theorem mapped?_eq_some {i : Ipv6} {four : Ipv4} (mapped : i.mapped? = some four) :
    i.groups.toList = [0, 0, 0, 0, 0, 0xFFFF, four.a.toUInt16 * 256 + four.b.toUInt16,
      four.c.toUInt16 * 256 + four.d.toUInt16] := by
  have halves (g : UInt16) : (g >>> 8).toUInt8.toUInt16 * 256 + g.toUInt8.toUInt16 = g := by
    apply UInt16.toNat_inj.mp
    have lt := g.toNat_lt
    simp [Nat.shiftRight_eq_div_pow]
    omega
  unfold Ipv6.mapped? at mapped
  split at mapped
  · rename_i high low groups
    cases mapped
    rw [groups, halves, halves]
  · cases mapped

/-- The mixed form of a mapped address is read as that address. -/
theorem readIpv6_mapped {i : Ipv6} {four : Ipv4} (mapped : i.mapped? = some four) {rest : List Char}
    (ends : Ends 10 rest) :
    readIpv6 (("::ffff:" ++ four.text).toList ++ rest) = some (i, rest) := by
  have text : ("::ffff:" ++ four.text).toList ++ rest =
      ':' :: ':' :: 'f' :: 'f' :: 'f' :: 'f' :: ':' :: (four.text.toList ++ rest) := by
    simp
  have embedded : readGroups false 6 (':' :: (four.text.toList ++ rest)) =
      ([four.a.toUInt16 * 256 + four.b.toUInt16, four.c.toUInt16 * 256 + four.d.toUInt16], true,
        rest) := by
    simp [readGroups, readSeparator, readChar, readIpv4_text four ends]
  have back : readGroups true 7 ('f' :: 'f' :: 'f' :: 'f' :: ':' :: (four.text.toList ++ rest)) =
      ([0xFFFF, four.a.toUInt16 * 256 + four.b.toUInt16, four.c.toUInt16 * 256 + four.d.toUInt16],
        true, rest) := by
    have noOctet (cs : List Char) : readIpv4 ('f' :: cs) = none := rfl
    have group (cs : List Char) :
        readNumber 16 65536 (some 4) true ('f' :: 'f' :: 'f' :: 'f' :: ':' :: cs) =
          some (0xFFFF, ':' :: cs) := rfl
    rw [readGroups]
    simp [readSeparator, noOctet, group, embedded]
  have front (cs : List Char) : readGroups true 8 (':' :: ':' :: cs) = ([], false, ':' :: ':' :: cs) :=
    rfl
  have whole := readIpv6_of_parts (by decide) (front _) back
  have groups := mapped?_eq_some mapped
  rw [text, whole, ← ofList_toList i, groups]
  rfl

/-- The text of a version six address is read as that address. -/
theorem readIpv6_text (i : Ipv6) {rest : List Char} (pointless : '.' ∉ rest)
    (ends : Ends 16 rest) (closes : Closes rest) :
    readIpv6 (i.text.toList ++ rest) = some (i, rest) := by
  rw [Ipv6.text]
  split
  · exact readIpv6_mapped ‹_› (ends.mono (by omega))
  · exact readIpv6_compressed i pointless ends closes

/-! ## Socket addresses -/

theorem readPort_toDigits (port : UInt16) :
    readPort (':' :: Nat.toDigits 10 port.toNat) = some (port, []) := by
  have number : readNumber 10 65536 none true (Nat.toDigits 10 port.toNat ++ []) =
      some (port.toNat, []) :=
    readNumber_toDigits (by omega) (by omega) port.toNat_lt (by simp) (Or.inl rfl) (ends_nil 10)
  rw [List.append_nil] at number
  simp [readPort, readChar, number]

/-- A zone is read after its percent sign. -/
theorem readScope_toDigits (scope : UInt32) {rest : List Char} (ends : Ends 10 rest) :
    readScope ('%' :: (Nat.toDigits 10 scope.toNat ++ rest)) = (scope, rest) := by
  have number : readNumber 10 UInt32.size none true (Nat.toDigits 10 scope.toNat ++ rest) =
      some (scope.toNat, rest) :=
    readNumber_toDigits (by omega) (by omega) scope.toNat_lt (by simp) (Or.inl rfl) ends
  simp [readScope, readChar, number]

/-- What stands between the address and the port of a version six socket address. -/
def scopeChars (scope : UInt32) : List Char :=
  if scope = 0 then [] else '%' :: Nat.toDigits 10 scope.toNat

theorem toList_socketV6 (i : Ipv6) (scope : UInt32) (port : UInt16) :
    (SocketAddress.v6 i scope port).text.toList =
      '[' :: (i.text.toList ++ (scopeChars scope ++ ']' :: ':' :: Nat.toDigits 10 port.toNat)) := by
  rw [SocketAddress.text, scopeChars]
  by_cases zero : scope = 0
  · simp [zero, toString]
  · simp [zero, toString]

theorem point_not_mem_decimal (n : Nat) : '.' ∉ Nat.toDigits 10 n := not_mem_decimal (by decide) n

/-- What stands behind the address of a version six socket address is no part of it. -/
theorem behind_ipv6 (scope : UInt32) {rest : List Char} (pointless : '.' ∉ rest) :
    '.' ∉ scopeChars scope ++ ']' :: rest ∧ Ends 16 (scopeChars scope ++ ']' :: rest) ∧
      Closes (scopeChars scope ++ ']' :: rest) := by
  rw [scopeChars]
  split
  · refine ⟨by simpa using pointless, ends_cons (by decide) _, ?_⟩
    intro first
    cases first <;> rfl
  · refine ⟨by simpa [point_not_mem_decimal] using pointless, ends_cons (by decide) _, ?_⟩
    intro first
    cases first <;> rfl

theorem readScope_scopeChars (scope : UInt32) (rest : List Char) :
    readScope (scopeChars scope ++ ']' :: rest) = (scope, ']' :: rest) := by
  rw [scopeChars]
  split
  · rename_i zero
    subst zero
    rfl
  · exact readScope_toDigits scope (ends_cons (by decide) rest)

theorem whole_eq_some_iff {α : Type} {read : List Char → Option (α × List Char)} {s : String} {x : α} :
    whole read s = some x ↔ read s.toList = some (x, []) := by
  unfold whole
  split
  · rename_i y found
    simp [found]
  · rename_i other
    constructor
    · intro absent
      cases absent
    · intro found
      exact absurd found (other x)

/-- **A socket address is read back from its text.** -/
theorem ofText?_text (a : SocketAddress) : SocketAddress.ofText? a.text = some a := by
  cases a with
  | v4 i port =>
      have text : (SocketAddress.v4 i port).text.toList =
          i.text.toList ++ ':' :: Nat.toDigits 10 port.toNat := by
        simp [SocketAddress.text, toString]
      have found : readSocketV4 (SocketAddress.v4 i port).text.toList =
          some (SocketAddress.v4 i port, []) := by
        have ends : Ends 10 (':' :: Nat.toDigits 10 port.toNat) := ends_cons (by decide) _
        rw [text]
        simp [readSocketV4, readIpv4_text i ends, readPort_toDigits]
      rw [SocketAddress.ofText?, whole_eq_some_iff.mpr found]
  | v6 i scope port =>
      have text := toList_socketV6 i scope port
      have other : whole readSocketV4 (SocketAddress.v6 i scope port).text = none := by
        rw [whole, text]
        rfl
      have noPoint : '.' ∉ ':' :: Nat.toDigits 10 port.toNat := by
        simp [point_not_mem_decimal]
      obtain ⟨pointless, ends, closes⟩ := behind_ipv6 scope noPoint
      have found : readSocketV6 (SocketAddress.v6 i scope port).text.toList =
          some (SocketAddress.v6 i scope port, []) := by
        rw [text]
        simp [readSocketV6, readChar, readIpv6_text i pointless ends closes, readScope_scopeChars,
          readPort_toDigits]
      rw [SocketAddress.ofText?, other]
      exact whole_eq_some_iff.mpr found

end CrawlMesh.Net
