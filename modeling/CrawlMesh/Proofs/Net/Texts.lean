/-
# What the text of an address is made of

A reader takes a stretch from the front of a text and leaves the rest.  What is taken for an address
holds digits, colons and points only, does not end in a point, and has three points or none
(`Piece`): the points of a version four address, which may stand at the end of a version six address.

So a text that is read as an address is such a stretch as a whole (`piece_of_ofText?`), and a text
that is read as a socket address holds brackets and a percent sign besides (`socketText_of_ofText?`).
-/
import CrawlMesh.Proofs.Net.Address

namespace CrawlMesh.Net

set_option autoImplicit false

/-! ## Stretches -/

/-- A digit in base sixteen, a colon or a point. -/
def isAddressChar (c : Char) : Bool := (digitIn? 16 c).isSome || c == ':' || c == '.'

/-- A stretch of text that makes an address or a part of one, with some number of points. -/
structure Piece (used : List Char) (points : Nat) : Prop where
  characters : ∀ c ∈ used, isAddressChar c = true
  count : used.count '.' = points
  last : used.getLast? ≠ some '.'

namespace Piece

variable {front back : List Char} {m n : Nat}

theorem nil : Piece [] 0 := ⟨by simp, rfl, by simp⟩

theorem colon : Piece [':'] 0 := ⟨List.forall_mem_singleton.mpr rfl, by decide, by decide⟩

theorem digits (all : ∀ c ∈ back, (digitIn? 16 c).isSome = true) : Piece back 0 := by
  have noPoint : '.' ∉ back := fun member => absurd (all '.' member) (by decide)
  refine ⟨fun c member => ?_, List.count_eq_zero_of_not_mem noPoint, fun last => ?_⟩
  · simp [isAddressChar, all c member]
  · exact noPoint (List.mem_of_getLast? last)

theorem append (a : Piece front m) (b : Piece back n) : Piece (front ++ back) (m + n) := by
  refine ⟨fun c member => ?_, by rw [List.count_append, a.count, b.count], fun last => ?_⟩
  · exact (List.mem_append.mp member).elim (a.characters c) (b.characters c)
  · rw [List.getLast?_append, Option.or_eq_some_iff] at last
    rcases last with last | ⟨-, last⟩
    · exact b.last last
    · exact a.last last

/-- A point stands between two stretches. -/
theorem point (a : Piece front m) (b : Piece back n) (filled : back ≠ []) :
    Piece (front ++ '.' :: back) (m + n + 1) := by
  refine ⟨fun c member => ?_, ?_, ?_⟩
  · rcases List.mem_append.mp member with member | member
    · exact a.characters c member
    · rcases List.mem_cons.mp member with rfl | member
      · rfl
      · exact b.characters c member
  · rw [List.count_append, List.count_cons_self, a.count, b.count, Nat.add_assoc]
  · rw [List.getLast?_append_cons, List.getLast?_cons_of_ne_nil filled]
    exact b.last

end Piece

/-! ## Numbers -/

theorem isSome_sixteen {c : Char} (digit : (digitIn? 10 c).isSome = true) :
    (digitIn? 16 c).isSome = true := by
  obtain ⟨d, value⟩ := Option.isSome_iff_exists.mp digit
  simp only [digitIn?, Option.filter_eq_some_iff, decide_eq_true_eq] at value
  refine Option.isSome_iff_exists.mpr ⟨d, ?_⟩
  simp only [digitIn?, Option.filter_eq_some_iff, decide_eq_true_eq]
  exact ⟨value.1, by omega⟩

/-- A decimal number is a stretch without a point. -/
theorem piece_of_readNumber {bound n : Nat} {limit : Option Nat} {leadingZeros : Bool}
    {cs rest : List Char} (read : readNumber 10 bound limit leadingZeros cs = some (n, rest)) :
    ∃ used, cs = used ++ rest ∧ used ≠ [] ∧ Piece used 0 := by
  obtain ⟨used, split, filled, all⟩ := readNumber_takes read
  exact ⟨used, split, filled, .digits fun c member => isSome_sixteen (all c member)⟩

/-! ## Addresses -/

theorem readOctet_takes {a : UInt8} {cs rest : List Char} (read : readOctet cs = some (a, rest)) :
    ∃ used, cs = used ++ rest ∧ used ≠ [] ∧ Piece used 0 := by
  simp only [readOctet, Option.bind_eq_bind, Option.bind_eq_some_iff] at read
  obtain ⟨⟨n, behind⟩, read, same⟩ := read
  cases same
  exact piece_of_readNumber read

theorem readIpv4_takes {i : Ipv4} {cs rest : List Char} (read : readIpv4 cs = some (i, rest)) :
    ∃ used, cs = used ++ rest ∧ Piece used 3 := by
  simp only [readIpv4, Option.bind_eq_bind, Option.bind_eq_some_iff, readChar_eq_some_iff] at read
  obtain ⟨⟨a, r₁⟩, first, _, rfl, ⟨b, r₂⟩, second, _, rfl, ⟨c, r₃⟩, third, _, rfl, ⟨d, r₄⟩, fourth,
    same⟩ := read
  cases same
  obtain ⟨u₁, rfl, -, p₁⟩ := readOctet_takes first
  obtain ⟨u₂, rfl, -, p₂⟩ := readOctet_takes second
  obtain ⟨u₃, rfl, -, p₃⟩ := readOctet_takes third
  obtain ⟨u₄, rfl, filled, p₄⟩ := readOctet_takes fourth
  refine ⟨u₁ ++ '.' :: (u₂ ++ '.' :: (u₃ ++ '.' :: u₄)), by simp, ?_⟩
  exact p₁.point (p₂.point (p₃.point p₄ filled) (by simp)) (by simp)

theorem readSeparator_takes {first : Bool} {cs behind : List Char}
    (read : readSeparator first cs = some behind) : ∃ used, cs = used ++ behind ∧ Piece used 0 := by
  cases first with
  | true =>
      cases read
      exact ⟨[], rfl, .nil⟩
  | false => exact ⟨[':'], readChar_eq_some_iff.mp read, .colon⟩

/-- Groups are a stretch without points, or with those of the address that ends them. -/
theorem readGroups_takes (first : Bool) (limit : Nat) (cs : List Char) :
    ∃ used, cs = used ++ (readGroups first limit cs).2.2 ∧
      Piece used (if (readGroups first limit cs).2.1 then 3 else 0) := by
  induction limit generalizing first cs with
  | zero => exact ⟨[], rfl, .nil⟩
  | succ limit ih =>
      rw [readGroups]
      simp only
      split
      · rename_i four rest embedded
        split at embedded
        · cases embedded
        · obtain ⟨behind, separated, read⟩ := Option.bind_eq_some_iff.mp embedded
          obtain ⟨front, rfl, p⟩ := readSeparator_takes separated
          obtain ⟨used, rfl, q⟩ := readIpv4_takes read
          exact ⟨front ++ used, by simp, p.append q⟩
      · split
        · exact ⟨[], rfl, .nil⟩
        · rename_i g rest group
          obtain ⟨behind, separated, read⟩ := Option.bind_eq_some_iff.mp group
          obtain ⟨front, rfl, p⟩ := readSeparator_takes separated
          obtain ⟨digits, rfl, -, all⟩ := readNumber_takes read
          obtain ⟨used, split, q⟩ := ih false rest
          refine ⟨front ++ digits ++ used, by simp [← split], ?_⟩
          simpa using (p.append (.digits all)).append q

theorem readIpv6_takes {i : Ipv6} {cs rest : List Char} (read : readIpv6 cs = some (i, rest)) :
    ∃ used points, cs = used ++ rest ∧ Piece used points ∧ (points = 0 ∨ points = 3) := by
  have either (four : Bool) : (if four then 3 else 0) = 0 ∨ (if four then 3 else 0) = 3 := by
    cases four <;> simp
  obtain ⟨front, split, p⟩ := readGroups_takes true 8 cs
  simp only [readIpv6] at read
  split at read
  · cases read
    exact ⟨front, _, split, p, either _⟩
  · split at read
    · cases read
    · rename_i unmixed
      simp only [Option.bind_eq_bind, Option.bind_eq_some_iff, readChar_eq_some_iff] at read
      obtain ⟨_, colon, behind, rfl, same⟩ := read
      cases same
      obtain ⟨back, tail, q⟩ := readGroups_takes true (7 - (readGroups true 8 cs).1.length) behind
      rw [if_neg unmixed] at p
      rw [colon, tail] at split
      refine ⟨front ++ ([':'] ++ ([':'] ++ back)), _, by simpa using split,
        p.append (.append .colon (.append .colon q)), ?_⟩
      simp only [Nat.zero_add]
      exact either _

/-- A text that is read as an address is one stretch, with three points or none. -/
theorem piece_of_ofText? {s : String} {i : Ip} (read : Ip.ofText? s = some i) :
    ∃ points, Piece s.toList points ∧ (points = 0 ∨ points = 3) := by
  unfold Ip.ofText? at read
  split at read
  · rename_i four found
    obtain ⟨used, split, p⟩ := readIpv4_takes (whole_eq_some_iff.mp found)
    rw [List.append_nil] at split
    exact ⟨3, split ▸ p, Or.inr rfl⟩
  · obtain ⟨six, found, -⟩ := Option.map_eq_some_iff.mp read
    obtain ⟨used, points, split, p, either⟩ := readIpv6_takes (whole_eq_some_iff.mp found)
    rw [List.append_nil] at split
    exact ⟨points, split ▸ p, either⟩

theorem isAddressChar_bounds {c : Char} (inside : isAddressChar c = true) :
    0x2E ≤ c.toNat ∧ c.toNat ≤ 0x66 := by
  simp only [isAddressChar, Bool.or_eq_true, beq_iff_eq] at inside
  rcases inside with (digit | rfl) | rfl
  · obtain ⟨d, value⟩ := Option.isSome_iff_exists.mp digit
    simp only [digitIn?, Option.filter_eq_some_iff, Bool.and_eq_true, decide_eq_true_eq,
      Char.le_def, UInt32.le_iff_toNat_le] at value
    have value := value.1
    change 0x2E ≤ c.val.toNat ∧ c.val.toNat ≤ 0x66
    split at value
    · rename_i bounds
      change 48 ≤ c.val.toNat ∧ c.val.toNat ≤ 57 at bounds
      omega
    · split at value
      · rename_i bounds
        change 97 ≤ c.val.toNat ∧ c.val.toNat ≤ 102 at bounds
        omega
      · split at value
        · rename_i bounds
          change 65 ≤ c.val.toNat ∧ c.val.toNat ≤ 70 at bounds
          omega
        · cases value
  · decide
  · decide

/-! ## Socket addresses -/

/-- The characters of socket addresses. -/
def isSocketChar (c : Char) : Bool := isAddressChar c || ['[', '%', ']'].contains c

/-- A text of such characters. -/
def SocketText (cs : List Char) : Prop := ∀ c ∈ cs, isSocketChar c = true

theorem SocketText.of_piece {used : List Char} {points : Nat} (p : Piece used points) :
    SocketText used := by
  intro c member
  simp [isSocketChar, p.characters c member]

@[simp] theorem socketText_append {a b : List Char} :
    SocketText (a ++ b) ↔ SocketText a ∧ SocketText b := List.forall_mem_append

@[simp] theorem socketText_cons {c : Char} {cs : List Char} :
    SocketText (c :: cs) ↔ isSocketChar c = true ∧ SocketText cs := List.forall_mem_cons

theorem readPort_takes {cs rest : List Char} {port : UInt16} (read : readPort cs = some (port, rest)) :
    ∃ used, cs = used ++ rest ∧ SocketText used := by
  simp only [readPort, Option.bind_eq_bind, Option.bind_eq_some_iff, readChar_eq_some_iff] at read
  obtain ⟨_, rfl, ⟨n, behind⟩, read, same⟩ := read
  cases same
  obtain ⟨used, rfl, -, p⟩ := piece_of_readNumber read
  exact ⟨':' :: used, rfl, by simpa [SocketText.of_piece p] using (by decide : isSocketChar ':' = true)⟩

theorem readScope_takes (cs : List Char) :
    ∃ used, cs = used ++ (readScope cs).2 ∧ SocketText used := by
  unfold readScope
  split
  · rename_i n rest found
    obtain ⟨behind, percent, read⟩ := Option.bind_eq_some_iff.mp found
    obtain ⟨used, rfl, -, p⟩ := piece_of_readNumber read
    exact ⟨'%' :: used, readChar_eq_some_iff.mp percent, by
      simpa [SocketText.of_piece p] using (by decide : isSocketChar '%' = true)⟩
  · exact ⟨[], rfl, List.forall_mem_nil _⟩

/-- A text that is read as a socket address holds no other characters. -/
theorem socketText_of_ofText? {s : String} {a : SocketAddress}
    (read : SocketAddress.ofText? s = some a) : SocketText s.toList := by
  unfold SocketAddress.ofText? at read
  split at read
  · rename_i found
    have taken := whole_eq_some_iff.mp found
    simp only [readSocketV4, Option.bind_eq_bind, Option.bind_eq_some_iff] at taken
    obtain ⟨⟨i, r₁⟩, address, ⟨port, r₂⟩, port, same⟩ := taken
    cases same
    obtain ⟨front, split, p⟩ := readIpv4_takes address
    obtain ⟨back, rfl, q⟩ := readPort_takes port
    rw [split]
    simp [SocketText.of_piece p, q]
  · have taken := whole_eq_some_iff.mp read
    simp only [readSocketV6, Option.bind_eq_bind, Option.bind_eq_some_iff,
      readChar_eq_some_iff] at taken
    obtain ⟨inside, opens, ⟨i, r₁⟩, address, r₂, closes, ⟨port, r₃⟩, port, same⟩ := taken
    cases same
    obtain ⟨front, _, rfl, p, -⟩ := readIpv6_takes address
    obtain ⟨zone, scope, q⟩ := readScope_takes r₁
    obtain ⟨back, rfl, t⟩ := readPort_takes port
    rw [closes] at scope
    rw [opens, scope]
    have brackets : isSocketChar '[' = true ∧ isSocketChar ']' = true := by decide
    simp [SocketText.of_piece p, q, t, brackets]

end CrawlMesh.Net
