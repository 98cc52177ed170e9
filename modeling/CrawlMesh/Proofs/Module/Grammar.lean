/-
# The grammar of identifiers

Which texts are identifiers of modules, and what each of them says.  An identifier is a letter of a role,
capital or small, one or more digits, and perhaps a bar with an address behind it (`Spells`).  Reading
takes a text apart from its two ends, at the first letter and at the last bar, and checks what it finds
there; the grammar goes from left to right.  Both agree because no address holds a bar, so that the
last bar of an identifier is its only one (`parts_eq_ok_iff`).

All other texts are refused for their argument (`Refused`): those with a sign, a blank or a second bar
anywhere, without a digit behind the letter, or with digits whose number needs more than 64 bits.  Zeros
in front of the digits change nothing.
-/
import CrawlMesh.ModuleId
import CrawlMesh.Proofs.Net.Texts
import CrawlMesh.Proofs.Text.Lowering
import CrawlMesh.Proofs.Text.Splitting

namespace CrawlMesh

set_option autoImplicit false

/-! ## Letters -/

/-- The letters of a role. -/
def Role.letters (role : Role) : List Char := [role.letter, role.letter.toLower]

theorem Role.ofLetter?_eq_some_iff {letter : Char} {role : Role} :
    ofLetter? letter = some role ↔ letter ∈ role.letters := by
  constructor
  · intro read
    have same : letter.toUpper = role.letter := by
      have found := List.find?_some read
      exact (beq_iff_eq.mp found).symm
    rcases Text.toUpper_cases letter with kept | ⟨n, bound, rfl⟩
    · rw [← kept, same]
      exact List.mem_cons_self
    · clear read
      revert n
      cases role <;> decide
  · intro member
    simp only [letters, List.mem_cons, List.not_mem_nil, or_false] at member
    rcases member with rfl | rfl
    · cases role <;> rfl
    · cases role <;> rfl

namespace ModuleId

/-! ## The grammar -/

/-- What stands behind the digits: nothing, or a bar and an address. -/
inductive Behind : List Char → Option Net.SocketAddress → Prop
  | nothing : Behind [] none
  | bar {address : String} {a : Net.SocketAddress} :
      Net.SocketAddress.ofText? address = some a → Behind ('|' :: address.toList) (some a)

/-- Some digits with their number. -/
structure Number (ds : List Char) (n : Nat) : Prop where
  filled : ds ≠ []
  digits : ∀ c ∈ ds, c.isDigit = true
  value : Nat.ofDigitChars 10 ds 0 = n

/-- The texts of identifiers and what they say. -/
inductive Spells : List Char → Role → Nat → Option Net.SocketAddress → Prop
  | identifier {letter : Char} {digits behind : List Char} {role : Role} {serial : Nat}
      {address : Option Net.SocketAddress} :
      letter ∈ role.letters → Number digits serial → Behind behind address →
      Spells (letter :: (digits ++ behind)) role serial address

/-! ## Reading -/

theorem readSerial_eq_ok_iff {whole : String} {digits : List Char} {serial : UInt64} :
    readSerial whole digits = .ok serial ↔ Number digits serial.toNat := by
  unfold readSerial
  split
  · rename_i bad
    constructor
    · intro read
      cases read
    · rintro ⟨filled, all, -⟩
      simp [filled, List.all_eq_true.mpr all] at bad
  · rename_i good
    simp only [Bool.or_eq_true, List.isEmpty_iff, Bool.not_eq_true', not_or,
      Bool.not_eq_false, List.all_eq_true] at good
    have least : 0 < UInt64.size := by decide
    have read {n : Nat} := Decimal.readDigits_eq_ok_iff (n := n) good.2 least
    constructor
    · intro taken
      split at taken
      · rename_i n found
        cases taken
        obtain ⟨value, less⟩ := read.mp found
        refine ⟨good.1, good.2, ?_⟩
        rw [value, UInt64.toNat_ofNat_of_lt' less]
      · cases taken
    · rintro ⟨-, -, value⟩
      rw [read.mpr ⟨value, serial.toNat_lt⟩]
      simp

theorem readAddress_eq_ok_iff {whole address : String} {a : Net.SocketAddress} :
    readAddress whole address = .ok a ↔ Net.SocketAddress.ofText? address = some a := by
  unfold readAddress
  split <;> simp_all

theorem bar_not_mem_digits {digits : List Char} (all : ∀ c ∈ digits, c.isDigit = true) :
    '|' ∉ digits := fun member => absurd (all '|' member) (by decide)

theorem bar_not_mem_address {address : String} {a : Net.SocketAddress}
    (read : Net.SocketAddress.ofText? address = some a) : '|' ∉ address.toList :=
  fun member => absurd (Net.socketText_of_ofText? read '|' member) (by decide)

/-- No identifier: reading it is an error of its argument. -/
def Refused (id : ModuleId) : Prop := ∃ detail, id.parts = .error (.argument detail)

theorem argument_of_readSerial {whole : String} {digits : List Char} {e : CrawlError}
    (failed : readSerial whole digits = .error e) : ∃ detail, e = .argument detail := by
  unfold readSerial at failed
  split at failed
  · cases failed
    exact ⟨_, rfl⟩
  · split at failed <;> cases failed
    exact ⟨_, rfl⟩

theorem argument_of_readAddress {whole address : String} {e : CrawlError}
    (failed : readAddress whole address = .error e) : ∃ detail, e = .argument detail := by
  unfold readAddress at failed
  split at failed <;> cases failed
  exact ⟨_, rfl⟩

/-- A text says what is read from it, or is refused. -/
theorem parts_cases (id : ModuleId) :
    (∃ p, id.parts = .ok p ∧ Spells id.text.toList p.role p.serial.toNat p.address) ∨ id.Refused := by
  unfold Refused parts
  cases text : id.text.toList with
  | nil => exact Or.inr ⟨_, rfl⟩
  | cons letter rest =>
      dsimp only
      cases known : Role.ofLetter? letter with
      | none => exact Or.inr ⟨_, rfl⟩
      | some role =>
          have letters := Role.ofLetter?_eq_some_iff.mp known
          dsimp only
          cases split : Text.splitLast? '|' rest with
          | none =>
              dsimp only
              cases numbered : readSerial id.text rest with
              | error e =>
                  obtain ⟨detail, rfl⟩ := argument_of_readSerial numbered
                  exact Or.inr ⟨detail, rfl⟩
              | ok serial =>
                  have spelled := Spells.identifier letters (readSerial_eq_ok_iff.mp numbered) .nothing
                  rw [List.append_nil] at spelled
                  exact Or.inl ⟨_, rfl, spelled⟩
          | some pieces =>
              obtain ⟨digits, address⟩ := pieces
              dsimp only
              cases addressed : readAddress id.text (String.ofList address) with
              | error e =>
                  obtain ⟨detail, rfl⟩ := argument_of_readAddress addressed
                  exact Or.inr ⟨detail, rfl⟩
              | ok a =>
                  cases numbered : readSerial id.text digits with
                  | error e =>
                      obtain ⟨detail, rfl⟩ := argument_of_readSerial numbered
                      exact Or.inr ⟨detail, rfl⟩
                  | ok serial =>
                      have behind := Behind.bar (readAddress_eq_ok_iff.mp addressed)
                      have number := readSerial_eq_ok_iff.mp numbered
                      rw [String.toList_ofList] at behind
                      rw [(Text.splitLast?_eq_some_iff.mp split).1]
                      exact Or.inl ⟨_, rfl, .identifier letters number behind⟩

/-- What is spelled is read. -/
theorem parts_of_spells {id : ModuleId} {p : Parts}
    (spelled : Spells id.text.toList p.role p.serial.toNat p.address) : id.parts = .ok p := by
  obtain ⟨role, serial, address⟩ := p
  dsimp only at spelled
  generalize text : id.text.toList = cs at spelled
  cases spelled with
  | identifier letters number behind =>
      rename_i letter digits tail
      have known := Role.ofLetter?_eq_some_iff.mpr letters
      have numbered : readSerial id.text digits = .ok serial := readSerial_eq_ok_iff.mpr number
      have free := bar_not_mem_digits number.digits
      cases behind with
      | nothing =>
          rw [List.append_nil] at text
          simp only [parts, text, known, Text.splitLast?_eq_none_iff.mpr free, numbered]
          rfl
      | bar found =>
          have split := Text.splitLast?_eq_some_iff.mpr
            ⟨rfl (a := digits ++ _), bar_not_mem_address found⟩
          simp only [parts, text, known, split, String.ofList_toList,
            readAddress_eq_ok_iff.mpr found, numbered]
          rfl

/-- **Reading accepts the grammar and nothing else.** -/
theorem parts_eq_ok_iff {id : ModuleId} {p : Parts} :
    id.parts = .ok p ↔ Spells id.text.toList p.role p.serial.toNat p.address := by
  refine ⟨fun read => ?_, parts_of_spells⟩
  rcases parts_cases id with ⟨q, same, spelled⟩ | ⟨detail, refused⟩
  · rw [read] at same
    cases same
    exact spelled
  · rw [read] at refused
    cases refused

theorem refused_iff {id : ModuleId} : id.Refused ↔ ∀ p, id.parts ≠ .ok p := by
  constructor
  · rintro ⟨detail, refused⟩ p read
    rw [read] at refused
    cases refused
  · intro unread
    rcases parts_cases id with ⟨p, read, -⟩ | refused
    · exact absurd read (unread p)
    · exact refused

/-! ## What is refused -/

namespace Spells

variable {cs : List Char} {role : Role} {serial : Nat} {address : Option Net.SocketAddress}

/-- There is no sign and no blank. -/
theorem plain (spelled : Spells cs role serial address) :
    ∀ c ∈ cs, c ≠ '+' ∧ c ≠ '-' ∧ Text.isBlank c = false := by
  have shown {c : Char} (least : 0x2E ≤ c.toNat) (most : c.toNat ≤ 0x7E) :
      c ≠ '+' ∧ c ≠ '-' ∧ Text.isBlank c = false := by
    refine ⟨?_, ?_, ?_⟩
    · rintro rfl
      exact absurd least (by decide)
    · rintro rfl
      exact absurd least (by decide)
    · simp [Text.isBlank]
      omega
  cases spelled with
  | identifier letters number behind =>
      intro c member
      rcases List.mem_cons.mp member with rfl | member
      · simp only [Role.letters, List.mem_cons, List.not_mem_nil, or_false] at letters
        rcases letters with rfl | rfl
        · cases role <;> decide
        · cases role <;> decide
      · rcases List.mem_append.mp member with digit | member
        · have bounds := number.digits c digit
          simp only [Char.isDigit, Bool.and_eq_true, decide_eq_true_eq, ge_iff_le,
            UInt32.le_iff_toNat_le] at bounds
          change 48 ≤ c.toNat ∧ c.toNat ≤ 57 at bounds
          exact shown (by omega) (by omega)
        · cases behind with
          | nothing => cases member
          | bar found =>
              rcases List.mem_cons.mp member with rfl | member
              · decide
              · have inside := Net.socketText_of_ofText? found c member
                simp only [Net.isSocketChar, Bool.or_eq_true, List.contains_iff_mem] at inside
                rcases inside with inside | marks
                · have bounds := Net.isAddressChar_bounds inside
                  exact shown bounds.1 (by omega)
                · simp only [List.mem_cons, List.not_mem_nil, or_false] at marks
                  rcases marks with rfl | rfl | rfl <;> decide

/-- There is one bar at most. -/
theorem count_bar (spelled : Spells cs role serial address) : cs.count '|' ≤ 1 := by
  cases spelled with
  | identifier letters number behind =>
      rename_i letter digits tail
      have noBar : letter ≠ '|' := by
        rintro rfl
        revert letters
        cases role <;> decide
      rw [List.count_cons_of_ne noBar, List.count_append,
        List.count_eq_zero_of_not_mem (bar_not_mem_digits number.digits)]
      cases behind with
      | nothing => simp
      | bar found =>
          rw [List.count_cons_self, List.count_eq_zero_of_not_mem (bar_not_mem_address found)]

variable {letter : Char} {rest : List Char}

/-- A digit stands behind the letter. -/
theorem digit_behind (spelled : Spells (letter :: rest) role serial address) :
    ∃ c ∈ rest.head?, c.isDigit = true := by
  cases spelled with
  | identifier letters number behind =>
      rename_i digits tail
      obtain ⟨c, others, rfl⟩ := List.exists_cons_of_ne_nil number.filled
      exact ⟨c, rfl, number.digits c List.mem_cons_self⟩

/-- All digits behind the letter are digits of the serial number. -/
theorem le_serial {ds : List Char} (all : ∀ c ∈ ds, c.isDigit = true)
    (spelled : Spells (letter :: (ds ++ rest)) role serial address) :
    Nat.ofDigitChars 10 ds 0 ≤ serial := by
  generalize text : letter :: (ds ++ rest) = cs at spelled
  cases spelled with
  | identifier letters number behind =>
      rename_i _ digits tail
      obtain ⟨-, same⟩ := List.cons.inj text
      rw [← number.value]
      rcases List.append_eq_append_iff.mp same with ⟨more, rfl, -⟩ | ⟨more, rfl, later⟩
      · rw [Nat.ofDigitChars_append]
        exact le_ofDigitChars more _
      · cases more with
        | nil => rw [List.append_nil]
        | cons c others =>
            have digit := all c (by simp)
            cases behind with
            | nothing => cases later
            | bar found =>
                obtain ⟨rfl, -⟩ := List.cons.inj later
                exact absurd digit (by decide)

/-- Zeros in front of the digits do not count. -/
theorem zeros (spelled : Spells (letter :: rest) role serial address) (n : Nat) :
    Spells (letter :: (List.replicate n '0' ++ rest)) role serial address := by
  have value (ds : List Char) : Nat.ofDigitChars 10 (List.replicate n '0' ++ ds) 0 =
      Nat.ofDigitChars 10 ds 0 := by
    induction n with
    | zero => rfl
    | succ n ih => exact ih
  cases spelled with
  | identifier letters number behind =>
      rename_i digits tail
      have longer : Number (List.replicate n '0' ++ digits) serial := by
        refine ⟨by simp [number.filled], fun c member => ?_, (value digits).trans number.value⟩
        rcases List.mem_append.mp member with zero | digit
        · rw [List.eq_of_mem_replicate zero]
          rfl
        · exact number.digits c digit
      have spelled := Spells.identifier letters longer behind
      rwa [List.append_assoc] at spelled

end Spells

/-- **Identifiers are what the grammar spells.**  A text has parts exactly if it is a letter of a role,
digits with a number of at most 64 bits, and nothing or a bar and an address behind them; its parts are
that role, that number and that address.  So a text is refused if there is a sign or a blank in it, if no
digit stands behind its first character, if it has a second bar, and if the digits behind its first
character make a number that is too large, whatever follows them.  Zeros in front of the digits are
accepted and change no part. -/
theorem identifiers_are_spelled :
    (∀ id : ModuleId, (∃ p, id.parts = .ok p) ↔
      ∃ role serial address, Spells id.text.toList role serial address ∧ serial ≤ 2 ^ 64 - 1) ∧
    (∀ (id : ModuleId) (p : Parts),
      id.parts = .ok p ↔ Spells id.text.toList p.role p.serial.toNat p.address) ∧
    (∀ id : ModuleId, (∃ c ∈ id.text.toList, c = '+' ∨ c = '-' ∨ Text.isBlank c = true) →
      id.Refused) ∧
    (∀ (letter : Char) (rest : List Char), (∀ c ∈ rest.head?, c.isDigit = false) →
      Refused ⟨String.ofList (letter :: rest)⟩) ∧
    (∀ id : ModuleId, 2 ≤ id.text.toList.count '|' → id.Refused) ∧
    (∀ (letter : Char) (digits rest : List Char), (∀ c ∈ digits, c.isDigit = true) →
      2 ^ 64 ≤ Nat.ofDigitChars 10 digits 0 →
      Refused ⟨String.ofList (letter :: (digits ++ rest))⟩) ∧
    (∀ (letter : Char) (rest : List Char) (n : Nat) (p : Parts),
      parts ⟨String.ofList (letter :: rest)⟩ = .ok p →
      parts ⟨String.ofList (letter :: (List.replicate n '0' ++ rest))⟩ = .ok p) := by
  refine ⟨fun id => ?_, fun id p => parts_eq_ok_iff, fun id ⟨c, member, marks⟩ => ?_,
    fun letter rest first => ?_, fun id bars => ?_, fun letter digits rest all large => ?_,
    fun letter rest n p read => ?_⟩
  · constructor
    · rintro ⟨p, read⟩
      have lt := p.serial.toNat_lt
      exact ⟨p.role, p.serial.toNat, p.address, parts_eq_ok_iff.mp read, by omega⟩
    · rintro ⟨role, serial, address, spelled, fits⟩
      have same : (UInt64.ofNat serial).toNat = serial :=
        UInt64.toNat_ofNat_of_lt' (show serial < 2 ^ 64 by omega)
      refine ⟨⟨role, .ofNat serial, address⟩, parts_eq_ok_iff.mpr ?_⟩
      rwa [same]
  · refine refused_iff.mpr fun p read => ?_
    obtain ⟨plus, minus, blank⟩ := (parts_eq_ok_iff.mp read).plain c member
    rcases marks with rfl | rfl | white
    · exact plus rfl
    · exact minus rfl
    · rw [white] at blank
      cases blank
  · refine refused_iff.mpr fun p read => ?_
    have spelled := parts_eq_ok_iff.mp read
    rw [String.toList_ofList] at spelled
    obtain ⟨c, head, digit⟩ := spelled.digit_behind
    rw [first c head] at digit
    cases digit
  · refine refused_iff.mpr fun p read => ?_
    have one := (parts_eq_ok_iff.mp read).count_bar
    omega
  · refine refused_iff.mpr fun p read => ?_
    have spelled := parts_eq_ok_iff.mp read
    rw [String.toList_ofList] at spelled
    have least := spelled.le_serial all
    have most := p.serial.toNat_lt
    omega
  · have spelled := parts_eq_ok_iff.mp read
    rw [String.toList_ofList] at spelled
    refine parts_eq_ok_iff.mpr ?_
    rw [String.toList_ofList]
    exact spelled.zeros n

/-- Zeros in front of the digits, and a sign, no digits, a second bar and a number of 65 bits. -/
theorem identifiers_are_spelled_strictly :
    parts ⟨"d5|[::1]:9000"⟩ = .ok ⟨.downloader, 5, some (.v6 ⟨#v[0, 0, 0, 0, 0, 0, 0, 1]⟩ 0 9000)⟩ ∧
      parts ⟨"d005|[::1]:9000"⟩ =
        .ok ⟨.downloader, 5, some (.v6 ⟨#v[0, 0, 0, 0, 0, 0, 0, 1]⟩ 0 9000)⟩ ∧
      Refused ⟨"A+5"⟩ ∧ Refused ⟨"P|[::1]:9000"⟩ ∧ Refused ⟨"P5|1|[::1]:9000"⟩ ∧
      Refused ⟨"D18446744073709551616"⟩ := by
  obtain ⟨-, -, plain, filled, oneBar, small, zeros⟩ := identifiers_are_spelled
  have read : parts ⟨"d5|[::1]:9000"⟩ =
      .ok ⟨.downloader, 5, some (.v6 ⟨#v[0, 0, 0, 0, 0, 0, 0, 1]⟩ 0 9000)⟩ := by decide
  exact ⟨read, zeros 'd' "5|[::1]:9000".toList 2 _ read, plain _ ⟨'+', by decide, by decide⟩,
    filled 'P' "|[::1]:9000".toList (by simp), oneBar _ (by decide),
    small 'D' "18446744073709551616".toList [] (by simp) (by decide)⟩

end ModuleId

end CrawlMesh
