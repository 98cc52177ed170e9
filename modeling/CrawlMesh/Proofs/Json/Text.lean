/-
# Written values are read back

The text of a value is taken apart into its characters (`Json.chars`), each part in the form in which
a reader meets it: a text as what stands for its characters (`escaped`), the items of a list and the
fields of an object as a first one and those behind it (`moreItems`, `moreFields`).  What follows a
value is the end, a comma or a closing bracket (`Closes`), and none of these can be taken for a digit
of a number.

Reading is by fuel, and the three readers call one another, so the induction is on the fuel and carries
all three (`ReadsBack`): what they need is at most a step for each character.  Only values without
floating-point numbers are read back as they are (`Exact`), and only if their lists and objects do not
nest deeper than is read; deeper ones are refused (`parse?_render`).
-/
import CrawlMesh.Json.Parser
import CrawlMesh.Json.Printer
import CrawlMesh.Proofs.Number.Digits

namespace CrawlMesh

set_option autoImplicit false

namespace Json

/-! ## The characters of a text -/

/-- The characters that stand for one character of a text. -/
def escaped (c : Char) : List Char := (pushEscaped "" c).toList

/-- A text in quotation marks. -/
def quoted (s : String) : List Char := '"' :: (s.toList.flatMap escaped ++ ['"'])

theorem pushEscaped_eq (acc : String) (c : Char) :
    (pushEscaped acc c).toList = acc.toList ++ escaped c := by
  unfold escaped pushEscaped
  split
  case h_8 => split <;> simp
  all_goals simp

theorem foldl_pushEscaped (cs : List Char) (acc : String) :
    (cs.foldl pushEscaped acc).toList = acc.toList ++ cs.flatMap escaped := by
  induction cs generalizing acc with
  | nil => simp
  | cons c rest ih => simp [ih, pushEscaped_eq]

theorem toList_pushText (acc s : String) : (pushText acc s).toList = acc.toList ++ quoted s := by
  simp [pushText, quoted, String.foldl_eq_foldl_toList, foldl_pushEscaped]

mutual

/-- The characters of a value. -/
def chars : Json → List Char
  | .null => "null".toList
  | .bool b => (if b then "true" else "false").toList
  | .number n => n.render.toList
  | .text s => quoted s
  | .list [] => ['[', ']']
  | .list (j :: rest) => '[' :: (chars j ++ moreItems rest)
  | .object [] => ['\x7b', '\x7d']
  | .object ((k, v) :: rest) => '\x7b' :: (quoted k ++ ':' :: (chars v ++ moreFields rest))

/-- The items of a list behind others, up to its end. -/
def moreItems : List Json → List Char
  | [] => [']']
  | j :: rest => ',' :: (chars j ++ moreItems rest)

/-- The fields of an object behind others, up to its end. -/
def moreFields : List (String × Json) → List Char
  | [] => ['\x7d']
  | (k, v) :: rest => ',' :: (quoted k ++ ':' :: (chars v ++ moreFields rest))

end

mutual

theorem toList_write : ∀ (j : Json) (acc : String), (write acc j).toList = acc.toList ++ chars j
  | .null, acc => by simp [write, chars]
  | .bool true, acc => by simp [write, chars]
  | .bool false, acc => by simp [write, chars]
  | .number n, acc => by simp [write, chars]
  | .text s, acc => by simp [write, chars, toList_pushText]
  | .list [], acc => by simp [write, pushItems, chars]
  | .list (j :: rest), acc => by
      simp [write, pushItems, chars, toList_pushItems rest, toList_write j]
  | .object [], acc => by simp [write, pushFields, chars]
  | .object ((k, v) :: rest), acc => by
      simp [write, pushFields, chars, toList_pushFields rest, toList_write v, toList_pushText]

theorem toList_pushItems : ∀ (items : List Json) (acc : String),
    (pushItems acc false items).toList ++ [']'] = acc.toList ++ moreItems items
  | [], acc => by simp [pushItems, moreItems]
  | j :: rest, acc => by
      simp [pushItems, moreItems, toList_pushItems rest, toList_write j]

theorem toList_pushFields : ∀ (fields : List (String × Json)) (acc : String),
    (pushFields acc false fields).toList ++ ['\x7d'] = acc.toList ++ moreFields fields
  | [], acc => by simp [pushFields, moreFields]
  | (k, v) :: rest, acc => by
      simp [pushFields, moreFields, toList_pushFields rest, toList_write v, toList_pushText]

end

theorem toList_render (j : Json) : j.render.toList = chars j := by
  simp [render, toList_write]

/-! ## Texts -/

theorem hexDigit?_digitChar : ∀ d < 16, hexDigit? (Nat.digitChar d) = some d := by decide

theorem hex4_of_lt : ∀ n < 32,
    (hex4 n).toList = ['0', '0', Nat.digitChar (n / 16), Nat.digitChar (n % 16)] := by decide

/-- The escape of a control character is read back. -/
theorem readUnicodeEscape_hex4 {n : Nat} (control : n < 32) (rest : List Char) :
    readUnicodeEscape ((hex4 n).toList ++ rest) = some (Char.ofNat n, rest) := by
  have high := hexDigit?_digitChar (n / 16) (by omega)
  have low := hexDigit?_digitChar (n % 16) (by omega)
  have zero : hexDigit? '0' = some 0 := by decide
  have value : n / 16 * 16 + n % 16 = n := by omega
  have below : ¬ 0xDC00 ≤ n := by omega
  have below' : ¬ 0xD800 ≤ n := by omega
  simp [hex4_of_lt n control, readUnicodeEscape, readHex4, high, low, zero, value, below, below']

/-- A character is read back from what stands for it. -/
theorem readText_escaped (fuel : Nat) (acc : String) (c : Char) (rest : List Char) :
    readText (fuel + 1) acc (escaped c ++ rest) = readText fuel (acc.push c) rest := by
  unfold escaped pushEscaped
  split
  case h_8 noQuote noSlash _ _ _ _ _ =>
    split
    · rename_i control
      have shape : ("" ++ "\\u" ++ hex4 c.toNat).toList = '\\' :: 'u' :: (hex4 c.toNat).toList := by
        simp
      rw [shape, List.cons_append, List.cons_append, readText, readUnicodeEscape_hex4 control,
        Char.ofNat_toNat]
      rfl
    · rename_i noControl
      rw [show ("".push c).toList ++ rest = c :: rest by simp, readText]
      · simp [noControl]
      · exact noQuote
      · exact noSlash
  all_goals rfl

/-- The characters of a text are read up to the mark that closes it, with fuel for each of them. -/
theorem readText_flatMap (cs : List Char) (fuel : Nat) (acc : String) (rest : List Char)
    (enough : cs.length < fuel) :
    readText fuel acc (cs.flatMap escaped ++ '"' :: rest) =
      some (acc ++ String.ofList cs, rest) := by
  induction cs generalizing fuel acc with
  | nil =>
      obtain ⟨fuel, rfl⟩ := Nat.exists_eq_succ_of_ne_zero (Nat.ne_of_gt enough)
      simp [readText]
  | cons c cs ih =>
      obtain ⟨fuel, rfl⟩ := Nat.exists_eq_succ_of_ne_zero (Nat.ne_of_gt (Nat.zero_lt_of_lt enough))
      rw [List.flatMap_cons, List.append_assoc, readText_escaped, ih]
      · congr 2
        apply String.toList_inj.mp
        simp
      · simpa using enough

theorem one_le_length_escaped (c : Char) : 1 ≤ (escaped c).length := by
  have grows := congrArg List.length (pushEscaped_eq "x" c)
  unfold pushEscaped at grows
  split at grows
  case h_8 => split at grows <;> simp at grows <;> omega
  all_goals simp at grows; omega

theorem length_le_flatMap_escaped (cs : List Char) : cs.length ≤ (cs.flatMap escaped).length := by
  induction cs with
  | nil => exact Nat.le_refl 0
  | cons c rest ih =>
      have one := one_le_length_escaped c
      simp only [List.flatMap_cons, List.length_append, List.length_cons]
      omega

/-- What stands between quotation marks is read as the text itself. -/
theorem readText_quoted (s : String) (rest : List Char) :
    readText ((s.toList.flatMap escaped ++ '"' :: rest).length + 1) ""
      (s.toList.flatMap escaped ++ '"' :: rest) = some (s, rest) := by
  have enough := length_le_flatMap_escaped s.toList
  rw [readText_flatMap]
  · simp
  · simp only [List.length_append, List.length_cons]
    omega

/-! ## Numbers -/

/-- What may stand behind a value: nothing, or the character that ends it or parts it from the next. -/
def Closes (rest : List Char) : Prop := ∀ c ∈ rest.head?, c = ',' ∨ c = ']' ∨ c = '\x7d'

/-- Digits are taken while their number stays in bounds, up to what is no digit. -/
theorem takeDigits_append {ds rest : List Char} (digits : ∀ c ∈ ds, c.isDigit = true)
    (closes : Closes rest) (acc taken : Nat) (bound : Nat.ofDigitChars 10 ds acc < natBound) :
    takeDigits acc taken (ds ++ rest) =
      (Nat.ofDigitChars 10 ds acc, taken + ds.length, false, rest) := by
  induction ds generalizing acc taken with
  | nil =>
      cases rest with
      | nil => rfl
      | cons c rest =>
          have none : Decimal.digit? c = none := by
            rcases closes c rfl with rfl | rfl | rfl <;> decide
          simp [takeDigits, none]
  | cons c ds ih =>
      have digit := digit?_of_isDigit (digits c List.mem_cons_self)
      rw [Nat.ofDigitChars_cons, Nat.mul_comm] at bound ⊢
      have small := Nat.lt_of_le_of_lt (le_ofDigitChars ds _) bound
      rw [List.cons_append, takeDigits, digit]
      simp only [if_pos small]
      rw [ih (fun d member => digits d (List.mem_cons_of_mem c member)) _ _ bound]
      simp only [List.length_cons, Prod.mk.injEq, true_and, and_true]
      omega

/-- The digits of a number are read as a number without point and exponent. -/
theorem readUnsigned_toDigits {n : Nat} (negative : Bool) (bound : n < natBound) {rest : List Char}
    (closes : Closes rest) :
    readUnsigned negative (Nat.toDigits 10 n ++ rest) =
      readUnsigned.integer negative n 0 false rest := by
  have whole (extra : Nat) :
      readUnsigned.number negative n extra false rest = readUnsigned.integer negative n extra false rest := by
    cases rest with
    | nil => rfl
    | cons c rest => rcases closes c rfl with rfl | rfl | rfl <;> rfl
  have digits : ∀ c ∈ Nat.toDigits 10 n, c.isDigit = true := fun c => isDigit_of_mem_decimal
  have taken := takeDigits_append digits closes 0 0 (by rwa [Nat.ofDigitChars_ten_toDigits])
  rw [Nat.ofDigitChars_ten_toDigits] at taken
  -- zero is read apart from other numbers, for no digit may follow a leading zero
  rcases Nat.eq_zero_or_pos n with rfl | pos
  · cases rest with
    | nil => rfl
    | cons c rest =>
        have noDigit : c.isDigit = false := by
          rcases closes c rfl with rfl | rfl | rfl <;> decide
        rw [← whole]
        simp [readUnsigned, noDigit]
  · obtain ⟨c, ds, shape, first⟩ := toDigits_of_pos pos
    rw [shape] at taken digits ⊢
    rw [← whole, List.cons_append, readUnsigned]
    · rw [if_pos (digits c List.mem_cons_self), ← List.cons_append, taken]
      rfl
    · intro _ _ zero
      exact absurd zero first

end Json

/-- A number that is written and read without loss: an integer of sixty-four bits, signed or not. -/
def JsonNumber.Exact : JsonNumber → Prop
  | .int n => -0x8000000000000000 ≤ n ∧ n < UInt64.size
  | .real _ => False

namespace Json

mutual

/-- Every number in a value is as `number` says, and the names of every object as `names` says. -/
def Every (number : JsonNumber → Prop) (names : List String → Prop) : Json → Prop
  | .number n => number n
  | .list items => EveryItem number names items
  | .object fields => names (fields.map Prod.fst) ∧ EveryField number names fields
  | _ => True

def EveryItem (number : JsonNumber → Prop) (names : List String → Prop) : List Json → Prop
  | [] => True
  | j :: rest => Every number names j ∧ EveryItem number names rest

def EveryField (number : JsonNumber → Prop) (names : List String → Prop) :
    List (String × Json) → Prop
  | [] => True
  | (_, v) :: rest => Every number names v ∧ EveryField number names rest

end

section Every

variable {number : JsonNumber → Prop} {names : List String → Prop}

@[simp] theorem every_null : Every number names .null := by simp [Every]

@[simp] theorem every_bool (b : Bool) : Every number names (.bool b) := by simp [Every]

@[simp] theorem every_text (s : String) : Every number names (.text s) := by simp [Every]

@[simp] theorem every_number (n : JsonNumber) : Every number names (.number n) ↔ number n := by
  simp [Every]

@[simp] theorem every_list (items : List Json) :
    Every number names (.list items) ↔ ∀ j ∈ items, Every number names j := by
  have all : EveryItem number names items ↔ ∀ j ∈ items, Every number names j := by
    induction items with
    | nil => simp [EveryItem]
    | cons j rest ih => simp [EveryItem, ih]
  rw [Every, all]

@[simp] theorem every_object (fields : List (String × Json)) :
    Every number names (.object fields) ↔
      names (fields.map Prod.fst) ∧ ∀ field ∈ fields, Every number names field.2 := by
  have all : EveryField number names fields ↔ ∀ field ∈ fields, Every number names field.2 := by
    induction fields with
    | nil => simp [EveryField]
    | cons field rest ih => simp [EveryField, ih]
  rw [Every, all]

end Every

/-- A value without floating-point numbers, whose integers have at most sixty-four bits. -/
def Exact (j : Json) : Prop := j.Every JsonNumber.Exact fun _ => True

mutual

/-- How deep lists and objects nest in a value. -/
def nesting : Json → Nat
  | .list items => nestingOfItems items + 1
  | .object fields => nestingOfFields fields + 1
  | _ => 0

def nestingOfItems : List Json → Nat
  | [] => 0
  | j :: rest => max j.nesting (nestingOfItems rest)

def nestingOfFields : List (String × Json) → Nat
  | [] => 0
  | (_, v) :: rest => max v.nesting (nestingOfFields rest)

end

/-! ## Values -/

theorem closes_moreItems (items : List Json) (rest : List Char) : Closes (moreItems items ++ rest) := by
  cases items <;> simp [moreItems, Closes]

theorem closes_moreFields (fields : List (String × Json)) (rest : List Char) :
    Closes (moreFields fields ++ rest) := by
  cases fields with
  | nil => simp [moreFields, Closes]
  | cons field fields => simp [moreFields, Closes]

/-- A character with which a value may begin. -/
def Begins (c : Char) : Prop :=
  c.isDigit = true ∨ c = 'n' ∨ c = 't' ∨ c = 'f' ∨ c = '"' ∨ c = '[' ∨ c = '\x7b' ∨ c = '-'

theorem skipBlanks_begins {c : Char} (begins : Begins c) (cs : List Char) :
    skipBlanks (c :: cs) = c :: cs := by
  unfold skipBlanks
  rw [List.dropWhile_cons_of_neg]
  intro blank
  simp only [Bool.or_eq_true, beq_iff_eq] at blank
  rcases blank with ((rfl | rfl) | rfl) | rfl <;> revert begins <;> unfold Begins <;> decide

/-- An integer in digits, behind a sign if it is negative. -/
theorem toList_render_int (n : Int) : (JsonNumber.int n).render.toList =
    if n < 0 then '-' :: Nat.toDigits 10 n.natAbs else Nat.toDigits 10 n.natAbs := by
  cases n with
  | ofNat n =>
      have natural : ¬ Int.ofNat n < 0 := by simp
      rw [if_neg natural]
      show (Nat.repr n).toList = _
      simp [Nat.toList_repr]
  | negSucc n =>
      rw [if_pos (Int.negSucc_lt_zero n)]
      show ("-" ++ Nat.repr (n + 1)).toList = _
      simp [Nat.toList_repr]

theorem readValue_digit {c : Char} (digit : c.isDigit = true) (fuel depth : Nat) (cs : List Char) :
    readValue (fuel + 1) depth (c :: cs) =
      (readUnsigned false (c :: cs)).bind fun p => some (.number p.1, p.2) := by
  rw [readValue, skipBlanks_begins (Or.inl digit)]
  split
  case h_8 => rfl
  all_goals rename_i same; injection same with first _; subst first; cases digit

/-- An integer is read back from its digits. -/
theorem readValue_int {n : Int} (exact : (JsonNumber.int n).Exact) (fuel depth : Nat)
    {rest : List Char} (closes : Closes rest) :
    readValue (fuel + 1) depth ((JsonNumber.int n).render.toList ++ rest) =
      some (.number (.int n), rest) := by
  obtain ⟨low, high⟩ := exact
  have digits : ∀ c ∈ Nat.toDigits 10 n.natAbs, c.isDigit = true := fun c => isDigit_of_mem_decimal
  rw [toList_render_int]
  by_cases negative : n < 0
  · have bound : n.natAbs < natBound := by
      show n.natAbs < 2 ^ 64
      omega
    rw [if_pos negative, List.cons_append, readValue, skipBlanks_begins (by simp [Begins])]
    show (readUnsigned true (Nat.toDigits 10 n.natAbs ++ rest)).bind _ = _
    have inRange : ((n.natAbs == 0) || decide (n.natAbs > 0x8000000000000000)) = false := by
      simp only [Bool.or_eq_false_iff, beq_eq_false_iff_ne, decide_eq_false_iff_not]
      omega
    have value : -(n.natAbs : Int) = n := by omega
    rw [readUnsigned_toDigits true bound closes]
    simp only [readUnsigned.integer, Bool.false_eq_true, if_false, Bool.not_true, inRange, value,
      Option.bind_some]
  · have bound : n.natAbs < natBound := by
      show n.natAbs < 2 ^ 64
      have : n < 2 ^ 64 := high
      omega
    have value : (n.natAbs : Int) = n := by omega
    rw [if_neg negative]
    have read := readUnsigned_toDigits false bound closes
    cases shape : Nat.toDigits 10 n.natAbs with
    | nil => exact absurd shape Nat.toDigits_ne_nil
    | cons c ds =>
        rw [shape] at read digits
        rw [List.cons_append, readValue_digit (digits c List.mem_cons_self), ← List.cons_append, read]
        simp only [readUnsigned.integer, Bool.false_eq_true, if_false, Bool.not_false, if_true, value,
          Option.bind_some]

/-! ## Lists and objects -/

theorem begins_chars {j : Json} (exact : j.Exact) : ∃ c cs, chars j = c :: cs ∧ Begins c := by
  cases j with
  | null => exact ⟨'n', _, rfl, by simp [Begins]⟩
  | bool b =>
      cases b with
      | false => exact ⟨'f', _, rfl, by simp [Begins]⟩
      | true => exact ⟨'t', _, rfl, by simp [Begins]⟩
  | number n =>
      cases n with
      | real x => exact absurd exact (by simp [Exact, JsonNumber.Exact])
      | int n =>
          rw [chars, toList_render_int]
          split
          · exact ⟨'-', _, rfl, by simp [Begins]⟩
          · cases shape : Nat.toDigits 10 n.natAbs with
            | nil => exact absurd shape Nat.toDigits_ne_nil
            | cons c ds =>
                have member : c ∈ Nat.toDigits 10 n.natAbs := shape ▸ List.mem_cons_self
                exact ⟨c, ds, rfl, Or.inl (isDigit_of_mem_decimal member)⟩
  | text s => exact ⟨'"', _, rfl, by simp [Begins]⟩
  | list items => cases items <;> exact ⟨'[', _, rfl, by simp [Begins]⟩
  | object fields =>
      rcases fields with _ | ⟨⟨k, v⟩, rest⟩ <;> exact ⟨'\x7b', _, rfl, by simp [Begins]⟩

theorem one_le_length_chars {j : Json} (exact : j.Exact) : 1 ≤ (chars j).length := by
  obtain ⟨c, cs, shape, -⟩ := begins_chars exact
  simp [shape]

theorem readValue_list {c : Char} (begins : Begins c) (fuel depth : Nat) (cs : List Char) :
    readValue (fuel + 1) (depth + 1) ('[' :: c :: cs) =
      (readItems fuel depth [] (c :: cs)).map fun read => (.list read.1, read.2) := by
  rw [readValue, skipBlanks_begins (by simp [Begins])]
  simp only [skipBlanks_begins begins]
  split
  case h_1 same =>
    obtain rfl := (List.cons.inj same).1
    have never : ¬ Begins ']' := by unfold Begins; decide
    exact absurd begins never
  case h_2 => cases readItems fuel depth [] (c :: cs) <;> rfl

theorem readValue_object (fuel depth : Nat) (cs : List Char) :
    readValue (fuel + 1) (depth + 1) ('\x7b' :: '"' :: cs) =
      (readFields fuel depth [] ('"' :: cs)).map fun read => (.object read.1, read.2) := by
  have opening : Begins '"' := by simp [Begins]
  rw [readValue, skipBlanks_begins (by simp [Begins])]
  simp only [skipBlanks_begins opening]
  split
  case h_1 same => exact absurd (List.cons.inj same).1 (by decide)
  case h_2 => cases readFields fuel depth [] ('"' :: cs) <;> rfl

/-- With fuel for its characters, everything is read back that does not nest too deep. -/
structure ReadsBack (fuel : Nat) : Prop where
  value : ∀ (depth : Nat) {j : Json} {rest : List Char}, j.Exact → (chars j).length ≤ fuel →
    Closes rest →
    readValue fuel depth (chars j ++ rest) = if j.nesting ≤ depth then some (j, rest) else none
  items : ∀ (depth : Nat) (done : List Json) {j : Json} {items : List Json} (rest : List Char),
    (∀ i ∈ j :: items, i.Exact) → (chars j ++ moreItems items).length ≤ fuel →
    readItems fuel depth done (chars j ++ (moreItems items ++ rest)) =
      if nestingOfItems (j :: items) ≤ depth then some (done.reverse ++ j :: items, rest) else none
  fields : ∀ (depth : Nat) (done : List (String × Json)) {k : String} {v : Json}
    {fields : List (String × Json)} (rest : List Char),
    (∀ field ∈ (k, v) :: fields, field.2.Exact) →
    (quoted k ++ ':' :: (chars v ++ moreFields fields)).length ≤ fuel →
    readFields fuel depth done (quoted k ++ ':' :: (chars v ++ (moreFields fields ++ rest))) =
      if nestingOfFields ((k, v) :: fields) ≤ depth
      then some (done.reverse ++ (k, v) :: fields, rest) else none

section ReadsBack

variable {fuel : Nat} (reads : ReadsBack fuel)

include reads

theorem ReadsBack.value_succ (depth : Nat) {j : Json} {rest : List Char} (exact : j.Exact)
    (enough : (chars j).length ≤ fuel + 1) (closes : Closes rest) :
    readValue (fuel + 1) depth (chars j ++ rest) =
      if j.nesting ≤ depth then some (j, rest) else none := by
  cases j with
  | null => simp [chars, readValue, nesting, skipBlanks]
  | bool b => cases b <;> simp [chars, readValue, nesting, skipBlanks]
  | number n =>
      cases n with
      | real x => exact absurd exact (by simp [Exact, JsonNumber.Exact])
      | int n =>
          rw [chars, readValue_int (by simpa [Exact] using exact) fuel depth closes]
          simp [nesting]
  | text s =>
      rw [chars, quoted, List.cons_append, readValue, skipBlanks_begins (by simp [Begins]),
        List.append_assoc, List.singleton_append]
      show (readText _ "" _).bind _ = _
      rw [readText_quoted]
      simp [nesting]
  | list items =>
      cases items with
      | nil => cases depth <;> simp [chars, readValue, nesting, nestingOfItems, skipBlanks]
      | cons j items =>
          have exact : ∀ i ∈ j :: items, i.Exact := by simpa [Exact] using exact
          have room : (chars j ++ moreItems items).length ≤ fuel := by simpa [chars] using enough
          obtain ⟨c, cs, shape, begins⟩ := begins_chars (exact j List.mem_cons_self)
          rw [chars, List.cons_append, List.append_assoc]
          cases depth with
          | zero => simp [readValue, skipBlanks, nesting]
          | succ depth =>
              have read := reads.items depth [] rest exact room
              rw [shape, List.cons_append] at read ⊢
              rw [readValue_list begins, read, nesting]
              split <;> rename_i shallow <;> simp [shallow]
  | object fields =>
      cases fields with
      | nil => cases depth <;> simp [chars, readValue, nesting, nestingOfFields, skipBlanks]
      | cons field fields =>
          obtain ⟨k, v⟩ := field
          have exact : ∀ field ∈ (k, v) :: fields, field.2.Exact := by
            simp only [Exact, every_object] at exact
            exact exact.2
          have room : (quoted k ++ ':' :: (chars v ++ moreFields fields)).length ≤ fuel := by
            simpa [chars] using enough
          rw [chars, List.cons_append, List.append_assoc, List.cons_append, List.append_assoc]
          cases depth with
          | zero => simp [readValue, skipBlanks, nesting]
          | succ depth =>
              have read := reads.fields depth [] rest exact room
              rw [quoted, List.cons_append] at read ⊢
              rw [readValue_object, read, nesting]
              split <;> rename_i shallow <;> simp [shallow]

theorem ReadsBack.items_succ (depth : Nat) (done : List Json) {j : Json} {items : List Json}
    (rest : List Char) (exact : ∀ i ∈ j :: items, i.Exact)
    (enough : (chars j ++ moreItems items).length ≤ fuel + 1) :
    readItems (fuel + 1) depth done (chars j ++ (moreItems items ++ rest)) =
      if nestingOfItems (j :: items) ≤ depth then some (done.reverse ++ j :: items, rest) else none := by
  have first := exact j List.mem_cons_self
  have room : (chars j).length ≤ fuel := by
    have more : 1 ≤ (moreItems items).length := by cases items <;> simp [moreItems]
    rw [List.length_append] at enough
    omega
  rw [readItems, reads.value depth first room (closes_moreItems items rest)]
  by_cases shallow : j.nesting ≤ depth
  · rw [if_pos shallow]
    cases items with
    | nil => simp [moreItems, skipBlanks, nestingOfItems, shallow]
    | cons i items =>
        have next := reads.items depth (j :: done) rest
          (fun i member => exact i (List.mem_cons_of_mem j member))
          (by
            have := one_le_length_chars first
            simp only [moreItems, List.length_append, List.length_cons] at enough ⊢
            omega)
        rw [moreItems, List.cons_append, List.append_assoc]
        show readItems fuel depth (j :: done) (chars i ++ (moreItems items ++ rest)) = _
        have deepest : nestingOfItems (j :: i :: items) ≤ depth ↔ nestingOfItems (i :: items) ≤ depth := by
          rw [nestingOfItems]
          omega
        rw [next, List.reverse_cons, List.append_assoc, List.singleton_append]
        simp only [deepest]
  · have deep : ¬ nestingOfItems (j :: items) ≤ depth := by
      rw [nestingOfItems]
      omega
    rw [if_neg shallow, if_neg deep]
    rfl

theorem ReadsBack.fields_succ (depth : Nat) (done : List (String × Json)) {k : String} {v : Json}
    {fields : List (String × Json)} (rest : List Char)
    (exact : ∀ field ∈ (k, v) :: fields, field.2.Exact)
    (enough : (quoted k ++ ':' :: (chars v ++ moreFields fields)).length ≤ fuel + 1) :
    readFields (fuel + 1) depth done (quoted k ++ ':' :: (chars v ++ (moreFields fields ++ rest))) =
      if nestingOfFields ((k, v) :: fields) ≤ depth
      then some (done.reverse ++ (k, v) :: fields, rest) else none := by
  have first := exact (k, v) List.mem_cons_self
  have named : 2 ≤ (quoted k).length := by simp [quoted]
  have room : (chars v).length ≤ fuel := by
    simp only [List.length_append, List.length_cons] at enough
    omega
  rw [readFields, quoted, List.cons_append, skipBlanks_begins (by simp [Begins]), List.append_assoc,
    List.singleton_append]
  simp only [readText_quoted]
  show (readValue fuel depth (chars v ++ _)).bind _ = _
  rw [reads.value depth first room (closes_moreFields fields rest)]
  by_cases shallow : v.nesting ≤ depth
  · rw [if_pos shallow]
    cases fields with
    | nil => simp [moreFields, skipBlanks, nestingOfFields, shallow]
    | cons field fields =>
        obtain ⟨l, w⟩ := field
        have next := reads.fields depth ((k, v) :: done) rest
          (fun field member => exact field (List.mem_cons_of_mem (k, v) member))
          (by
            simp only [moreFields, List.length_append, List.length_cons] at enough ⊢
            omega)
        have deepest : nestingOfFields ((k, v) :: (l, w) :: fields) ≤ depth ↔
            nestingOfFields ((l, w) :: fields) ≤ depth := by
          rw [nestingOfFields]
          omega
        rw [moreFields, List.cons_append, List.append_assoc, List.cons_append, List.append_assoc]
        show readFields fuel depth ((k, v) :: done)
          (quoted l ++ ':' :: (chars w ++ (moreFields fields ++ rest))) = _
        rw [next, List.reverse_cons, List.append_assoc, List.singleton_append]
        simp only [deepest]
  · have deep : ¬ nestingOfFields ((k, v) :: fields) ≤ depth := by
      rw [nestingOfFields]
      omega
    rw [if_neg shallow, if_neg deep]
    rfl

end ReadsBack

theorem readsBack (fuel : Nat) : ReadsBack fuel := by
  induction fuel with
  | zero =>
      -- nothing is written without a character, so without fuel there is nothing to read
      refine ⟨?_, ?_, ?_⟩
      · intro _ j _ exact enough _
        have some := one_le_length_chars exact
        omega
      · intro _ _ j items _ exact enough
        have some := one_le_length_chars (exact j List.mem_cons_self)
        rw [List.length_append] at enough
        omega
      · intro _ _ k v fields _ _ enough
        simp only [List.length_append, List.length_cons] at enough
        omega
  | succ fuel ih => exact ⟨ih.value_succ, ih.items_succ, ih.fields_succ⟩

/-- **Written values are read back.**  The text of a value without floating-point numbers is read as
that value, unless its lists and objects nest deeper than is read. -/
theorem parse?_render {j : Json} (exact : j.Exact) :
    parse? j.render = if j.nesting ≤ maxNesting then some j else none := by
  have closes : Closes [] := by simp [Closes]
  have read := (readsBack ((chars j).length + 1)).value maxNesting exact (Nat.le_succ _) closes
  rw [List.append_nil] at read
  rw [parse?, toList_render, Option.bind_eq_bind, read]
  by_cases shallow : j.nesting ≤ maxNesting
  · rw [if_pos shallow, if_pos shallow]
    rfl
  · rw [if_neg shallow, if_neg shallow]
    rfl

end Json

end CrawlMesh
