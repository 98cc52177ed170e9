/-
# Identifiers tell their parts

An identifier is written from a role, a serial number and perhaps an address (`ModuleId.of`), and is
taken apart again (`ModuleId.parts`).

* What is written spells the parts of which it was made: the capital letter of the role, the decimal
  digits of the serial number, and behind a bar the text of the address, which is read as that address
  (`Net.ofText?_text`).  So it has these parts (`parts_of`).
* Other texts have parts as well, those with a small letter or with zeros in front of the serial number.
  What is written from these parts is another identifier with the same parts, and no two parts are
  written alike (`identifiers_tell_parts`).
-/
import CrawlMesh.Proofs.Module.Grammar

namespace CrawlMesh

set_option autoImplicit false

namespace ModuleId

/-- A serial number is written in its digits. -/
theorem number_toDigits (n : Nat) : Number (Nat.toDigits 10 n) n :=
  ⟨Nat.toDigits_ne_nil, fun _ => isDigit_of_mem_decimal, Nat.ofDigitChars_ten_toDigits⟩

/-- An identifier has the parts of which it was made. -/
theorem parts_of (p : Parts) : (of p).parts = .ok p := by
  obtain ⟨role, serial, address⟩ := p
  have letters : role.letter ∈ role.letters := List.mem_cons_self
  cases address with
  | none =>
      have text : (of ⟨role, serial, none⟩).text.toList =
          role.letter :: (Nat.toDigits 10 serial.toNat ++ []) := by
        simp [of, toString]
      refine parts_eq_ok_iff.mpr ?_
      rw [text]
      exact .identifier letters (number_toDigits _) .nothing
  | some a =>
      have text : (of ⟨role, serial, some a⟩).text.toList =
          role.letter :: (Nat.toDigits 10 serial.toNat ++ '|' :: a.text.toList) := by
        simp [of, toString]
      refine parts_eq_ok_iff.mpr ?_
      rw [text]
      exact .identifier letters (number_toDigits _) (.bar (Net.ofText?_text a))

/-- **Identifiers tell their parts.**  An identifier that is written for a role, a serial number and an
address, if there is one, has exactly these parts.  Hence what is written from the parts of any text
that has parts has the same parts, and different parts are written differently. -/
theorem identifiers_tell_parts :
    (∀ (role : Role) (serial : UInt64) (address : Option Net.SocketAddress),
      (of ⟨role, serial, address⟩).parts = .ok ⟨role, serial, address⟩) ∧
    (∀ (id : ModuleId) (p : Parts), id.parts = .ok p → (of p).parts = .ok p) ∧
    Function.Injective of := by
  refine ⟨fun role serial address => parts_of ⟨role, serial, address⟩, fun _ p _ => parts_of p, ?_⟩
  intro p q same
  have parts := parts_of p
  rw [same, parts_of q] at parts
  exact (Except.ok.inj parts).symm

/-- A small letter, zeros in front, and a mapped address in hexadecimal digits. -/
theorem identifiers_tell_parts_unusual :
    (⟨"p007|[::FFFF:0102:304]:09000"⟩ : ModuleId).parts =
        .ok ⟨.pipeline, 7, some (.v6 ⟨#v[0, 0, 0, 0, 0, 0xFFFF, 0x0102, 0x0304]⟩ 0 9000)⟩ ∧
      of ⟨.pipeline, 7, some (.v6 ⟨#v[0, 0, 0, 0, 0, 0xFFFF, 0x0102, 0x0304]⟩ 0 9000)⟩ =
        ⟨"P7|[::ffff:1.2.3.4]:9000"⟩ ∧
      (of ⟨.pipeline, 7, some (.v6 ⟨#v[0, 0, 0, 0, 0, 0xFFFF, 0x0102, 0x0304]⟩ 0 9000)⟩).parts =
        .ok ⟨.pipeline, 7, some (.v6 ⟨#v[0, 0, 0, 0, 0, 0xFFFF, 0x0102, 0x0304]⟩ 0 9000)⟩ := by
  have read : (⟨"p007|[::FFFF:0102:304]:09000"⟩ : ModuleId).parts =
      .ok ⟨.pipeline, 7, some (.v6 ⟨#v[0, 0, 0, 0, 0, 0xFFFF, 0x0102, 0x0304]⟩ 0 9000)⟩ := by decide
  exact ⟨read, by decide, identifiers_tell_parts.2.1 _ _ read⟩

end ModuleId

end CrawlMesh
