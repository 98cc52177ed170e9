/-
# Trimmed texts

Trimming takes a stretch off an end of a text and stops at the first character that does not count
(`trimStartWith_spec`, `trimEndWith_spec`).  A text that does not end in what is taken off is left alone
(`trimEndWith_eq_self`), and what is in front of it does not matter (`trimEndWith_append`).
-/
import CrawlMesh.Proofs.Text.Splitting
import CrawlMesh.Text.Blank
import Mathlib.Data.List.TakeWhile

namespace CrawlMesh.Text

set_option autoImplicit false

section Lists

variable {α : Type} {p : α → Bool}

theorem dropEndWhile_append_stop {a b : List α} (stop : ∀ x ∈ a.getLast?, p x = false)
    (all : ∀ x ∈ b, p x = true) : dropEndWhile p (a ++ b) = a := by
  rw [dropEndWhile, List.reverse_append, dropWhile_append_stop, List.reverse_reverse]
  · exact fun x member => all x (List.mem_reverse.mp member)
  · rwa [List.head?_reverse]

theorem dropEndWhile_spec (p : α → Bool) (l : List α) :
    ∃ back, l = dropEndWhile p l ++ back ∧ (∀ x ∈ back, p x = true) ∧
      ∀ x ∈ (dropEndWhile p l).getLast?, p x = false := by
  refine ⟨(l.reverse.takeWhile p).reverse, ?_, fun x member => ?_, fun x last => ?_⟩
  · rw [dropEndWhile, ← List.reverse_append, List.takeWhile_append_dropWhile, List.reverse_reverse]
  · exact List.mem_takeWhile_imp (List.mem_reverse.mp member)
  · rw [dropEndWhile, List.getLast?_reverse, Option.mem_def] at last
    have stops := List.head?_dropWhile_not p l.reverse
    rw [last] at stops
    exact stops

end Lists

variable {p : Char → Bool} {s t : String} {c : Char}

theorem trimStartWith_spec (p : Char → Bool) (s : String) :
    ∃ front, s.toList = front ++ (trimStartWith p s).toList ∧ ∀ c ∈ front, p c = true := by
  refine ⟨s.toList.takeWhile p, ?_, fun c member => List.mem_takeWhile_imp member⟩
  rw [trimStartWith, String.toList_ofList, List.takeWhile_append_dropWhile]

theorem trimEndWith_spec (p : Char → Bool) (s : String) :
    ∃ back, s.toList = (trimEndWith p s).toList ++ back ∧ (∀ c ∈ back, p c = true) ∧
      ∀ c ∈ (trimEndWith p s).toList.getLast?, p c = false := by
  rw [trimEndWith, String.toList_ofList]
  exact dropEndWhile_spec p s.toList

theorem mem_of_mem_trimStartWith (member : c ∈ (trimStartWith p s).toList) : c ∈ s.toList := by
  obtain ⟨front, text, -⟩ := trimStartWith_spec p s
  rw [text]
  exact List.mem_append_right _ member

theorem mem_of_mem_trimEndWith (member : c ∈ (trimEndWith p s).toList) : c ∈ s.toList := by
  obtain ⟨back, text, -⟩ := trimEndWith_spec p s
  rw [text]
  exact List.mem_append_left _ member

theorem mem_of_mem_trim (member : c ∈ (trim s).toList) : c ∈ s.toList := by
  rw [trim, String.toList_ofList] at member
  obtain ⟨back, text, -⟩ := dropEndWhile_spec isBlank (s.toList.dropWhile isBlank)
  apply (List.dropWhile_sublist isBlank).subset
  rw [text]
  exact List.mem_append_left _ member

theorem trimStartWith_eq_self (stop : ∀ c ∈ s.toList, p c = false) : trimStartWith p s = s := by
  rw [trimStartWith, ← String.toList_inj, String.toList_ofList]
  exact dropWhile_append_stop (a := []) (by simp) fun c first => stop c (List.mem_of_head? first)

theorem trimEndWith_eq_self (stop : ∀ c ∈ s.toList.getLast?, p c = false) : trimEndWith p s = s := by
  have same := dropEndWhile_append_stop (b := []) stop (by simp)
  rw [trimEndWith, ← String.toList_inj, String.toList_ofList]
  rwa [List.append_nil] at same

theorem trim_eq_self (full : ∀ c ∈ s.toList, isBlank c = false) : trim s = s := by
  have front : s.toList.dropWhile isBlank = s.toList :=
    dropWhile_append_stop (a := []) (by simp) fun c first => full c (List.mem_of_head? first)
  have back : trimEndWith isBlank s = s :=
    trimEndWith_eq_self fun c last => full c (List.mem_of_getLast? last)
  rw [trim, front]
  exact back

/-- What stands in front is left alone if something of the text behind it is. -/
theorem trimEndWith_append (filled : trimEndWith p t ≠ "") :
    trimEndWith p (s ++ t) = s ++ trimEndWith p t := by
  obtain ⟨back, text, all, stop⟩ := trimEndWith_spec p t
  have filled : (trimEndWith p t).toList ≠ [] := fun empty => filled (String.toList_inj.mp empty)
  rw [← String.toList_inj, String.toList_append]
  conv_lhs => rw [trimEndWith, String.toList_ofList, String.toList_append, text, ← List.append_assoc]
  refine dropEndWhile_append_stop ?_ all
  rwa [List.getLast?_append_of_ne_nil _ filled]

end CrawlMesh.Text
