import Mathlib.Data.List.TakeWhile
import Mathlib.Tactic.IntervalCases
import ReconcileFlow.Models
import ReconcileFlow.Support.Numerals

/-!
# Texts

Texts without spaces around them, which stripping leaves as they are, and the parts of a path.
-/

namespace ReconcileFlow

open Support

theorem isText_strip {value : String} (h : isBlank value = false) :
    isText (strip value) = true := by
  have hstrip := isBlank_strip h
  obtain ⟨c, hc, hspace⟩ : ∃ c ∈ (strip value).toList, isSpace c = false := by
    simpa [isBlank] using hstrip
  simp only [strip, String.toList_ofList] at hc
  set front := value.toList.dropWhile isSpace with hfront
  have hback : front.reverse.dropWhile isSpace ≠ [] := by
    intro hnil
    rw [hnil] at hc
    exact absurd hc List.not_mem_nil
  -- the last character stops the second loop, the first one the first loop
  refine Bool.and_eq_true_iff.mpr ⟨?_, ?_⟩
  · obtain ⟨ys, hys⟩ := List.dropWhile_suffix (l := front.reverse) isSpace
    have hsplit : front = (front.reverse.dropWhile isSpace).reverse ++ ys.reverse := by
      rw [← List.reverse_append, hys, List.reverse_reverse]
    have hne : (front.reverse.dropWhile isSpace).reverse ≠ [] := by
      simpa using hback
    have hhead : (front.reverse.dropWhile isSpace).reverse.head? = front.head? := by
      conv_rhs => rw [hsplit]
      rw [List.head?_append_of_ne_nil _ hne]
    rw [strip, String.toList_ofList, ← hfront, hhead]
    cases hf : front.head? with
    | none =>
      rw [List.head?_eq_none_iff] at hf
      simp [hf] at hback
    | some d =>
      have hd := List.head?_dropWhile_not isSpace value.toList
      rw [← hfront, hf] at hd
      simpa using hd
  · rw [strip, String.toList_ofList, ← hfront, List.getLast?_reverse]
    cases hl : (front.reverse.dropWhile isSpace).head? with
    | none => exact absurd (List.head?_eq_none_iff.mp hl) hback
    | some d =>
      have hd := List.head?_dropWhile_not isSpace front.reverse
      rw [hl] at hd
      simpa using hd

theorem strip_eq_empty {value : String} (h : isBlank value = true) : strip value = "" := by
  have hnil : value.toList.dropWhile isSpace = [] :=
    List.dropWhile_eq_nil_iff.mpr (List.all_eq_true.mp h)
  rw [strip, hnil]
  rfl

@[simp] theorem strip_strip (value : String) : strip (strip value) = strip value := by
  cases h : isBlank value with
  | true =>
    rw [strip_eq_empty h]
    rfl
  | false => exact strip_of_isText (isText_strip h)

/-- A text of characters that are no spaces. -/
theorem strip_of_forall {value : String} (h : ∀ c ∈ value.toList, isSpace c = false) :
    strip value = value := by
  have hfront : value.toList.dropWhile isSpace = value.toList := by
    refine List.dropWhile_eq_self_iff.mpr fun hlength => ?_
    rw [h _ (List.getElem_mem hlength)]
    exact Bool.false_ne_true
  have hback : value.toList.reverse.dropWhile isSpace = value.toList.reverse := by
    refine List.dropWhile_eq_self_iff.mpr fun hlength => ?_
    rw [h _ (List.mem_reverse.mp (List.getElem_mem hlength))]
    exact Bool.false_ne_true
  rw [strip, hfront, hback, List.reverse_reverse, String.ofList_toList]

theorem isSpace_of_isDigit {c : Char} (h : c.isDigit = true) : isSpace c = false := by
  obtain ⟨hlow, hhigh⟩ := digit_bounds h
  simp only [isSpace]
  generalize c.toNat = n at *
  interval_cases n <;> rfl

theorem strip_toString (n : Int) : strip (toString n) = toString n := by
  have hnat : ∀ m : Nat, ∀ c ∈ (toString m).toList, isSpace c = false := by
    intro m c hc
    rw [Nat.toString_eq_repr, Nat.repr, String.toList_ofList] at hc
    exact isSpace_of_isDigit (Nat.isDigit_of_mem_toDigits (by decide) (by decide) hc)
  refine strip_of_forall ?_
  cases n with
  | ofNat m => exact hnat m
  | negSucc m =>
    intro c hc
    have hneg : (toString (Int.negSucc m)).toList = '-' :: (toString (m + 1)).toList := by
      change ("-" ++ toString (m + 1)).toList = _
      rw [String.toList_append]
      rfl
    rw [hneg] at hc
    rcases List.mem_cons.mp hc with rfl | hc
    · decide
    · exact hnat _ c hc

/-! ### Paths -/

/-- `Path(value).name`. -/
def pathName (value : List Char) : List Char :=
  ((value.splitOn '/').filter fun part => part ≠ [] ∧ part ≠ ['.']).getLastD []

/-- `Path(name).stem` and `Path(name).suffix`: the last dot that a character other than a dot
precedes. -/
def splitSuffix (name : List Char) : List Char × List Char :=
  let tail := name.reverse.takeWhile (· ≠ '.')
  let stem := name.take (name.length - tail.length - 1)
  if name.contains '.' && stem.any (· ≠ '.') then (stem, name.drop stem.length) else (name, [])

end ReconcileFlow
