/-!
# PascalTokens.Unicode.CodeRanges

Sets of code points as sorted tables of closed ranges.  A look-up walks the
table and stops at the first range above the code point, so the low scripts
are found at once.  The main statement is `CodeRanges.has_iff`: on a sorted
table the early stop loses nothing.
-/

namespace PascalTokens.Unicode

/-- Closed ranges `(first, last)` of code points, in ascending order. -/
abbrev CodeRanges := List (Nat × Nat)

namespace CodeRanges

/-- Whether `n` lies in one of the ranges. -/
def has : CodeRanges → Nat → Bool
  | [], _ => false
  | (first, last) :: rest, n => if n < first then false else n ≤ last || has rest n

/-- Every range is in order, and ends before the next one starts. -/
def Sorted : CodeRanges → Prop
  | [] => True
  | [(first, last)] => first ≤ last
  | (first, last) :: (first', last') :: rest =>
    first ≤ last ∧ last < first' ∧ Sorted ((first', last') :: rest)

instance decidableSorted : (table : CodeRanges) → Decidable table.Sorted
  | [] => isTrue trivial
  | [r] => inferInstanceAs (Decidable (r.1 ≤ r.2))
  | r :: s :: rest =>
    haveI := decidableSorted (s :: rest)
    inferInstanceAs (Decidable (r.1 ≤ r.2 ∧ r.2 < s.1 ∧ Sorted (s :: rest)))

/-- The rest of a sorted table is sorted. -/
theorem Sorted.tail {r : Nat × Nat} {table : CodeRanges} (h : Sorted (r :: table)) :
    table.Sorted := by
  cases table with
  | nil => trivial
  | cons => exact h.2.2

/-- In a sorted table no range starts below the first one. -/
theorem Sorted.le_of_mem {first last : Nat} {table : CodeRanges} {r : Nat × Nat}
    (h : Sorted ((first, last) :: table)) (hr : r ∈ table) : first ≤ r.1 := by
  induction table generalizing first last with
  | nil => simp at hr
  | cons s table ih =>
      obtain ⟨hle, hlt, hrest⟩ := h
      rcases List.mem_cons.1 hr with rfl | hr
      · omega
      · have := ih hrest hr
        omega

/-- A look-up in a sorted table finds exactly the code points of its ranges. -/
theorem has_iff {table : CodeRanges} (h : table.Sorted) (n : Nat) :
    table.has n = true ↔ ∃ r ∈ table, r.1 ≤ n ∧ n ≤ r.2 := by
  induction table with
  | nil => simp [has]
  | cons r table ih =>
      obtain ⟨first, last⟩ := r
      by_cases hn : n < first
      · simp only [has, hn, if_true, Bool.false_eq_true, false_iff, not_exists]
        rintro s ⟨hs, hle, -⟩
        rcases List.mem_cons.1 hs with rfl | hs
        · omega
        · have := h.le_of_mem hs
          omega
      · simp only [has, hn, if_false, Bool.or_eq_true, decide_eq_true_eq, ih h.tail,
          List.mem_cons, exists_eq_or_imp]
        exact or_congr_left ⟨fun hle => ⟨by omega, hle⟩, And.right⟩

end CodeRanges

end PascalTokens.Unicode
