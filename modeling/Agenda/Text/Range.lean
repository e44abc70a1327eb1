/-!
# Ranges of code points

A class of characters is given by its code points as a list of closed ranges in increasing order.
The order lets a look-up stop at the first range that starts beyond the code point sought.
-/

namespace Agenda

/-- Does the code point lie in one of the ranges? They are closed, disjoint and increasing. -/
def inRanges : List (Nat × Nat) → Nat → Bool
  | [], _ => false
  | (lo, hi) :: ranges, n => if n < lo then false else n ≤ hi || inRanges ranges n

theorem exists_of_inRanges {ranges : List (Nat × Nat)} {n : Nat} (h : inRanges ranges n = true) :
    ∃ r ∈ ranges, r.1 ≤ n ∧ n ≤ r.2 := by
  induction ranges with
  | nil => simp [inRanges] at h
  | cons r ranges ih =>
    obtain ⟨lo, hi⟩ := r
    rw [inRanges] at h
    split at h
    · simp at h
    · next hlo =>
      rcases Bool.or_eq_true .. ▸ h with hhi | hrest
      · exact ⟨(lo, hi), by simp, by omega, of_decide_eq_true hhi⟩
      · obtain ⟨r, hr, hn⟩ := ih hrest
        exact ⟨r, by simp [hr], hn⟩

end Agenda
