/-!
# Ranges of code points

A property of characters is stored as an ascending list of closed ranges of code points.  Membership
reads the list from the left and stops at the first range that starts beyond the code point, so the
common scripts are answered after a few comparisons.
-/

namespace TokenForest.Text

/-- Closed ranges of code points, in ascending order. -/
abbrev Ranges := List (Nat × Nat)

namespace Ranges

/-- Whether a code point lies in one of the ranges. -/
def covers : Ranges → Nat → Bool
  | [], _ => false
  | (low, high) :: rest, code =>
    if code < low then false else code ≤ high || covers rest code

/-- A code point that is found lies in one of the ranges of the list. -/
theorem exists_of_covers
    {ranges : Ranges} {code : Nat}
    (found : ranges.covers code = true) :
    ∃ range ∈ ranges, range.1 ≤ code ∧ code ≤ range.2 := by
  induction ranges with
  | nil => simp [covers] at found
  | cons range rest ih =>
    rw [covers] at found
    split at found
    · simp at found
    · rename_i above
      rcases Bool.or_eq_true _ _ |>.mp found with inside | later
      · exact ⟨range, by simp, by omega, by simpa using inside⟩
      · obtain ⟨witness, member, bounds⟩ := ih later
        exact ⟨witness, by simp [member], bounds⟩

end Ranges

end TokenForest.Text
