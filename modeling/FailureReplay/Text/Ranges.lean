import FailureReplay.Text.Basic

/-!
# Tables of code points

A character class given by ascending, disjoint, inclusive ranges of code points.
On such a table the early end of the search loses nothing: `contains_iff`.
-/

namespace FailureReplay.Text

/-- Inclusive ranges of code points. -/
abbrev RangeTable := List (Nat × Nat)

namespace RangeTable

/-- Membership in a table; the search ends at the first range above the code point. -/
def contains : RangeTable → Nat → Bool
  | [], _ => false
  | (lo, hi) :: rest, n =>
    if n < lo then false
    else if n ≤ hi then true
    else contains rest n

/-- Every range is in order and lies above `bound`, and above the one before it. -/
def ascendingFrom (bound : Nat) : RangeTable → Bool
  | [] => true
  | (lo, hi) :: rest => bound ≤ lo && lo ≤ hi && ascendingFrom (hi + 1) rest

/-- The ranges of an ascending table lie above its bound. -/
theorem le_of_ascendingFrom {t : RangeTable} {bound : Nat} (h : t.ascendingFrom bound = true)
    {r : Nat × Nat} (hr : r ∈ t) : bound ≤ r.1 := by
  induction t generalizing bound with
  | nil => cases hr
  | cons head rest ih =>
    obtain ⟨lo, hi⟩ := head
    simp only [ascendingFrom, Bool.and_eq_true, decide_eq_true_eq] at h
    rcases List.mem_cons.1 hr with rfl | hr
    · exact h.1.1
    · have := ih h.2 hr
      omega

/-- An ascending table contains exactly the code points of its ranges. -/
theorem contains_iff {t : RangeTable} {bound : Nat} (h : t.ascendingFrom bound = true) (n : Nat) :
    t.contains n = true ↔ ∃ r ∈ t, r.1 ≤ n ∧ n ≤ r.2 := by
  induction t generalizing bound with
  | nil => simp [contains]
  | cons head rest ih =>
    obtain ⟨lo, hi⟩ := head
    simp only [ascendingFrom, Bool.and_eq_true, decide_eq_true_eq] at h
    rw [contains]
    by_cases hlo : n < lo
    · simp only [hlo, if_true, Bool.false_eq_true, false_iff]
      rintro ⟨r, hr, hle, -⟩
      rcases List.mem_cons.1 hr with rfl | hr
      · exact Nat.lt_irrefl _ (Nat.lt_of_lt_of_le hlo hle)
      · have := le_of_ascendingFrom h.2 hr
        omega
    · by_cases hhi : n ≤ hi
      · simp only [hlo, hhi, if_true, if_false, true_iff]
        exact ⟨(lo, hi), List.mem_cons_self, by omega, hhi⟩
      · simp only [hlo, hhi, if_false, ih h.2]
        constructor
        · rintro ⟨r, hr, hn⟩
          exact ⟨r, List.mem_cons_of_mem _ hr, hn⟩
        · rintro ⟨r, hr, hn⟩
          rcases List.mem_cons.1 hr with rfl | hr
          · exact absurd hn.2 hhi
          · exact ⟨r, hr, hn⟩

end RangeTable
end FailureReplay.Text
