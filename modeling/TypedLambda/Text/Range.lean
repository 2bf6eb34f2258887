/-!
Sets of characters given by ranges of code points, both ends included.
-/

namespace TypedLambda.Text

abbrev Ranges := List (Nat × Nat)

namespace Ranges

def contains (rs : Ranges) (c : Char) : Bool :=
  rs.any fun r => r.1 ≤ c.toNat && c.toNat ≤ r.2

theorem contains_iff {rs : Ranges} {c : Char} :
    rs.contains c = true ↔ ∃ r ∈ rs, r.1 ≤ c.toNat ∧ c.toNat ≤ r.2 := by
  simp [contains]

/-- No range of the set meets the given one. -/
def avoids (rs : Ranges) (first last : Nat) : Bool :=
  rs.all fun r => decide (r.2 < first) || decide (last < r.1)

theorem contains_of_avoids {rs : Ranges} {first last : Nat} (h : rs.avoids first last = true)
    {c : Char} (h₁ : first ≤ c.toNat) (h₂ : c.toNat ≤ last) : rs.contains c = false := by
  rw [Bool.eq_false_iff, ne_eq, contains_iff]
  rintro ⟨r, hr, h₃, h₄⟩
  have := List.all_eq_true.mp h r hr
  simp only [Bool.or_eq_true, decide_eq_true_eq] at this
  omega

end Ranges

end TypedLambda.Text
