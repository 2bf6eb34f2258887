import Mathlib.Logic.Function.Iterate
import TypedLambda.Expr.Basic

/-!
Comparing values. Lists are compared by pairs of elements, and there are no more pairs than the
shorter list has elements, so it takes the lengths as well to tell a list from its beginning.
Main statement: at every type whose values can be compared, the comparison finds the values that
are equal at every level and no others, and a comparison of terms is one of their values.
-/

namespace TypedLambda

namespace Ty.Ground

variable {a : Ty}

/-- Equal at every level: the lists are equally long, and so are the lists in them at each
place. -/
def Same : {a : Ty} → Ground a → a.Value → a.Value → Prop
  | _, int, m, n => m.toInt = n.toInt
  | _, bool, b, c => b = c
  | _, string, s, t => s.toList = t.toList
  | _, list g, xs, ys => xs.length = ys.length ∧
      ∀ (k : Nat) (hx : k < xs.length) (hy : k < ys.length), g.Same xs[k] ys[k]

lemma same_iff_eq (g : a.Ground) {x y : a.Value} : g.Same x y ↔ x = y := by
  induction g with
  | int => exact Int64.toInt_inj
  | bool => exact Iff.rfl
  | string => exact String.toList_inj
  | list g ih =>
    rw [Same, List.ext_getElem_iff]
    simp only [ih]

/-- The comparison holds of the pairs that are the same at every level. -/
lemma beq_iff_same (g : a.Ground) {x y : a.Value} : g.beq x y = true ↔ g.Same x y :=
  g.beq_eq_true.trans g.same_iff_eq.symm

lemma equivalence_beq (g : a.Ground) : Equivalence fun x y : a.Value => g.beq x y = true where
  refl _ := g.beq_eq_true.mpr rfl
  symm h := g.beq_eq_true.mpr (g.beq_eq_true.mp h).symm
  trans h h' := g.beq_eq_true.mpr ((g.beq_eq_true.mp h).trans (g.beq_eq_true.mp h'))

/-- Values can be compared at the types that are made from three by taking lists. -/
lemma nonempty_iff_iterate_list :
    Nonempty a.Ground ↔ ∃ n : Nat, ∃ b ∈ [Ty.int, Ty.bool, Ty.string], a = Ty.list^[n] b := by
  constructor
  · rintro ⟨g⟩
    induction g with
    | int => exact ⟨0, .int, by simp, rfl⟩
    | bool => exact ⟨0, .bool, by simp, rfl⟩
    | string => exact ⟨0, .string, by simp, rfl⟩
    | list g ih =>
      obtain ⟨n, b, hb, rfl⟩ := ih
      exact ⟨n + 1, b, hb, (Function.iterate_succ_apply' Ty.list n b).symm⟩
  · rintro ⟨n, b, hb, rfl⟩
    induction n with
    | zero =>
      simp only [List.mem_cons, List.not_mem_nil, or_false] at hb
      rcases hb with rfl | rfl | rfl
      · exact ⟨.int⟩
      · exact ⟨.bool⟩
      · exact ⟨.string⟩
    | succ n ih =>
      rw [Function.iterate_succ_apply']
      exact ih.map .list

end Ty.Ground

/-- **Comparison decides equality** at every type made by taking lists, so it is an equivalence,
and two terms are found equal just if they have one value. -/
theorem Expr.equals_iff_eq :
    (∀ a : Ty, Nonempty a.Ground ↔
      ∃ n : Nat, ∃ b ∈ [Ty.int, Ty.bool, Ty.string], a = Ty.list^[n] b) ∧
      ∀ (a : Ty) (g : a.Ground),
        (∀ x y : a.Value, (g.beq x y = true ↔ g.Same x y) ∧ (g.beq x y = true ↔ x = y)) ∧
        Equivalence (fun x y : a.Value => g.beq x y = true) ∧
        ∀ (Γ : Context) (l r : Expr Γ a) (ρ : Env Ty.Value Γ),
          (Expr.equals g l r).interpret Ty.Value ρ = true ↔
            l.interpret Ty.Value ρ = r.interpret Ty.Value ρ := by
  refine ⟨fun a => Ty.Ground.nonempty_iff_iterate_list, fun a g => ⟨fun x y => ?_, ?_, ?_⟩⟩
  · exact ⟨g.beq_iff_same, g.beq_eq_true⟩
  · exact g.equivalence_beq
  · intro Γ l r ρ
    exact g.beq_eq_true

/-- A list that another one begins with is not that list, however deep they are. -/
example : (Ty.Ground.list (.list .int)).beq [[1, 2], [3]] [[1], [3]] = false := by decide

end TypedLambda
