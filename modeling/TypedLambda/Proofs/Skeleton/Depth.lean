import Mathlib.Order.MinMax
import TypedLambda.Proofs.Skeleton.Rendering

/-!
How many binders stand above the leaves of a skeleton. Main statement: there is room for a
rendering exactly if the deepest leaf has a number left for each of its binders and for the one
after them, and without that room nothing is rendered.
-/

namespace TypedLambda

namespace Skeleton

variable {n : Nat}

/-- For each leaf, the number of binders on the path to it from the root. -/
def leafDepths {n : Nat} : Skeleton n → List Nat
  | lam body => body.leafDepths.map (· + 1)
  | app f x => f.leafDepths ++ x.leafDepths
  | add l r => l.leafDepths ++ r.leafDepths
  | cons h t => h.leafDepths ++ t.leafDepths
  | map f xs => f.leafDepths ++ xs.leafDepths
  | ite c p q => c.leafDepths ++ p.leafDepths ++ q.leafDepths
  | not x => x.leafDepths
  | length xs => xs.leafDepths
  | equals l r => l.leafDepths ++ r.leafDepths
  | var _ | int _ | nil | bool _ | string _ => [0]

lemma le_depth_of_mem_leafDepths (s : Skeleton n) {d : Nat} (h : d ∈ s.leafDepths) :
    d ≤ s.depth := by
  induction s generalizing d with
  | lam body ih =>
    obtain ⟨k, hk, rfl⟩ := List.mem_map.mp h
    exact Nat.succ_le_succ (ih hk)
  | ite c p q ihc ihp ihq =>
    simp only [leafDepths, List.mem_append] at h
    rw [depth, le_max_iff, le_max_iff]
    exact h.imp (Or.imp ihc ihp) ihq
  | app f x ihf ihx | add f x ihf ihx | cons f x ihf ihx | map f x ihf ihx
  | equals f x ihf ihx =>
    rw [depth, le_max_iff]
    exact (List.mem_append.mp h).imp ihf ihx
  | not x ih | length x ih => exact ih h
  | var k | int m | nil | bool b | string w => exact (List.mem_singleton.mp h).le

/-- The deepest operand has a leaf that is as deep. -/
lemma max_mem_append {l m : List Nat} {i j : Nat} (hi : i ∈ l) (hj : j ∈ m) :
    max i j ∈ l ++ m := by
  rcases max_choice i j with h | h
  · rw [h]
    exact List.mem_append_left m hi
  · rw [h]
    exact List.mem_append_right l hj

lemma depth_mem_leafDepths (s : Skeleton n) : s.depth ∈ s.leafDepths := by
  induction s with
  | lam body ih => exact List.mem_map_of_mem ih
  | ite c p q ihc ihp ihq => exact max_mem_append (max_mem_append ihc ihp) ihq
  | app f x ihf ihx | add f x ihf ihx | cons f x ihf ihx | map f x ihf ihx
  | equals f x ihf ihx => exact max_mem_append ihf ihx
  | not x ih | length x ih => exact ih
  | var k | int m | nil | bool b | string w => exact List.mem_singleton_self 0

end Skeleton

/-- **Where the numbers end.** With `D` binders above the deepest leaf of a written term, whatever
operands the path to it goes through, the term has a text from `i` on just if `D` is zero or
`i + D` is a number still. Where it has none, all there is in its place is the failure. -/
theorem Named.renderFrom_ok_iff_deepest {t : Named} {a : Ty} {e : Expr [] a}
    (h : t.elaborate? [] = some ⟨a, e⟩) :
    ∃ (s : Skeleton 0) (D : Nat), t.skeleton? [] = some s ∧
      (D ∈ s.leafDepths ∧ ∀ d ∈ s.leafDepths, d ≤ D) ∧
      ∀ i : Counter,
        ((∃ w, e.renderFrom i = .ok w) ↔ D = 0 ∨ i.index.toNat + D ≤ UInt64.size - 1) ∧
        (¬ (D = 0 ∨ i.index.toNat + D ≤ UInt64.size - 1) →
          ∃ f : RenderError, e.renderFrom i = .error f ∧
            f.message = "attempt to add with overflow") := by
  refine ⟨e.skeleton, e.skeleton.depth, skeleton?_eq h, ⟨e.skeleton.depth_mem_leafDepths,
    fun d => e.skeleton.le_depth_of_mem_leafDepths⟩, fun i => ?_⟩
  have hi : i.index.toNat < UInt64.size := i.index.toNat_lt
  have hroom : i.index.toNat + e.skeleton.depth < UInt64.size ↔
      e.skeleton.depth = 0 ∨ i.index.toNat + e.skeleton.depth ≤ UInt64.size - 1 := by omega
  rw [e.renderFrom_eq, ← hroom]
  refine ⟨?_, fun hfull => ⟨.counterOverflow, if_neg hfull, rfl⟩⟩
  constructor
  · rintro ⟨w, hw⟩
    exact (Rendering.fitting_eq_ok.mp hw).1
  · exact fun hfit => ⟨_, if_pos hfit⟩

/-- Binders in a branch that is not taken, above a variable that nothing uses, and three more
in a shared term that is not used. -/
def Named.nestsInElse : Named :=
  .share "x" (.constant (.succ (a := .int)))
    (.ite (.bool true) (.lam "x" .int (.var "x"))
      (.app (.constant (.const (a := .int) (b := .int))) (.int 7)))

def Expr.nestsInElse : Expr [] (.fn .int .int) :=
  .share (.constant (.succ (a := .int)))
    (.ite (.bool true) (.lam (.var .here)) (.app (.constant .const) (.int 7)))

theorem Named.renderFrom_nestsInElse :
    nestsInElse.elaborate? [] = some ⟨_, Expr.nestsInElse⟩ ∧
      (∃ w, Expr.nestsInElse.renderFrom ⟨18446744073709551613⟩ = .ok w) ∧
      ∃ f : RenderError, Expr.nestsInElse.renderFrom ⟨18446744073709551614⟩ = .error f ∧
        f.message = "attempt to add with overflow" := by
  have he : nestsInElse.elaborate? [] = some ⟨_, Expr.nestsInElse⟩ := rfl
  obtain ⟨s, D, hs, ⟨hmem, hmax⟩, h⟩ := renderFrom_ok_iff_deepest he
  obtain rfl : Expr.nestsInElse.skeleton = s :=
    Option.some.inj ((skeleton?_eq he).symm.trans hs)
  have hleaves : Expr.nestsInElse.skeleton.leafDepths = [0, 1, 2, 0] := rfl
  rw [hleaves] at hmem hmax
  obtain rfl : D = 2 := by
    have h2 := hmax 2 (by simp)
    simp only [List.mem_cons, List.not_mem_nil, or_false] at hmem
    omega
  exact ⟨he, (h ⟨18446744073709551613⟩).1.mpr (by decide),
    (h ⟨18446744073709551614⟩).2 (by decide)⟩

end TypedLambda
