import Mathlib.Algebra.Group.Int.Defs
import Mathlib.Algebra.Group.Nat.Defs
import Mathlib.Logic.Function.Iterate
import TypedLambda.Expr.Basic

/-!
Numerals as values. A value of their type counts `k` if it applies each step `k` times to each
start. The type of the starts is open, so the steps may be functions on numerals: what counts `n`
there takes the successor of a numeral `n` times. Main statement: the numeral `n` counts `n`, the
successor counts one more, and both are read back as numbers of the language, which wrap around.
-/

namespace TypedLambda

variable {a : Ty} {k m n : Nat}

/-- Applies each step `k` times to each start. -/
def Counts (k : Nat) (c : a.church.Value) : Prop :=
  ∀ (f : a.Value → a.Value) (x : a.Value), c f x = f^[k] x

namespace Counts

lemma zero : Counts 0 (Church.zero : Ty.Value a.church) := fun _ _ => rfl

lemma succ {c : a.church.Value} (h : Counts k c) :
    Counts (k + 1) ((Church.succ : Ty.Value (.fn a.church a.church)) c) := by
  intro f x
  change f (c f x) = _
  rw [h, Function.iterate_succ_apply']

lemma numeral (n : Nat) : Counts n (Church.numeral n : Ty.Value a.church) := by
  induction n with
  | zero => exact zero
  | succ n ih => exact ih.succ

lemma iterate_succ {c : a.church.Value} (h : Counts m c) (n : Nat) :
    Counts (n + m) ((Church.succ : Ty.Value (.fn a.church a.church))^[n] c) := by
  induction n with
  | zero => rwa [Nat.zero_add]
  | succ n ih =>
    rw [Function.iterate_succ_apply', Nat.add_right_comm]
    exact ih.succ

/-- To take the successor `n` times is to add `n`. -/
lemma add {d : a.church.church.Value} {c : a.church.Value} (hd : Counts n d) (hc : Counts m c) :
    Counts (n + m) (d (Church.succ : Ty.Value (.fn a.church a.church)) c) := by
  rw [hd]
  exact hc.iterate_succ n

end Counts

lemma iterate_addOne (k : Nat) (x : Int64) :
    (Church.addOne : Ty.Value (.fn .int .int))^[k] x = x + Int64.ofNat k := by
  induction k with
  | zero => simp
  | succ k ih =>
    rw [Function.iterate_succ_apply', ih, Int64.ofNat_add, ← Int64.add_assoc]
    rfl

/-- The number that is read back is the count up to multiples of `2 ^ 64`. -/
lemma Counts.toInt {c : (Ty.church .int).Value} (h : Counts k c) :
    (Church.toInt (R := Ty.Value) c : Int64).toInt = (k : Int).bmod (2 ^ 64) := by
  have hc : Church.toInt (R := Ty.Value) c = Int64.ofNat k := by
    change c _ (0 : Int64) = _
    rw [h, iterate_addOne, Int64.zero_add]
  rw [hc]
  exact Int64.toInt_ofNat'

/-- **Numerals count**: their values as functions, and as numbers of the language. -/
theorem value_numeral :
    (∀ (a : Ty) (n : Nat) (f : a.Value → a.Value) (x : a.Value),
      (Expr.constant (.numeral n) : Expr [] a.church).value f x = f^[n] x) ∧
      (∀ (a : Ty) (c : a.church.Value) (k : Nat), (∀ f x, c f x = f^[k] x) →
        ∀ (f : a.Value → a.Value) (x : a.Value),
          (Expr.constant .succ : Expr [] (.fn a.church a.church)).value c f x = f^[k + 1] x) ∧
      (∀ n : Nat, (Expr.constant (.numeral n) : Expr [] (Ty.church .int)).churchToInt.value.toInt =
        (n : Int).bmod (2 ^ 64)) ∧
      ∀ n m : Nat,
        (Expr.app (.app (.constant (.numeral n)) (.constant .succ)) (.constant (.numeral m)) :
          Expr [] (Ty.church .int)).churchToInt.value.toInt = (n + m : Int).bmod (2 ^ 64) := by
  refine ⟨fun a n => Counts.numeral n, fun a c k hc => Counts.succ hc,
    fun n => (Counts.numeral n).toInt, fun n m => ?_⟩
  have hsum : Counts (n + m) _ := (Counts.numeral (a := .church .int) n).add (Counts.numeral m)
  rw [← Int.natCast_add]
  exact hsum.toInt

/-- A step that is taken three times is taken once more; the numbers from `2 ^ 63` on come back
below zero, and two of `2 ^ 63` make up zero. -/
theorem value_numeral_wraps :
    (Expr.constant .succ : Expr [] (.fn (Ty.church .string) (Ty.church .string))).value
        (fun f x => f (f (f x))) (fun s => s ++ "b") "a" = "abbbb" ∧
      (Expr.constant (.numeral (2 ^ 63)) : Expr [] (Ty.church .int)).churchToInt.value.toInt =
        -2 ^ 63 ∧
      (Expr.app (.app (.constant (.numeral (2 ^ 63))) (.constant .succ))
        (.constant (.numeral (2 ^ 63))) : Expr [] (Ty.church .int)).churchToInt.value.toInt =
          0 := by
  obtain ⟨-, hsucc, hint, hsum⟩ := value_numeral
  refine ⟨?_, (hint (2 ^ 63)).trans (by decide), (hsum (2 ^ 63) (2 ^ 63)).trans (by decide)⟩
  exact hsucc .string _ 3 (fun _ _ => rfl) _ _

end TypedLambda
