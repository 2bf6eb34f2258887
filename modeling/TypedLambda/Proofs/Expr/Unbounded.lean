import Mathlib.Algebra.BigOperators.Group.List.Basic
import Mathlib.Algebra.Ring.Int.Defs
import Mathlib.Data.Int.ModEq
import Mathlib.Data.List.Forall2
import TypedLambda.Expr.Basic

/-!
Numbers without bounds. A relation between two representations that goes along with the operations
relates the two readings of every term, as long as the term does not look into data. Words and
unbounded numbers are related in this way: a word stands for all numbers that are congruent to it.
Main statement: a term of numbers has the one value that is congruent to its value without bounds,
however often the sums in it overflow, and it keeps its value when sums are regrouped or permuted.
-/

namespace TypedLambda

/-! ### Terms that do not look into data -/

/-- The constant is made without the operations that look into data. -/
def Constant.InspectionFree : {a : Ty} → Constant a → Prop
  | _, guardedList | _, greetingLength => False
  | _, _ => True

/-- There is no length and no comparison in the term, whether or not anything comes of it. -/
def Expr.InspectionFree {Γ : Context} {a : Ty} : Expr Γ a → Prop
  | var _ | int _ | nil | bool _ | string _ => True
  | lam body => body.InspectionFree
  | share e body => e.InspectionFree ∧ body.InspectionFree
  | app f x => f.InspectionFree ∧ x.InspectionFree
  | add l r => l.InspectionFree ∧ r.InspectionFree
  | cons h t => h.InspectionFree ∧ t.InspectionFree
  | map f xs => f.InspectionFree ∧ xs.InspectionFree
  | ite c p n => c.InspectionFree ∧ p.InspectionFree ∧ n.InspectionFree
  | not x => x.InspectionFree
  | length _ _ | equals _ _ _ => False
  | constant c => c.InspectionFree

/-! ### Relations between representations -/

/-- A relation that goes along with all operations but those that look into data. -/
structure Correspondence (R S : Ty → Type) [Representation R] [Representation S] where
  Rel (a : Ty) : R a → S a → Prop
  apply {a b : Ty} {f : R (.fn a b)} {g : S (.fn a b)} {x : R a} {y : S a}
    (hf : Rel (.fn a b) f g) (hx : Rel a x y) : Rel b (Binding.apply f x) (Binding.apply g y)
  lambda {a b : Ty} {f : R a → R b} {g : S a → S b}
    (h : ∀ x y, Rel a x y → Rel b (f x) (g y)) :
    Rel (.fn a b) (Binding.lambda f) (Binding.lambda g)
  int (n : Int64) : Rel .int (Arithmetic.int n) (Arithmetic.int n)
  add {l r : R .int} {l' r' : S .int} (hl : Rel .int l l') (hr : Rel .int r r') :
    Rel .int (Arithmetic.add l r) (Arithmetic.add l' r')
  nil {a : Ty} : Rel (.list a) Sequences.nil Sequences.nil
  cons {a : Ty} {h : R a} {h' : S a} {t : R (.list a)} {t' : S (.list a)}
    (hh : Rel a h h') (ht : Rel (.list a) t t') :
    Rel (.list a) (Sequences.cons h t) (Sequences.cons h' t')
  map {a b : Ty} {f : R (.fn a b)} {g : S (.fn a b)} {xs : R (.list a)} {ys : S (.list a)}
    (hf : Rel (.fn a b) f g) (hxs : Rel (.list a) xs ys) :
    Rel (.list b) (Sequences.map f xs) (Sequences.map g ys)
  bool (b : Bool) : Rel .bool (Booleans.bool b) (Booleans.bool b)
  ite {a : Ty} {c : R .bool} {c' : S .bool} {p n : R a} {p' n' : S a} (hc : Rel .bool c c')
    (hp : Rel a p p') (hn : Rel a n n') :
    Rel a (Booleans.ite c p n) (Booleans.ite c' p' n')
  not {x : R .bool} {y : S .bool} (h : Rel .bool x y) :
    Rel .bool (Booleans.not x) (Booleans.not y)
  string (s : String) : Rel .string (Strings.string s) (Strings.string s)

namespace Correspondence

variable {R S : Ty → Type} [Representation R] [Representation S] (C : Correspondence R S)
  {Γ : Context} {a b : Ty}

/-- The environments are related at each variable. -/
def Relates (ρ : Env R Γ) (η : Env S Γ) : Prop := ∀ ⦃a : Ty⦄ (x : Var Γ a), C.Rel a (ρ x) (η x)

variable {C} in
lemma Relates.push {ρ : Env R Γ} {η : Env S Γ} (h : C.Relates ρ η) {x : R b} {y : S b}
    (hxy : C.Rel b x y) : C.Relates (ρ.push x) (η.push y) := by
  intro a v
  cases v with
  | here => exact hxy
  | there v => exact h v

lemma identity : C.Rel (.fn a a) Combinator.identity Combinator.identity :=
  C.lambda fun _ _ h => h

lemma const : C.Rel (.fn a (.fn b a)) Combinator.const Combinator.const :=
  C.lambda fun _ _ h => C.lambda fun _ _ _ => h

lemma succ : C.Rel (.fn a.church a.church) Church.succ Church.succ :=
  C.lambda fun _ _ hn => C.lambda fun _ _ hf => C.lambda fun _ _ hx =>
    C.apply hf (C.apply (C.apply hn hf) hx)

lemma numeral (n : Nat) : C.Rel a.church (Church.numeral n) (Church.numeral n) := by
  induction n with
  | zero => exact C.apply C.const C.identity
  | succ n ih => exact C.apply C.succ ih

lemma addOne : C.Rel (.fn .int .int) Church.addOne Church.addOne :=
  C.lambda fun _ _ h => C.add h (C.int 1)

lemma intList (ns : List Int64) : C.Rel (.list .int) (Sample.intList ns) (Sample.intList ns) := by
  induction ns with
  | nil => exact C.nil
  | cons n ns ih => exact C.cons (C.int n) ih

lemma constant (c : Constant a) (h : c.InspectionFree) :
    C.Rel a (c.interpret R) (c.interpret S) := by
  cases c with
  | identity => exact C.identity
  | selfApplication => exact C.apply C.identity C.identity
  | thrush => exact C.lambda fun _ _ hx => C.lambda fun _ _ hf => C.apply hf hx
  | const => exact C.const
  | compose =>
    exact C.lambda fun _ _ hf => C.lambda fun _ _ hg => C.lambda fun _ _ hx =>
      C.apply hf (C.apply hg hx)
  | flip =>
    exact C.lambda fun _ _ hf => C.lambda fun _ _ hy => C.lambda fun _ _ hx =>
      C.apply (C.apply hf hx) hy
  | succ => exact C.succ
  | numeral n => exact C.numeral n
  | addOne => exact C.addOne
  | twoToInt => exact C.apply (C.apply (C.numeral 2) C.addOne) (C.int 0)
  | intList ns => exact C.intList ns
  | branch => exact C.ite (C.not (C.bool true)) (C.bool false) (C.bool true)
  | guardedList => exact h.elim
  | mapNot =>
    exact C.map (C.lambda fun _ _ h => C.not h) (C.cons (C.bool true) (C.cons (C.bool false) C.nil))
  | increments => exact C.map C.addOne (C.intList [1, 2, 3])
  | greetingLength => exact h.elim

/-- **Related environments give related readings** of a term that does not look into data. -/
theorem interpret {e : Expr Γ a} (h : e.InspectionFree) {ρ : Env R Γ} {η : Env S Γ}
    (hρ : C.Relates ρ η) : C.Rel a (e.interpret R ρ) (e.interpret S η) := by
  -- Under a binder both environments grow by any two arguments that are related.
  induction e with
  | var x => exact hρ x
  | lam body ih => exact C.lambda fun x y hxy => ih h (hρ.push hxy)
  | share e body ih₁ ih₂ => exact ih₂ h.2 (hρ.push (ih₁ h.1 hρ))
  | app f x ih₁ ih₂ => exact C.apply (ih₁ h.1 hρ) (ih₂ h.2 hρ)
  | int n => exact C.int n
  | add l r ih₁ ih₂ => exact C.add (ih₁ h.1 hρ) (ih₂ h.2 hρ)
  | nil => exact C.nil
  | cons x t ih₁ ih₂ => exact C.cons (ih₁ h.1 hρ) (ih₂ h.2 hρ)
  | map f xs ih₁ ih₂ => exact C.map (ih₁ h.1 hρ) (ih₂ h.2 hρ)
  | bool b => exact C.bool b
  | ite c p n ih₁ ih₂ ih₃ => exact C.ite (ih₁ h.1 hρ) (ih₂ h.2.1 hρ) (ih₃ h.2.2 hρ)
  | not x ih => exact C.not (ih h hρ)
  | string s => exact C.string s
  | length c xs ih => exact h.elim
  | equals g l r ih₁ ih₂ => exact h.elim
  | constant c => exact C.constant c h

end Correspondence

/-! ### Values without bounds -/

/-- The values when a number may be of any size. -/
@[reducible] def Ty.Unbounded : Ty → Type
  | int => Int
  | bool => Bool
  | string => String
  | list a => List a.Unbounded
  | fn a b => a.Unbounded → b.Unbounded

/-- At a ground type equality without bounds is decided as well. -/
def Ty.Ground.decEqUnbounded : {a : Ty} → a.Ground → DecidableEq a.Unbounded
  | _, int => inferInstanceAs (DecidableEq Int)
  | _, bool => inferInstanceAs (DecidableEq Bool)
  | _, string => inferInstanceAs (DecidableEq String)
  | _, list (a := a) g =>
    letI : DecidableEq a.Unbounded := g.decEqUnbounded
    inferInstanceAs (DecidableEq (List a.Unbounded))

def Ty.Countable.countUnbounded : {a : Ty} → a.Countable → a.Unbounded → Nat
  | _, string, s => s.length
  | _, list, xs => xs.length

instance : Representation Ty.Unbounded where
  apply f x := f x
  lambda body := body
  int n := n.toInt
  add l r := l + r
  nil := []
  cons h t := h :: t
  map f xs := List.map f xs
  bool b := b
  ite c p n := if c then p else n
  not x := !x
  string s := s
  length h xs := (h.countUnbounded xs : Int)
  equals h l r := @decide (l = r) (h.decEqUnbounded l r)

/-- The value of a closed term when no sum in it wraps around. -/
def Expr.unbounded {a : Ty} (e : Expr [] a) : a.Unbounded := e.interpret Ty.Unbounded Env.empty

/-- The second value is the first one with all numbers in it brought down to words. -/
def Ty.Wraps : (a : Ty) → a.Unbounded → a.Value → Prop
  | .int, z, n => n = Int64.ofInt z
  | .bool, b, c => b = c
  | .string, s, t => s = t
  | .list a, xs, ys => List.Forall₂ a.Wraps xs ys
  | .fn a b, f, g => ∀ x y, a.Wraps x y → b.Wraps (f x) (g y)

/-- Words go along with numbers of any size. -/
def wrapping : Correspondence Ty.Unbounded Ty.Value where
  Rel := Ty.Wraps
  apply hf hx := hf _ _ hx
  lambda h := h
  int n := (Int64.ofInt_toInt n).symm
  add := by
    rintro l r _ _ rfl rfl
    exact (Int64.ofInt_add l r).symm
  nil := .nil
  cons hh ht := .cons hh ht
  map hf hxs := List.rel_map hf hxs
  bool _ := rfl
  ite := by
    rintro a c _ p n p' n' rfl hp hn
    cases c
    · exact hn
    · exact hp
  not := by
    rintro x _ rfl
    rfl
  string _ := rfl

lemma toInt_modEq_iff {n : Int64} {z : Int} : n.toInt ≡ z [ZMOD 2 ^ 64] ↔ n = Int64.ofInt z := by
  rw [eq_comm, Int64.ofInt_eq_iff_bmod_eq_toInt]
  constructor
  · intro h
    calc z.bmod (2 ^ 64) = (z % 2 ^ 64).bmod (2 ^ 64) := (Int.emod_bmod z (2 ^ 64)).symm
      _ = (n.toInt % 2 ^ 64).bmod (2 ^ 64) := by rw [h.eq]
      _ = n.toInt.bmod (2 ^ 64) := Int.emod_bmod n.toInt (2 ^ 64)
      _ = n.toInt := n.toInt_bmod
  · intro h
    rw [← h]
    exact Int.bmod_emod

/-! ### Sums in another order -/

namespace Expr

variable {Γ : Context} {a : Ty}

/-- The first term is a tree of sums, with these operands from left to right. -/
inductive Adds : Expr Γ .int → List (Expr Γ .int) → Prop
  | operand (e : Expr Γ .int) : Adds e [e]
  | add {l r : Expr Γ .int} {es fs : List (Expr Γ .int)} (hl : Adds l es) (hr : Adds r fs) :
      Adds (.add l r) (es ++ fs)

/-- The second term is the first one with the operands of sums in it regrouped or permuted, at
any number of places. -/
inductive Regroups : {Γ : Context} → {a : Ty} → Expr Γ a → Expr Γ a → Prop
  | sums {Γ : Context} {e f : Expr Γ .int} {es fs : List (Expr Γ .int)} (he : Adds e es)
      (hf : Adds f fs) (h : es.Perm fs) : Regroups e f
  | refl {Γ : Context} {a : Ty} (e : Expr Γ a) : Regroups e e
  | trans {Γ : Context} {a : Ty} {e f g : Expr Γ a} (h₁ : Regroups e f) (h₂ : Regroups f g) :
      Regroups e g
  | lam {Γ : Context} {a b : Ty} {e f : Expr (a :: Γ) b} (h : Regroups e f) :
      Regroups (.lam e) (.lam f)
  | share {Γ : Context} {a b : Ty} {e e' : Expr Γ a} {f f' : Expr (a :: Γ) b}
      (h₁ : Regroups e e') (h₂ : Regroups f f') : Regroups (.share e f) (.share e' f')
  | app {Γ : Context} {a b : Ty} {f f' : Expr Γ (.fn a b)} {x x' : Expr Γ a}
      (h₁ : Regroups f f') (h₂ : Regroups x x') : Regroups (.app f x) (.app f' x')
  | add {Γ : Context} {l l' r r' : Expr Γ .int} (h₁ : Regroups l l') (h₂ : Regroups r r') :
      Regroups (.add l r) (.add l' r')
  | cons {Γ : Context} {a : Ty} {x x' : Expr Γ a} {t t' : Expr Γ (.list a)}
      (h₁ : Regroups x x') (h₂ : Regroups t t') : Regroups (.cons x t) (.cons x' t')
  | map {Γ : Context} {a b : Ty} {f f' : Expr Γ (.fn a b)} {xs xs' : Expr Γ (.list a)}
      (h₁ : Regroups f f') (h₂ : Regroups xs xs') : Regroups (.map f xs) (.map f' xs')
  | ite {Γ : Context} {a : Ty} {c c' : Expr Γ .bool} {p p' n n' : Expr Γ a}
      (h₁ : Regroups c c') (h₂ : Regroups p p') (h₃ : Regroups n n') :
      Regroups (.ite c p n) (.ite c' p' n')
  | not {Γ : Context} {x x' : Expr Γ .bool} (h : Regroups x x') : Regroups (.not x) (.not x')
  | length {Γ : Context} {a : Ty} (c : a.Countable) {xs xs' : Expr Γ a}
      (h : Regroups xs xs') : Regroups (.length c xs) (.length c xs')
  | equals {Γ : Context} {a : Ty} (g : a.Ground) {l l' r r' : Expr Γ a} (h₁ : Regroups l l')
      (h₂ : Regroups r r') : Regroups (.equals g l r) (.equals g l' r')

/-- A tree of sums wraps around once, at its root. -/
lemma Adds.interpret_eq {e : Expr Γ .int} {es : List (Expr Γ .int)} (h : Adds e es)
    (ρ : Env Ty.Value Γ) :
    e.interpret Ty.Value ρ =
      Int64.ofInt (es.map fun x => Int64.toInt (x.interpret Ty.Value ρ)).sum := by
  induction h with
  | operand e => rw [List.map_singleton, List.sum_singleton, Int64.ofInt_toInt]
  | add hl hr ih₁ ih₂ =>
    rw [List.map_append, List.sum_append, Int64.ofInt_add, ← ih₁, ← ih₂]
    rfl

lemma Regroups.interpret_eq {e f : Expr Γ a} (h : Regroups e f) (ρ : Env Ty.Value Γ) :
    e.interpret Ty.Value ρ = f.interpret Ty.Value ρ := by
  induction h with
  | sums he hf h => rw [he.interpret_eq, hf.interpret_eq, (h.map _).sum_eq]
  | refl e => rfl
  | trans h₁ h₂ ih₁ ih₂ => exact (ih₁ ρ).trans (ih₂ ρ)
  | lam h ih => exact funext fun x => ih (ρ.push x)
  | share h₁ h₂ ih₁ ih₂ => rw [interpret, interpret, ih₁, ih₂]
  | _ => simp_all [interpret]

/-- **Sums wrap around once**: whatever overflows on the way, the value is the one word that is
congruent to the value without bounds. So no order in which sums are made changes a value. -/
theorem modEq_unbounded_iff_value :
    (∀ e : Expr [] .int, e.InspectionFree →
      ∀ n : Int64, n.toInt ≡ e.unbounded [ZMOD 2 ^ 64] ↔ n = e.value) ∧
      ∀ (Γ : Context) (a : Ty) (e f : Expr Γ a), Regroups e f →
        ∀ ρ : Env Ty.Value Γ, e.interpret Ty.Value ρ = f.interpret Ty.Value ρ := by
  refine ⟨fun e h n => ?_, fun Γ a e f h ρ => h.interpret_eq ρ⟩
  have hwraps : e.value = Int64.ofInt e.unbounded := wrapping.interpret h nofun
  rw [toInt_modEq_iff, hwraps]

/-- Doubles the greatest number as often as a numeral says. -/
def doublesGreatest : Expr [] .int :=
  .share (.lam (.add (.var .here) (.var .here)))
    (.app (.app (.constant (.numeral 3)) (.var .here)) (.int 0x7fffffffffffffff))

/-- Adds one and the greatest number to each element of a list. -/
def addsGreatest : Expr [] (.list .int) :=
  .map (.lam (.add (.add (.var .here) (.int 0x7fffffffffffffff)) (.int 1)))
    (.cons (.int (-1)) .nil)

/-- The same sums from the other end. -/
def addsGreatestLast : Expr [] (.list .int) :=
  .map (.lam (.add (.int 1) (.add (.var .here) (.int 0x7fffffffffffffff))))
    (.cons (.int (-1)) .nil)

theorem modEq_unbounded_iff_value_overflows :
    doublesGreatest.InspectionFree ∧ doublesGreatest.unbounded = 2 ^ 66 - 8 ∧
      doublesGreatest.value = -8 ∧ Regroups addsGreatest addsGreatestLast ∧
      addsGreatest.value = addsGreatestLast.value := by
  have hfree : doublesGreatest.InspectionFree :=
    ⟨⟨trivial, trivial⟩, ⟨trivial, trivial⟩, trivial⟩
  have hunbounded : doublesGreatest.unbounded = 2 ^ 66 - 8 := rfl
  have hsums : Regroups addsGreatest addsGreatestLast :=
    .map (.lam (.sums (.add (.add (.operand _) (.operand _)) (.operand _))
      (.add (.operand _) (.add (.operand _) (.operand _))) List.perm_append_comm)) (.refl _)
  obtain ⟨hvalue, hregroup⟩ := modEq_unbounded_iff_value
  refine ⟨hfree, hunbounded, ((hvalue doublesGreatest hfree (-8)).mp ?_).symm, hsums,
    hregroup _ _ _ _ hsums Env.empty⟩
  rw [hunbounded]
  decide

/-- A comparison tells words from numbers of any size, and with it a conditional does. -/
example :
    let e : Expr [] .int :=
      .ite (.equals .int (.add (.int 0x7fffffffffffffff) (.int 1)) (.int (-0x8000000000000000)))
        (.int 0) (.int 1)
    e.value = 0 ∧ e.unbounded = 1 := by decide

end Expr

end TypedLambda
