import Mathlib.Data.Fin.Tuple.Basic
import TypedLambda.Proofs.Named.Typing
import TypedLambda.Proofs.Plain.Expansion

/-!
Skeletons: what is left of a term when names, types, sharing and named closed terms are gone.
A variable is the number of binders between it and its own. A written term has its skeleton
without regard to types; an expression has it by its plain form. Main statement: for a well
typed term the two are the same.
-/

namespace TypedLambda

/-- Terms under a number of binders. -/
inductive Skeleton : Nat → Type
  | var {n : Nat} (k : Fin n) : Skeleton n
  | lam {n : Nat} (body : Skeleton (n + 1)) : Skeleton n
  | app {n : Nat} (f x : Skeleton n) : Skeleton n
  | int {n : Nat} (m : Int64) : Skeleton n
  | add {n : Nat} (l r : Skeleton n) : Skeleton n
  | nil {n : Nat} : Skeleton n
  | cons {n : Nat} (h t : Skeleton n) : Skeleton n
  | map {n : Nat} (f xs : Skeleton n) : Skeleton n
  | bool {n : Nat} (b : Bool) : Skeleton n
  | ite {n : Nat} (c p q : Skeleton n) : Skeleton n
  | not {n : Nat} (x : Skeleton n) : Skeleton n
  | string {n : Nat} (s : String) : Skeleton n
  | length {n : Nat} (xs : Skeleton n) : Skeleton n
  | equals {n : Nat} (l r : Skeleton n) : Skeleton n
  deriving DecidableEq

namespace Skeleton

/-- A change of variables under one more binder. -/
def lift {n m : Nat} (r : Fin n → Fin m) : Fin (n + 1) → Fin (m + 1) :=
  Fin.cons 0 fun k => (r k).succ

def rename {n m : Nat} (r : Fin n → Fin m) : Skeleton n → Skeleton m
  | var k => var (r k)
  | lam body => lam (body.rename (lift r))
  | app f x => app (f.rename r) (x.rename r)
  | int k => int k
  | add l s => add (l.rename r) (s.rename r)
  | nil => nil
  | cons h t => cons (h.rename r) (t.rename r)
  | map f xs => map (f.rename r) (xs.rename r)
  | bool b => bool b
  | ite c p q => ite (c.rename r) (p.rename r) (q.rename r)
  | not x => not (x.rename r)
  | string s => string s
  | length xs => length (xs.rename r)
  | equals l s => equals (l.rename r) (s.rename r)

/-- The term under one more binder. -/
def weaken {n : Nat} (s : Skeleton n) : Skeleton (n + 1) := s.rename Fin.succ

/-- A closed term under any number of binders. -/
def closed {n : Nat} (s : Skeleton 0) : Skeleton n := s.rename Fin.elim0

end Skeleton

/-- How many variables are further in. -/
def Var.toFin {a : Ty} : {Γ : Context} → Var Γ a → Fin Γ.length
  | _ :: _, .here => 0
  | _ :: _, .there x => x.toFin.succ

/-- What is left of a plain term when the types are gone. -/
def Plain.erase {Γ : Context} {a : Ty} : Plain Γ a → Skeleton Γ.length
  | var x => .var x.toFin
  | lam body => .lam body.erase
  | app f x => .app f.erase x.erase
  | int n => .int n
  | add l r => .add l.erase r.erase
  | nil => .nil
  | cons h t => .cons h.erase t.erase
  | map f xs => .map f.erase xs.erase
  | bool b => .bool b
  | ite c p n => .ite c.erase p.erase n.erase
  | not x => .not x.erase
  | string s => .string s
  | length _ xs => .length xs.erase
  | equals _ l r => .equals l.erase r.erase

def Expr.skeleton {a : Ty} (e : Expr [] a) : Skeleton 0 := e.plain.erase

/-- The constant written out, under any number of binders. -/
def Constant.skeleton {n : Nat} {a : Ty} (c : Constant a) : Skeleton n :=
  (c.plain (Γ := [])).erase.closed

/-- The skeleton of a written term, in which each name stands for the innermost entry that
bears it: a binder, or a shared term that is copied. Types are not looked at. -/
def Named.skeleton? {n : Nat} (env : List (String × Skeleton n)) : Named → Option (Skeleton n)
  | var x => env.lookup x
  | lam x _ t => (t.skeleton? ((x, .var 0) :: env.map fun p => (p.1, p.2.weaken))).map .lam
  | share x t u => (t.skeleton? env).bind fun s => u.skeleton? ((x, s) :: env)
  | app t u => (t.skeleton? env).bind fun s => (u.skeleton? env).map (.app s)
  | int m => some (.int m)
  | add t u => (t.skeleton? env).bind fun s => (u.skeleton? env).map (.add s)
  | nil _ => some .nil
  | cons t u => (t.skeleton? env).bind fun s => (u.skeleton? env).map (.cons s)
  | map t u => (t.skeleton? env).bind fun s => (u.skeleton? env).map (.map s)
  | bool b => some (.bool b)
  | ite t u v => (t.skeleton? env).bind fun s => (u.skeleton? env).bind fun p =>
      (v.skeleton? env).map (.ite s p)
  | not t => (t.skeleton? env).map .not
  | string w => some (.string w)
  | length t => (t.skeleton? env).map .length
  | equals t u => (t.skeleton? env).bind fun s => (u.skeleton? env).map (.equals s)
  | constant c => some c.skeleton
  | churchToInt t => (t.skeleton? env).map fun s =>
      .app (.app s (Constant.skeleton .addOne)) (.int 0)
  | incrementEach t => (t.skeleton? env).map (.map (Constant.skeleton .addOne))

/-! ### Renaming -/

variable {Γ Δ : Context} {a b : Ty}

lemma Renaming.toFin_lift {r : Renaming Γ Δ} {f : Fin Γ.length → Fin Δ.length}
    (h : ∀ a (x : Var Γ a), (r x).toFin = f x.toFin) (x : Var (b :: Γ) a) :
    (r.lift x).toFin = Skeleton.lift f x.toFin := by
  cases x with
  | here => rfl
  | there x => exact congrArg Fin.succ (h a x)

lemma Plain.erase_rename (p : Plain Γ a) {r : Renaming Γ Δ} {f : Fin Γ.length → Fin Δ.length}
    (h : ∀ a (x : Var Γ a), (r x).toFin = f x.toFin) : (p.rename r).erase = p.erase.rename f := by
  induction p generalizing Δ with
  | var x => exact congrArg Skeleton.var (h _ x)
  | lam body ih => exact congrArg Skeleton.lam (ih fun _ => Renaming.toFin_lift h)
  | _ => simp_all [rename, erase, Skeleton.rename]

lemma Plain.erase_weaken (p : Plain Γ a) : (p.weaken (b := b)).erase = p.erase.weaken :=
  p.erase_rename fun _ _ => rfl

lemma Constant.erase_plain (c : Constant a) : (c.plain (Γ := Γ)).erase = c.skeleton := by
  have h : (c.plain (Γ := Γ)) = (c.plain (Γ := [])).rename Env.empty := by
    cases c with
    | numeral n =>
      change (Plain.numeral n : Plain Γ _) = (Plain.numeral n).rename _
      induction n with
      | zero => rfl
      | succ n ih => rw [Plain.numeral, ih]; rfl
    | intList ns =>
      change (Plain.intList ns : Plain Γ _) = (Plain.intList ns).rename _
      induction ns with
      | nil => rfl
      | cons n ns ih => exact congrArg (Plain.cons (.int n)) ih
    | _ => rfl
  rw [h]
  exact Plain.erase_rename _ fun _ x => nomatch x

/-! ### Written terms -/

/-- Each name in scope stands for the skeleton of the term its variable stands for. -/
def Agree (s : Scope) (σ : Substitution s.context Δ)
    (env : List (String × Skeleton Δ.length)) : Prop :=
  ∀ ⦃x a v⦄, s.find? x = some ⟨a, v⟩ → env.lookup x = some (σ v).erase

lemma lookup_map_weaken {n : Nat} (x : String) (env : List (String × Skeleton n)) :
    (env.map fun p => (p.1, p.2.weaken)).lookup x = (env.lookup x).map Skeleton.weaken := by
  induction env with
  | nil => rfl
  | cons p env ih =>
    rw [List.map_cons, List.lookup_cons, List.lookup_cons, ih]
    cases x == p.1 <;> rfl

lemma Agree.push {s : Scope} {σ : Substitution s.context Δ}
    {env : List (String × Skeleton Δ.length)} (h : Agree s σ env) (x : String) (p : Plain Δ b) :
    Agree ((x, b) :: s) (σ.push p) ((x, p.erase) :: env) := by
  intro y a v hv
  obtain ⟨rfl, hv⟩ | ⟨hy, w, hw, rfl⟩ := Scope.find?_cons_eq_some hv
  · cases hv
    rw [List.lookup_cons_self]
    rfl
  · rw [List.lookup_cons, beq_eq_false_iff_ne.mpr hy]
    exact h hw

lemma Agree.lift {s : Scope} {σ : Substitution s.context Δ}
    {env : List (String × Skeleton Δ.length)} (h : Agree s σ env) (x : String) (b : Ty) :
    Agree ((x, b) :: s) (Δ := b :: Δ) σ.lift
      ((x, .var (0 : Fin (Δ.length + 1))) :: env.map fun p => (p.1, p.2.weaken)) := by
  refine Agree.push (Δ := b :: Δ) ?_ x (.var .here)
  intro y a v hv
  rw [lookup_map_weaken, h hv]
  exact congrArg some (σ v).erase_weaken.symm

theorem Named.skeleton?_of_elaborates {s : Scope} {t : Named} {a : Ty} {e : Expr s.context a}
    (h : Elaborates s t e) {σ : Substitution s.context Δ}
    {env : List (String × Skeleton Δ.length)} (hσ : Agree s σ env) :
    t.skeleton? env = some (e.expand σ).erase := by
  induction h generalizing Δ with
  | var h => exact hσ h
  | lam h ih => simpa [skeleton?, Expr.expand, Plain.erase] using ih (hσ.lift _ _)
  | share h₁ h₂ ih₁ ih₂ =>
    simpa [skeleton?, Expr.expand, ih₁ hσ] using ih₂ (hσ.push _ _)
  | app h₁ h₂ ih₁ ih₂ | add h₁ h₂ ih₁ ih₂ | cons h₁ h₂ ih₁ ih₂ | map h₁ h₂ ih₁ ih₂
  | equals g h₁ h₂ ih₁ ih₂ => simp [skeleton?, Expr.expand, Plain.erase, ih₁ hσ, ih₂ hσ]
  | ite h₁ h₂ h₃ ih₁ ih₂ ih₃ =>
    simp [skeleton?, Expr.expand, Plain.erase, ih₁ hσ, ih₂ hσ, ih₃ hσ]
  | not h ih | length c h ih => simp [skeleton?, Expr.expand, Plain.erase, ih hσ]
  | int | nil | bool | string => rfl
  | constant c => exact congrArg some c.erase_plain.symm
  | churchToInt h ih =>
    simp [skeleton?, ih hσ, Expr.churchToInt, Expr.expand, Plain.erase, Constant.erase_plain]
  | incrementEach h ih =>
    simp [skeleton?, ih hσ, Expr.incrementEach, Expr.expand, Plain.erase, Constant.erase_plain]

/-- **A written term and its expression have one skeleton.** -/
theorem Named.skeleton?_eq {t : Named} {a : Ty} {e : Expr [] a}
    (h : t.elaborate? [] = some ⟨a, e⟩) : t.skeleton? [] = some e.skeleton :=
  skeleton?_of_elaborates (s := []) (Δ := []) (elaborates_of_elaborate? h)
    (fun _ _ _ hv => nomatch hv)

end TypedLambda
