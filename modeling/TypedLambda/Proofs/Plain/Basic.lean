import Mathlib.Tactic.Common
import TypedLambda.Expr.Basic

/-!
Plain terms: nothing in them is shared and no closed term has a name, so application and
abstraction are all there is to binding. They are moved along renamings and filled in by
substitutions, and both agree with a change of the environment in every representation.
-/

namespace TypedLambda

inductive Plain : Context → Ty → Type
  | var {Γ : Context} {a : Ty} (x : Var Γ a) : Plain Γ a
  | lam {Γ : Context} {a b : Ty} (body : Plain (a :: Γ) b) : Plain Γ (.fn a b)
  | app {Γ : Context} {a b : Ty} (f : Plain Γ (.fn a b)) (x : Plain Γ a) : Plain Γ b
  | int {Γ : Context} (n : Int64) : Plain Γ .int
  | add {Γ : Context} (l r : Plain Γ .int) : Plain Γ .int
  | nil {Γ : Context} {a : Ty} : Plain Γ (.list a)
  | cons {Γ : Context} {a : Ty} (h : Plain Γ a) (t : Plain Γ (.list a)) : Plain Γ (.list a)
  | map {Γ : Context} {a b : Ty} (f : Plain Γ (.fn a b)) (xs : Plain Γ (.list a)) :
      Plain Γ (.list b)
  | bool {Γ : Context} (b : Bool) : Plain Γ .bool
  | ite {Γ : Context} {a : Ty} (c : Plain Γ .bool) (p n : Plain Γ a) : Plain Γ a
  | not {Γ : Context} (x : Plain Γ .bool) : Plain Γ .bool
  | string {Γ : Context} (s : String) : Plain Γ .string
  | length {Γ : Context} {a : Ty} (h : a.Countable) (xs : Plain Γ a) : Plain Γ .int
  | equals {Γ : Context} {a : Ty} (h : a.Ground) (l r : Plain Γ a) : Plain Γ .bool

/-- A variable of one context for each variable of another, of the same type. -/
abbrev Renaming (Γ Δ : Context) := Env (Var Δ) Γ

/-- A plain term for each variable, of the same type. -/
abbrev Substitution (Γ Δ : Context) := Env (Plain Δ) Γ

variable {Γ Δ Θ : Context} {a b : Ty}

namespace Env

variable {R S : Ty → Type}

@[ext] lemma ext {ρ η : Env R Γ} (h : ∀ a (x : Var Γ a), ρ x = η x) : ρ = η :=
  funext fun a => funext (h a)

lemma eq_empty (ρ : Env R []) : ρ = empty := by
  ext a x
  cases x

def map (f : ∀ ⦃a⦄, R a → S a) (ρ : Env R Γ) : Env S Γ := fun _ x => f (ρ x)

/-- What the environment has for the new name of each variable. -/
def comap (ρ : Env R Δ) (r : Renaming Γ Δ) : Env R Γ := fun _ x => ρ (r x)

@[simp] lemma map_apply (f : ∀ ⦃a⦄, R a → S a) (ρ : Env R Γ) (x : Var Γ a) :
    ρ.map f x = f (ρ x) := rfl

@[simp] lemma comap_apply (ρ : Env R Δ) (r : Renaming Γ Δ) (x : Var Γ a) :
    ρ.comap r x = ρ (r x) := rfl

lemma map_push (f : ∀ ⦃a⦄, R a → S a) (ρ : Env R Γ) (y : R b) :
    (ρ.push y).map f = (ρ.map f).push (f y) := by
  ext a x
  cases x <;> rfl

end Env

/-- The renaming under one more binder. -/
def Renaming.lift (r : Renaming Γ Δ) : Renaming (b :: Γ) (b :: Δ) :=
  Env.push (fun _ x => (r x).there) .here

def Renaming.weaken : Renaming Γ (b :: Γ) := fun _ x => x.there

namespace Plain

def rename {Γ Δ : Context} {a : Ty} (r : Renaming Γ Δ) (p : Plain Γ a) : Plain Δ a :=
  match p with
  | var x => var (r x)
  | lam body => lam (body.rename r.lift)
  | app f x => app (f.rename r) (x.rename r)
  | int n => int n
  | add l s => add (l.rename r) (s.rename r)
  | nil => nil
  | cons h t => cons (h.rename r) (t.rename r)
  | map f xs => map (f.rename r) (xs.rename r)
  | bool b => bool b
  | ite c p n => ite (c.rename r) (p.rename r) (n.rename r)
  | not x => not (x.rename r)
  | string s => string s
  | length h xs => length h (xs.rename r)
  | equals h l s => equals h (l.rename r) (s.rename r)

/-- The term under one more binder. -/
def weaken (p : Plain Γ a) : Plain (b :: Γ) a := p.rename .weaken

end Plain

/-- The substitution under one more binder, which captures no variable of its terms. -/
def Substitution.lift (s : Substitution Γ Δ) : Substitution (b :: Γ) (b :: Δ) :=
  Env.push (fun _ x => (s x).weaken) (.var .here)

protected def Substitution.id : Substitution Γ Γ := fun _ x => .var x

namespace Plain

def subst {Γ Δ : Context} {a : Ty} (s : Substitution Γ Δ) (p : Plain Γ a) : Plain Δ a :=
  match p with
  | var x => s x
  | lam body => lam (body.subst s.lift)
  | app f x => app (f.subst s) (x.subst s)
  | int n => int n
  | add l r => add (l.subst s) (r.subst s)
  | nil => nil
  | cons h t => cons (h.subst s) (t.subst s)
  | map f xs => map (f.subst s) (xs.subst s)
  | bool b => bool b
  | ite c p n => ite (c.subst s) (p.subst s) (n.subst s)
  | not x => not (x.subst s)
  | string t => string t
  | length h xs => length h (xs.subst s)
  | equals h l r => equals h (l.subst s) (r.subst s)

/-- The term in the place of the innermost variable. -/
def instantiate (p : Plain (b :: Γ) a) (e : Plain Γ b) : Plain Γ a :=
  p.subst (Substitution.id.push e)

def interpret (R : Ty → Type) [Representation R] {Γ : Context} {a : Ty} (p : Plain Γ a)
    (ρ : Env R Γ) : R a :=
  match p with
  | var x => ρ x
  | lam body => Binding.lambda fun x => body.interpret R (ρ.push x)
  | app f x => Binding.apply (f.interpret R ρ) (x.interpret R ρ)
  | int n => Arithmetic.int n
  | add l r => Arithmetic.add (l.interpret R ρ) (r.interpret R ρ)
  | nil => Sequences.nil
  | cons h t => Sequences.cons (h.interpret R ρ) (t.interpret R ρ)
  | map f xs => Sequences.map (f.interpret R ρ) (xs.interpret R ρ)
  | bool b => Booleans.bool b
  | ite c p n => Booleans.ite (c.interpret R ρ) (p.interpret R ρ) (n.interpret R ρ)
  | not x => Booleans.not (x.interpret R ρ)
  | string s => Strings.string s
  | length h xs => Inspection.length h (xs.interpret R ρ)
  | equals h l r => Inspection.equals h (l.interpret R ρ) (r.interpret R ρ)

/-- The value of a closed plain term. -/
def value (p : Plain [] a) : a.Value := p.interpret Ty.Value Env.empty

end Plain

/-! ### Composition -/

lemma Env.push_comap_lift {R : Ty → Type} (r : Renaming Γ Δ) (ρ : Env R Δ) (y : R b) :
    (ρ.push y).comap r.lift = (ρ.comap r).push y := by
  ext a x
  cases x <;> rfl

lemma Renaming.lift_comap_lift (r : Renaming Γ Δ) (s : Renaming Δ Θ) :
    Env.comap (s.lift (b := b)) r.lift = Renaming.lift (s.comap r) := by
  ext a x
  cases x <;> rfl

lemma Substitution.lift_comap_lift (r : Renaming Γ Δ) (s : Substitution Δ Θ) :
    Env.comap (s.lift (b := b)) r.lift = Substitution.lift (s.comap r) := by
  ext a x
  cases x <;> rfl

namespace Plain

lemma rename_rename (p : Plain Γ a) (r : Renaming Γ Δ) (s : Renaming Δ Θ) :
    (p.rename r).rename s = p.rename (s.comap r) := by
  induction p generalizing Δ Θ with
  | lam body ih => rw [rename, rename, rename, ih, Renaming.lift_comap_lift]
  | _ => simp_all [rename]

lemma weaken_rename_lift (p : Plain Γ a) (r : Renaming Γ Δ) :
    (p.weaken (b := b)).rename r.lift = (p.rename r).weaken := by
  rw [weaken, weaken, rename_rename, rename_rename]
  rfl

lemma subst_rename (p : Plain Γ a) (r : Renaming Γ Δ) (s : Substitution Δ Θ) :
    (p.rename r).subst s = p.subst (s.comap r) := by
  induction p generalizing Δ Θ with
  | lam body ih => rw [rename, subst, subst, ih, Substitution.lift_comap_lift]
  | _ => simp_all [rename, subst]

lemma lift_map_rename (s : Substitution Γ Δ) (r : Renaming Δ Θ) :
    Env.map (fun _ p => p.rename r.lift) (s.lift (b := b)) =
      Substitution.lift (s.map fun _ p => p.rename r) := by
  ext a x
  cases x with
  | here => rfl
  | there x => exact weaken_rename_lift (s x) r

lemma rename_subst (p : Plain Γ a) (s : Substitution Γ Δ) (r : Renaming Δ Θ) :
    (p.subst s).rename r = p.subst (s.map fun _ q => q.rename r) := by
  induction p generalizing Δ Θ with
  | lam body ih => rw [subst, rename, subst, ih, lift_map_rename]
  | _ => simp_all [rename, subst]

lemma weaken_subst_lift (p : Plain Γ a) (s : Substitution Γ Δ) :
    (p.weaken (b := b)).subst s.lift = (p.subst s).weaken := by
  rw [weaken, weaken, subst_rename, rename_subst]
  rfl

lemma lift_map_subst (s : Substitution Γ Δ) (t : Substitution Δ Θ) :
    Env.map (fun _ p => p.subst t.lift) (s.lift (b := b)) =
      Substitution.lift (s.map fun _ p => p.subst t) := by
  ext a x
  cases x with
  | here => rfl
  | there x => exact weaken_subst_lift (s x) t

lemma subst_subst (p : Plain Γ a) (s : Substitution Γ Δ) (t : Substitution Δ Θ) :
    (p.subst s).subst t = p.subst (s.map fun _ q => q.subst t) := by
  induction p generalizing Δ Θ with
  | lam body ih => rw [subst, subst, subst, ih, lift_map_subst]
  | _ => simp_all [subst]

lemma lift_id : Substitution.lift (b := b) (Γ := Γ) .id = .id := by
  ext a x
  cases x <;> rfl

lemma subst_id (p : Plain Γ a) : p.subst .id = p := by
  induction p with
  | var x => rfl
  | lam body ih => rw [subst, lift_id, ih]
  | _ => simp_all [subst]

lemma weaken_instantiate (p : Plain Γ a) (e : Plain Γ b) : p.weaken.instantiate e = p := by
  rw [weaken, instantiate, subst_rename]
  exact subst_id p

/-- Filling in under a binder and then putting a term in the binder's place fills in both at
once. -/
lemma subst_lift_instantiate (p : Plain (b :: Γ) a) (s : Substitution Γ Δ) (e : Plain Δ b) :
    (p.subst s.lift).instantiate e = p.subst (s.push e) := by
  rw [instantiate, subst_subst]
  congr 1
  ext c x
  cases x with
  | here => rfl
  | there x => exact weaken_instantiate (s x) e

/-! ### Environments -/

variable {R : Ty → Type} [Representation R]

theorem interpret_rename (p : Plain Γ a) (r : Renaming Γ Δ) (ρ : Env R Δ) :
    (p.rename r).interpret R ρ = p.interpret R (ρ.comap r) := by
  induction p generalizing Δ with
  | lam body ih =>
    refine congrArg Binding.lambda (funext fun y => ?_)
    rw [ih, Env.push_comap_lift]
  | _ => simp_all [rename, interpret]

@[simp] lemma interpret_weaken (p : Plain Γ a) (ρ : Env R Γ) (y : R b) :
    p.weaken.interpret R (ρ.push y) = p.interpret R ρ :=
  interpret_rename p .weaken (ρ.push y)

lemma interpret_lift (s : Substitution Γ Δ) (ρ : Env R Δ) (y : R b) :
    Env.map (fun _ p => p.interpret R (ρ.push y)) s.lift =
      (Env.map (fun _ p => p.interpret R ρ) s).push y := by
  ext c x
  cases x with
  | here => rfl
  | there x => exact interpret_weaken (s x) ρ y

/-- Substitution comes to the same as a change of the environment. -/
theorem interpret_subst (p : Plain Γ a) (s : Substitution Γ Δ) (ρ : Env R Δ) :
    (p.subst s).interpret R ρ = p.interpret R (s.map fun _ q => q.interpret R ρ) := by
  induction p generalizing Δ with
  | lam body ih =>
    refine congrArg Binding.lambda (funext fun y => ?_)
    rw [ih, interpret_lift]
  | _ => simp_all [subst, interpret]

theorem interpret_instantiate (p : Plain (b :: Γ) a) (e : Plain Γ b) (ρ : Env R Γ) :
    (p.instantiate e).interpret R ρ = p.interpret R (ρ.push (e.interpret R ρ)) := by
  rw [instantiate, interpret_subst, Env.map_push]
  rfl

end Plain

end TypedLambda
