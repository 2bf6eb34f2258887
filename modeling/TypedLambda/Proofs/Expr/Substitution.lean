import TypedLambda.Proofs.Plain.Basic

/-!
Expressions moved along renamings and filled in by expressions, with what they share left
shared. Both agree with a change of the environment in every representation.
-/

namespace TypedLambda

variable {Γ Δ : Context} {a b : Ty}

namespace Expr

def rename {Γ Δ : Context} {a : Ty} (r : Renaming Γ Δ) (e : Expr Γ a) : Expr Δ a :=
  match e with
  | var x => var (r x)
  | lam body => lam (body.rename r.lift)
  | share e body => share (e.rename r) (body.rename r.lift)
  | app f x => app (f.rename r) (x.rename r)
  | int n => int n
  | add l s => add (l.rename r) (s.rename r)
  | nil => nil
  | cons h t => cons (h.rename r) (t.rename r)
  | map f xs => map (f.rename r) (xs.rename r)
  | bool b => bool b
  | ite c p n => ite (c.rename r) (p.rename r) (n.rename r)
  | not x => not (x.rename r)
  | string s => string s
  | length h xs => length h (xs.rename r)
  | equals h l s => equals h (l.rename r) (s.rename r)
  | constant c => constant c

/-- The expression under one more binder. -/
def weaken (e : Expr Γ a) : Expr (b :: Γ) a := e.rename .weaken

/-- An expression for each variable, of the same type. -/
abbrev Filling (Γ Δ : Context) := Env (Expr Δ) Γ

/-- The filling under one more binder, which captures no variable of its expressions. -/
def Filling.lift (s : Filling Γ Δ) : Filling (b :: Γ) (b :: Δ) :=
  Env.push (fun _ x => (s x).weaken) (var .here)

protected def Filling.id : Filling Γ Γ := fun _ x => var x

def fill {Γ Δ : Context} {a : Ty} (s : Filling Γ Δ) (e : Expr Γ a) : Expr Δ a :=
  match e with
  | var x => s x
  | lam body => lam (body.fill s.lift)
  | share e body => share (e.fill s) (body.fill s.lift)
  | app f x => app (f.fill s) (x.fill s)
  | int n => int n
  | add l r => add (l.fill s) (r.fill s)
  | nil => nil
  | cons h t => cons (h.fill s) (t.fill s)
  | map f xs => map (f.fill s) (xs.fill s)
  | bool b => bool b
  | ite c p n => ite (c.fill s) (p.fill s) (n.fill s)
  | not x => not (x.fill s)
  | string t => string t
  | length h xs => length h (xs.fill s)
  | equals h l r => equals h (l.fill s) (r.fill s)
  | constant c => constant c

/-- The expression in the place of the innermost variable. -/
def instantiate (f : Expr (b :: Γ) a) (e : Expr Γ b) : Expr Γ a :=
  f.fill (Filling.id.push e)

/-! ### Environments -/

variable {R : Ty → Type} [Representation R]

theorem interpret_rename (e : Expr Γ a) (r : Renaming Γ Δ) (ρ : Env R Δ) :
    (e.rename r).interpret R ρ = e.interpret R (ρ.comap r) := by
  induction e generalizing Δ with
  | lam body ih =>
    refine congrArg Binding.lambda (funext fun y => ?_)
    rw [ih, Env.push_comap_lift]
  | share e body ih₁ ih₂ => rw [rename, interpret, ih₁, ih₂, Env.push_comap_lift, interpret]
  | _ => simp_all [rename, interpret]

@[simp] lemma interpret_weaken (e : Expr Γ a) (ρ : Env R Γ) (y : R b) :
    e.weaken.interpret R (ρ.push y) = e.interpret R ρ :=
  interpret_rename e .weaken (ρ.push y)

lemma Filling.interpret_lift (s : Filling Γ Δ) (ρ : Env R Δ) (y : R b) :
    Env.map (fun _ e => e.interpret R (ρ.push y)) s.lift =
      (Env.map (fun _ e => e.interpret R ρ) s).push y := by
  ext c x
  cases x with
  | here => rfl
  | there x => exact interpret_weaken (s x) ρ y

theorem interpret_fill (e : Expr Γ a) (s : Filling Γ Δ) (ρ : Env R Δ) :
    (e.fill s).interpret R ρ = e.interpret R (s.map fun _ f => f.interpret R ρ) := by
  induction e generalizing Δ with
  | lam body ih =>
    refine congrArg Binding.lambda (funext fun y => ?_)
    rw [ih, Filling.interpret_lift]
  | share e body ih₁ ih₂ => rw [fill, interpret, ih₁, ih₂, Filling.interpret_lift, interpret]
  | _ => simp_all [fill, interpret]

/-- What is in the place of the innermost variable is read as what is shared is. -/
theorem interpret_instantiate (f : Expr (b :: Γ) a) (e : Expr Γ b) (ρ : Env R Γ) :
    (f.instantiate e).interpret R ρ = f.interpret R (ρ.push (e.interpret R ρ)) := by
  rw [instantiate, interpret_fill, Env.map_push]
  rfl

end Expr

end TypedLambda
