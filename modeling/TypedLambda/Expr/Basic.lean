import TypedLambda.Evaluation
import TypedLambda.Expr.Constant
import TypedLambda.Expr.Variable
import TypedLambda.Rendering

/-!
Terms as data. An expression is well typed by construction, and its variables are places in
the context. `Expr.interpret` reads an expression in any representation; its text and its value
are the two readings this library is about.

`share` names a term for use in another one. It is not an abstraction applied at once: the
shared term is built before and outside the term that uses it, and leaves no trace of its own.
-/

namespace TypedLambda

inductive Expr : Context → Ty → Type
  | var {Γ : Context} {a : Ty} (x : Var Γ a) : Expr Γ a
  | lam {Γ : Context} {a b : Ty} (body : Expr (a :: Γ) b) : Expr Γ (.fn a b)
  | share {Γ : Context} {a b : Ty} (e : Expr Γ a) (body : Expr (a :: Γ) b) : Expr Γ b
  | app {Γ : Context} {a b : Ty} (f : Expr Γ (.fn a b)) (x : Expr Γ a) : Expr Γ b
  | int {Γ : Context} (n : Int64) : Expr Γ .int
  | add {Γ : Context} (l r : Expr Γ .int) : Expr Γ .int
  | nil {Γ : Context} {a : Ty} : Expr Γ (.list a)
  | cons {Γ : Context} {a : Ty} (h : Expr Γ a) (t : Expr Γ (.list a)) : Expr Γ (.list a)
  | map {Γ : Context} {a b : Ty} (f : Expr Γ (.fn a b)) (xs : Expr Γ (.list a)) :
      Expr Γ (.list b)
  | bool {Γ : Context} (b : Bool) : Expr Γ .bool
  | ite {Γ : Context} {a : Ty} (c : Expr Γ .bool) (p n : Expr Γ a) : Expr Γ a
  | not {Γ : Context} (x : Expr Γ .bool) : Expr Γ .bool
  | string {Γ : Context} (s : String) : Expr Γ .string
  | length {Γ : Context} {a : Ty} (h : a.Countable) (xs : Expr Γ a) : Expr Γ .int
  | equals {Γ : Context} {a : Ty} (h : a.Ground) (l r : Expr Γ a) : Expr Γ .bool
  | constant {Γ : Context} {a : Ty} (c : Constant a) : Expr Γ a

namespace Expr

variable {Γ : Context} {a : Ty}

def churchToInt (n : Expr Γ (Ty.church .int)) : Expr Γ .int :=
  .app (.app n (.constant .addOne)) (.int 0)

def incrementEach (xs : Expr Γ (.list .int)) : Expr Γ (.list .int) :=
  .map (.constant .addOne) xs

def interpret (R : Ty → Type) [Representation R] {Γ : Context} {a : Ty} (e : Expr Γ a)
    (ρ : Env R Γ) : R a :=
  match e with
  | var x => ρ x
  | lam body => Binding.lambda fun x => body.interpret R (ρ.push x)
  | share e body => body.interpret R (ρ.push (e.interpret R ρ))
  | app f x => Binding.apply (f.interpret R ρ) (x.interpret R ρ)
  | int n => Arithmetic.int n
  | add l r => Arithmetic.add (l.interpret R ρ) (r.interpret R ρ)
  | nil => Sequences.nil
  | cons h t => Sequences.cons (h.interpret R ρ) (t.interpret R ρ)
  | map f xs => Sequences.map (f.interpret R ρ) (xs.interpret R ρ)
  | bool b => Booleans.bool b
  | ite c p n => Booleans.ite (c.interpret R ρ) (p.interpret R ρ) (n.interpret R ρ)
  | not x => Booleans.not (x.interpret R ρ)
  | string s => Strings.string s
  | length h xs => Inspection.length h (xs.interpret R ρ)
  | equals h l r => Inspection.equals h (l.interpret R ρ) (r.interpret R ρ)
  | constant c => c.interpret R

theorem interpret_churchToInt {R : Ty → Type} [Representation R]
    (n : Expr Γ (Ty.church .int)) (ρ : Env R Γ) :
    n.churchToInt.interpret R ρ = Church.toInt (n.interpret R ρ) := rfl

theorem interpret_incrementEach {R : Ty → Type} [Representation R]
    (xs : Expr Γ (.list .int)) (ρ : Env R Γ) :
    xs.incrementEach.interpret R ρ = Sample.incrementEach (xs.interpret R ρ) := rfl

/-- The text of a closed term whose first binder has the given number. -/
def renderFrom (e : Expr [] a) (i : Counter) : Except RenderError String :=
  e.interpret Rendered Env.empty i

def render (e : Expr [] a) : Except RenderError String := e.renderFrom .zero

/-- The value of a closed term. -/
def value (e : Expr [] a) : a.Value := e.interpret Ty.Value Env.empty

end Expr

end TypedLambda
