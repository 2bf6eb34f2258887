import TypedLambda.Ty

/-!
Variables without names. A context lists the types of the variables in scope, the innermost
first, and a variable is a place in that list.
-/

namespace TypedLambda

abbrev Context := List Ty

inductive Var : Context → Ty → Type
  | here {Γ : Context} {a : Ty} : Var (a :: Γ) a
  | there {Γ : Context} {a b : Ty} (x : Var Γ a) : Var (b :: Γ) a
  deriving DecidableEq, Repr

/-- How many variables are further in. -/
def Var.index {Γ : Context} {a : Ty} : Var Γ a → Nat
  | here => 0
  | there x => x.index + 1

/-- Something of its type for each variable in scope. -/
def Env (R : Ty → Type) (Γ : Context) : Type := ∀ ⦃a : Ty⦄, Var Γ a → R a

namespace Env

variable {R : Ty → Type} {Γ : Context} {a b : Ty}

def empty : Env R [] := fun _ x => nomatch x

def push (ρ : Env R Γ) (y : R b) : Env R (b :: Γ)
  | _, .here => y
  | _, .there x => ρ x

@[simp] theorem push_here (ρ : Env R Γ) (y : R b) : ρ.push y Var.here = y := rfl

@[simp] theorem push_there (ρ : Env R Γ) (y : R b) (x : Var Γ a) :
    ρ.push y x.there = ρ x := rfl

end Env

end TypedLambda
