import TypedLambda.Combinator

/-!
Church numerals: the number `n` is the term that takes a step and a start and applies the step
`n` times. A numeral over numbers of the language can be read back as one of them.
-/

namespace TypedLambda.Church

open Binding Arithmetic

section

variable {R : Ty → Type} [Binding R] {a : Ty}

/-- One step more than its argument takes. -/
def succ : R (.fn a.church a.church) :=
  lambda fun n => lambda fun f => lambda fun x => apply f (apply (apply n f) x)

/-- Drops the step and keeps the start. -/
def zero : R a.church := apply Combinator.const Combinator.identity

def numeral : Nat → R a.church
  | 0 => zero
  | n + 1 => apply succ (numeral n)

end

variable {R : Ty → Type} [Binding R] [Arithmetic R]

def addOne : R (.fn .int .int) := lambda fun x => add x (int 1)

/-- Counts the steps of a numeral from zero. -/
def toInt (n : R (Ty.church .int)) : R .int := apply (apply n addOne) (int 0)

def twoToInt : R .int := toInt (numeral 2)

end TypedLambda.Church
