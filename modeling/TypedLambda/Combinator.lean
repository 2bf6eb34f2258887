import TypedLambda.Representation

/-!
Combinators built from application and abstraction alone, so that every representation with
those two has them.
-/

namespace TypedLambda.Combinator

open Binding

variable {R : Ty → Type} [Binding R] {a b c : Ty}

def identity : R (.fn a a) := lambda fun x => x

/-- The identity applied to itself. -/
def selfApplication : R (.fn a a) := apply identity identity

/-- Hands its first argument to its second. -/
def thrush : R (.fn a (.fn (.fn a b) b)) := lambda fun x => lambda fun f => apply f x

/-- Keeps its first argument and drops its second. -/
def const : R (.fn a (.fn b a)) := lambda fun x => lambda fun _ => x

def compose : R (.fn (.fn b c) (.fn (.fn a b) (.fn a c))) :=
  lambda fun f => lambda fun g => lambda fun x => apply f (apply g x)

/-- Takes two arguments in the other order. -/
def flip : R (.fn (.fn a (.fn b c)) (.fn b (.fn a c))) :=
  lambda fun f => lambda fun y => lambda fun x => apply (apply f x) y

end TypedLambda.Combinator
