import TypedLambda.Sample

/-!
The closed terms that have a name, with the types they are taken at.
-/

namespace TypedLambda

inductive Constant : Ty → Type
  | identity {a : Ty} : Constant (.fn a a)
  | selfApplication {a : Ty} : Constant (.fn a a)
  | thrush {a b : Ty} : Constant (.fn a (.fn (.fn a b) b))
  | const {a b : Ty} : Constant (.fn a (.fn b a))
  | compose {a b c : Ty} : Constant (.fn (.fn b c) (.fn (.fn a b) (.fn a c)))
  | flip {a b c : Ty} : Constant (.fn (.fn a (.fn b c)) (.fn b (.fn a c)))
  | succ {a : Ty} : Constant (.fn a.church a.church)
  | numeral {a : Ty} (n : Nat) : Constant a.church
  | addOne : Constant (.fn .int .int)
  | twoToInt : Constant .int
  | intList (ns : List Int64) : Constant (.list .int)
  | branch : Constant .bool
  | guardedList : Constant (.list .int)
  | mapNot : Constant (.list .bool)
  | increments : Constant (.list .int)
  | greetingLength : Constant .int

/-- The constant in a given representation. -/
def Constant.interpret (R : Ty → Type) [Representation R] : {a : Ty} → Constant a → R a
  | _, identity => Combinator.identity
  | _, selfApplication => Combinator.selfApplication
  | _, thrush => Combinator.thrush
  | _, const => Combinator.const
  | _, compose => Combinator.compose
  | _, flip => Combinator.flip
  | _, succ => Church.succ
  | _, numeral n => Church.numeral n
  | _, addOne => Church.addOne
  | _, twoToInt => Church.twoToInt
  | _, intList ns => Sample.intList ns
  | _, branch => Sample.branch
  | _, guardedList => Sample.guardedList
  | _, mapNot => Sample.mapNot
  | _, increments => Sample.increments
  | _, greetingLength => Sample.greetingLength

end TypedLambda
