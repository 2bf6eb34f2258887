import TypedLambda.Church

/-!
Small terms over lists, booleans and texts, to show each group of operations at work.
-/

namespace TypedLambda.Sample

open Binding Arithmetic Sequences Booleans Strings Inspection

variable {R : Ty → Type}

/-- The list of the given numbers. -/
def intList [Arithmetic R] [Sequences R] (ns : List Int64) : R (.list .int) :=
  ns.foldr (fun n t => cons (int n) t) nil

def incrementEach [Binding R] [Arithmetic R] [Sequences R] (xs : R (.list .int)) : R (.list .int) :=
  map Church.addOne xs

def branch [Booleans R] : R .bool := ite (not (bool true)) (bool false) (bool true)

/-- Zero, and behind it three numbers if a sum comes out right. -/
def guardedList [Arithmetic R] [Sequences R] [Booleans R] [Inspection R] : R (.list .int) :=
  cons (int 0) (ite (equals .int (add (int 23) (int 27)) (int 50)) (intList [1, 2, 3]) nil)

def mapNot [Binding R] [Sequences R] [Booleans R] : R (.list .bool) :=
  map (lambda not) (cons (bool true) (cons (bool false) nil))

def increments [Binding R] [Arithmetic R] [Sequences R] : R (.list .int) :=
  incrementEach (intList [1, 2, 3])

def greetingLength [Strings R] [Inspection R] : R .int := length .string (string "hello, world")

end TypedLambda.Sample
