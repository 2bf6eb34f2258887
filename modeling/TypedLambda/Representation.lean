import TypedLambda.Ty

/-!
What it takes to stand for the terms of the language. A representation gives every type
some meaning, and each class below gives it one group of operations. A term written
against these classes has a meaning in every representation that carries them, and asks
for no group it does not use.

Variables have no names here: abstraction takes a function of the host, so that it is the
representation which decides what stands for a bound variable.
-/

namespace TypedLambda

class Binding (R : Ty → Type) where
  apply {a b : Ty} (f : R (.fn a b)) (x : R a) : R b
  lambda {a b : Ty} (body : R a → R b) : R (.fn a b)

class Arithmetic (R : Ty → Type) where
  int (n : Int64) : R .int
  add (l r : R .int) : R .int

class Sequences (R : Ty → Type) where
  nil {a : Ty} : R (.list a)
  cons {a : Ty} (h : R a) (t : R (.list a)) : R (.list a)
  map {a b : Ty} (f : R (.fn a b)) (xs : R (.list a)) : R (.list b)

class Booleans (R : Ty → Type) where
  bool (b : Bool) : R .bool
  /-- Both branches are terms; neither is hidden from the representation. -/
  ite {a : Ty} (c : R .bool) (p n : R a) : R a
  not (x : R .bool) : R .bool

class Strings (R : Ty → Type) where
  string (s : String) : R .string

/-- The operations that look into data: they turn on what their operands are, not only on
how they were made. -/
class Inspection (R : Ty → Type) where
  length {a : Ty} (h : a.Countable) (xs : R a) : R .int
  equals {a : Ty} (h : a.Ground) (l r : R a) : R .bool

class Representation (R : Ty → Type) extends
  Binding R, Arithmetic R, Sequences R, Booleans R, Strings R, Inspection R

end TypedLambda
