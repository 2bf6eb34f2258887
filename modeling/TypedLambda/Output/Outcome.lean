/-!
What a program says on its two outputs, and how it ends.
-/

namespace TypedLambda

structure Speech where
  out : String
  err : String
  deriving DecidableEq, Repr

namespace Speech

def silence : Speech := ⟨"", ""⟩

def outLine (s : String) : Speech := ⟨s ++ "\n", ""⟩

def errLine (s : String) : Speech := ⟨"", s ++ "\n"⟩

instance : Append Speech := ⟨fun x y => ⟨x.out ++ y.out, x.err ++ y.err⟩⟩

@[simp] theorem out_append (x y : Speech) : (x ++ y).out = x.out ++ y.out := rfl

@[simp] theorem err_append (x y : Speech) : (x ++ y).err = x.err ++ y.err := rfl

theorem append_assoc (x y z : Speech) : x ++ y ++ z = x ++ (y ++ z) := by
  change Speech.mk _ _ = Speech.mk _ _
  simp [String.append_assoc]

end Speech

/-- A program that has run, with its exit code. -/
structure Outcome extends Speech where
  code : Nat
  deriving DecidableEq, Repr

end TypedLambda
