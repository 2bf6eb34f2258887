import TypedLambda.Action

/-!
Places that take lines, one at a time. A writer may fail, and it keeps the state that the failed
attempt left.
-/

namespace TypedLambda

structure LineWriter (σ ε : Type) where
  write (line : String) : Action σ ε Unit

namespace LineWriter

variable {σ ε : Type}

/-- Lines written one after the other, going on after failures. -/
def attempts (writer : LineWriter σ ε) (lines : List String) : σ → List (Except ε Unit × σ) :=
  Action.trace (lines.map writer.write)

/-- Keeps every line. -/
def memory : LineWriter (List String) Empty where
  write line := modify (· ++ [line])

/-- Keeps every line as text that ends in a line feed. -/
def transcript : LineWriter String Empty where
  write line := modify (· ++ line ++ "\n")

/-- The writer holds as many lines as it takes. -/
structure Full where
  held : Nat
  deriving DecidableEq, Repr

def Full.message (e : Full) : String := e.held.repr

/-- Takes lines until it holds `limit` of them. -/
def limited (limit : Nat) : LineWriter (List String) Full where
  write line := do
    let held ← get
    if held.length < limit then set (held ++ [line]) else throw ⟨held.length⟩

end LineWriter

end TypedLambda
