import TypedLambda.Gallery
import TypedLambda.Output.LineWriter
import TypedLambda.Output.Outcome

/-!
A tour writes the text of every exhibit to a writer of lines, in order, one line each.
-/

namespace TypedLambda

variable {σ ε : Type}

/-- Stops at the first line that fails, with that failure. A tour that comes to its end says
how many lines it wrote. -/
def tour (writer : LineWriter σ ε) : Action σ ε Nat := do
  Exhibit.all.forM fun x => writer.write x.text
  return Exhibit.all.length

/-- Tours for one writer, one after the other, each from the first exhibit on. -/
def tours (writer : LineWriter σ ε) (n : Nat) : σ → List (Except ε Nat × σ) :=
  Action.trace (List.replicate n (tour writer))

/-- The program that gives one tour. -/
def tourOutcome : Outcome where
  out := ((tour LineWriter.transcript).perform "").2
  err := ""
  code := 0

end TypedLambda
