import TypedLambda.Action
import TypedLambda.Input.Continued
import TypedLambda.Input.Lines
import TypedLambda.Text.Quoted

/-!
A dialogue with whoever sends lines: each input is handled once it is complete, and after each
success the history is saved. The dialogue ends with the lines, or with the first failure to
handle an input, to save or to read.
-/

namespace TypedLambda

/-- Whoever takes the inputs. -/
structure Handler (σ ε : Type) where
  handle (input : String) : Action σ ε Unit
  /-- Saves the history, in which the input is the last. -/
  save (input : String) : Action σ InputError Unit

inductive DialogueError (ε : Type) where
  | input (e : InputError)
  | command (e : ε)
  deriving DecidableEq, Repr

/-- The cause of a failed command is quoted, that of a failed read or save is told as it is. -/
def DialogueError.message : DialogueError String → String
  | input e => e.message
  | command e => "Command failed: " ++ Text.Quoted.quote e

namespace Handler

variable {σ ε : Type}

/-- Nothing is saved after an input that is refused. -/
def accept (h : Handler σ ε) (input : String) : Action σ (DialogueError ε) Unit := do
  (h.handle input).adapt .command
  (h.save input).adapt .input

theorem perform_accept (h : Handler σ ε) (input : String) (s : σ) :
    (h.accept input).perform s = match (h.handle input).perform s with
      | (.ok _, t) => (((h.save input).perform t).1.mapError .input, ((h.save input).perform t).2)
      | (.error e, t) => (.error (.command e), t) := by
  unfold accept
  rw [Action.perform_bind, Action.perform_adapt]
  rcases (h.handle input).perform s with ⟨_ | _, t⟩ <;> rfl

/-- Takes the lines in turn, with what is held of the input before them. -/
def acceptLines (h : Handler σ ε) : OpenInput → List String → Action σ (DialogueError ε) Unit
  | _, [] => return
  | p, line :: lines => do
    match p.add line with
    | (some input, p) =>
      h.accept input
      h.acceptLines p lines
    | (none, p) => h.acceptLines p lines

def farewell : String := "Bye!"

/-- A dialogue that comes to its end closes with the farewell. Text that is still held then is
dropped. -/
def converse (h : Handler σ ε) (bytes : List UInt8) : Action σ (DialogueError ε) String := do
  let input := Lines.ofBytes bytes
  h.acceptLines .empty input.lines
  match input.fault with
  | some e => throw (.input e)
  | none => return farewell

/-- Keeps a record of the inputs, and refuses some of them with the input as the cause. A fault
is met at each attempt to save. An empty input adds nothing to the history, so there is no attempt
after it. -/
def recorder (refuses : String → Bool) (fault : Option InputError) :
    Handler (List String) String where
  handle input := do
    modify (· ++ [input])
    if refuses input then throw input
  save input := do
    if input ≠ "" then
      if let some e := fault then throw e

end Handler

end TypedLambda
