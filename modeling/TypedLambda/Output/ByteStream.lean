import TypedLambda.Output.LineWriter
import TypedLambda.Text.Utf8

/-!
Places that take bytes. A stream may take fewer bytes than it is offered; `writeAll` goes on
offering the rest until all are taken or one offer is not taken at all.

A line goes to a stream as its text in UTF-8, a line feed and a flush. What fails ends the line
there; the bytes taken so far stay taken.
-/

namespace TypedLambda

inductive StreamError where
  | closed
  | nothingTaken
  | flushRefused
  deriving DecidableEq, Repr

def StreamError.message : StreamError → String
  | closed => "stream closed"
  | nothingTaken => "failed to write whole buffer"
  | flushRefused => "flush refused"

structure ByteStream (σ : Type) where
  /-- Offers bytes from the front and says how many have been taken. -/
  write (bytes : List UInt8) : Action σ StreamError Nat
  flush : Action σ StreamError Unit

namespace ByteStream

variable {σ : Type}

/-- Offers nothing where there is nothing to write. -/
def writeAll (stream : ByteStream σ) : List UInt8 → Action σ StreamError Unit
  | [] => return
  | b :: bytes => do
    let n ← stream.write (b :: bytes)
    if n = 0 then throw .nothingTaken else stream.writeAll (bytes.drop (n - 1))
  termination_by bytes => bytes.length
  decreasing_by simp only [List.length_drop, List.length_cons]; omega

def lines (stream : ByteStream σ) : LineWriter σ StreamError where
  write line := do
    stream.writeAll (utf8 line)
    stream.writeAll (utf8 "\n")
    stream.flush

theorem perform_writeAll_nil (stream : ByteStream σ) (s : σ) :
    (stream.writeAll []).perform s = (.ok (), s) := by
  rw [writeAll, Action.perform_pure]

theorem perform_writeAll_cons (stream : ByteStream σ) (b : UInt8) (bytes : List UInt8) (s : σ) :
    (stream.writeAll (b :: bytes)).perform s = match (stream.write (b :: bytes)).perform s with
      | (.ok n, t) =>
        if n = 0 then (.error .nothingTaken, t)
        else (stream.writeAll (bytes.drop (n - 1))).perform t
      | (.error e, t) => (.error e, t) := by
  rw [writeAll, Action.perform_bind]
  rcases (stream.write (b :: bytes)).perform s with ⟨_ | n, t⟩
  · rfl
  · simp only
    split <;> rfl

end ByteStream

end TypedLambda
