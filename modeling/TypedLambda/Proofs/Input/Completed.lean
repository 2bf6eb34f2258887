import Mathlib.Tactic.Common
import TypedLambda.Input.Dialogue

/-!
The inputs in a stream of bytes: those that are completed by the lines before the first piece that
is not text. Main statement: to take the lines of a stream is to accept these inputs one after the
other.
-/

namespace TypedLambda

/-- The lines before the first piece that is not text. -/
def readableLines (bytes : List UInt8) : List String :=
  ((pieces bytes).takeWhile fun p => (line? p).isSome).filterMap line?

lemma line?_eq_none {p : List UInt8} : line? p = none ↔ ofUtf8? p = none := by
  rw [line?, Option.map_eq_none_iff]

namespace Lines

lemma lines_ofPieces (ps : List (List UInt8)) :
    (ofPieces ps).lines = (ps.takeWhile fun p => (line? p).isSome).filterMap line? := by
  induction ps with
  | nil => rfl
  | cons p ps ih =>
    rcases h : line? p with _ | l
    · simp [ofPieces, h]
    · simp [ofPieces, h, ih]

lemma fault_ofPieces (ps : List (List UInt8)) :
    (ofPieces ps).fault = if ∃ p ∈ ps, ofUtf8? p = none then some .notText else none := by
  induction ps with
  | nil => rfl
  | cons p ps ih =>
    rcases h : line? p with _ | l
    · simp [ofPieces, h, line?_eq_none.mp h]
    · have hp : ofUtf8? p ≠ none := fun hn => by simp [line?_eq_none.mpr hn] at h
      simp [ofPieces, h, ih, hp]

lemma lines_ofBytes (bytes : List UInt8) : (ofBytes bytes).lines = readableLines bytes :=
  lines_ofPieces (pieces bytes)

lemma fault_ofBytes (bytes : List UInt8) :
    (ofBytes bytes).fault = if ∃ p ∈ pieces bytes, ofUtf8? p = none then some .notText else none :=
  fault_ofPieces (pieces bytes)

end Lines

namespace OpenInput

/-- The inputs that are completed when the lines are added in turn. -/
def inputs : OpenInput → List String → List String
  | _, [] => []
  | p, line :: lines =>
    match p.add line with
    | (some input, q) => input :: q.inputs lines
    | (none, q) => q.inputs lines

variable {p : OpenInput} {line : String}

lemma inputs_cons_of_continued {text : String} (h : continued? line = some text)
    (lines : List String) :
    p.inputs (line :: lines) = inputs ⟨some (p.held.getD "" ++ text)⟩ lines := by
  rw [inputs, add_of_continued h]

lemma inputs_cons_of_not_continued (h : continued? line = none) (lines : List String) :
    p.inputs (line :: lines) = (p.held.getD "" ++ line) :: empty.inputs lines := by
  rw [inputs, add_of_not_continued h]

end OpenInput

/-- The inputs that the lines before the first piece that is not text complete. -/
def completedInputs (bytes : List UInt8) : List String :=
  OpenInput.empty.inputs (readableLines bytes)

namespace Handler

variable {σ ε : Type}

lemma acceptLines_eq (h : Handler σ ε) (p : OpenInput) (lines : List String) :
    h.acceptLines p lines = (p.inputs lines).forM h.accept := by
  induction lines generalizing p with
  | nil => rfl
  | cons line lines ih =>
    unfold acceptLines OpenInput.inputs
    rcases p.add line with ⟨_ | input, q⟩
    · exact ih q
    · change (h.accept input >>= fun _ => h.acceptLines q lines) = _
      rw [ih q]
      rfl

/-- **Lines are taken input by input**: the completed inputs are accepted in turn, and if none
fails, the end of the stream or its first piece that is not text closes the dialogue. -/
theorem perform_converse (h : Handler σ ε) (bytes : List UInt8) (s : σ) :
    (h.converse bytes).perform s =
      ((((completedInputs bytes).forM h.accept).perform s).1.bind fun _ =>
          if ∃ p ∈ pieces bytes, ofUtf8? p = none then .error (.input .notText) else .ok farewell,
        (((completedInputs bytes).forM h.accept).perform s).2) := by
  unfold converse completedInputs
  simp only [Action.perform_bind, acceptLines_eq, Lines.lines_ofBytes, Lines.fault_ofBytes]
  rcases ((OpenInput.empty.inputs (readableLines bytes)).forM h.accept).perform s with ⟨e | _, t⟩
  · rfl
  · by_cases hp : ∃ p ∈ pieces bytes, ofUtf8? p = none
    · simp only [if_pos hp]
      rfl
    · simp only [if_neg hp]
      rfl

end Handler

end TypedLambda
