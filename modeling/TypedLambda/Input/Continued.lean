/-!
Inputs that go on over several lines. A line that ends in a backslash is continued: a line feed
takes the place of that backslash, and the text is held until a line comes that is not
continued.
-/

namespace TypedLambda

/-- What a continued line adds to its input. -/
def continued? (line : String) : Option String :=
  if line.toList.getLast? = some '\\' then some (String.ofList (line.toList.dropLast ++ ['\n']))
  else none

theorem continued?_eq_none {line : String} :
    continued? line = none ↔ line.toList.getLast? ≠ some '\\' := by
  simp [continued?]

theorem continued?_append_backslash (s : String) : continued? (s ++ "\\") = some (s ++ "\n") := by
  simp [continued?, String.toList_append, String.ofList_append]

/-- The text held of an input that is not complete. -/
structure OpenInput where
  held : Option String
  deriving DecidableEq, Repr

namespace OpenInput

def empty : OpenInput := ⟨none⟩

/-- Adds a line, and gives the input if the line completes it. -/
def add (p : OpenInput) (line : String) : Option String × OpenInput :=
  match continued? line with
  | some text => (none, ⟨some (p.held.getD "" ++ text)⟩)
  | none => (some (p.held.getD "" ++ line), empty)

theorem add_of_continued {p : OpenInput} {line text : String} (h : continued? line = some text) :
    p.add line = (none, ⟨some (p.held.getD "" ++ text)⟩) := by
  simp [add, h]

theorem add_of_not_continued {p : OpenInput} {line : String} (h : continued? line = none) :
    p.add line = (some (p.held.getD "" ++ line), empty) := by
  simp [add, h]

end OpenInput

end TypedLambda
