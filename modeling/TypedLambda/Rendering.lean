import TypedLambda.Counter
import TypedLambda.Representation
import TypedLambda.Text.Quoted

/-!
The representation of terms by their text. A rendering waits for the number of its first
binder. Operands start from the number their term starts from, so siblings may repeat each
other's names; a lambda takes the number it meets for its own binder and starts its body from
the next one, so along a path from the root no name is taken twice.

A bound variable is the finished text of its binder's name, and keeps it at every number.
-/

namespace TypedLambda

def Rendering : Type := Counter → Except RenderError String

namespace Rendering

/-- The same text at every number. -/
def text (s : String) : Rendering := fun _ => .ok s

/-- Two renderings in a row, from one number. -/
def append (x y : Rendering) : Rendering := fun i => do
  let s ← x i
  let t ← y i
  return s ++ t

instance : Append Rendering := ⟨append⟩

/-- There is no text where the body would need a number past the last one, whether or not
anything in the body uses it. -/
def abstraction (body : Rendering → Rendering) : Rendering := fun i => do
  let j ← i.next
  let s ← body (text i.binder.name) j
  return "(\\ " ++ i.binder.name ++ " -> " ++ s ++ ")"

@[simp] theorem text_apply (s : String) (i : Counter) : text s i = .ok s := rfl

theorem append_eq_ok {x y : Rendering} {i : Counter} {s : String} :
    (x ++ y) i = .ok s ↔ ∃ u v, x i = .ok u ∧ y i = .ok v ∧ s = u ++ v := by
  change (x i >>= fun u => y i >>= fun v => pure (u ++ v)) = .ok s ↔ _
  rcases x i with _ | u <;> rcases y i with _ | v <;>
    simp [bind, Except.bind, pure, Except.pure, eq_comm]

theorem abstraction_eq_ok {body : Rendering → Rendering} {i : Counter} {s : String} :
    abstraction body i = .ok s ↔ ∃ j u, i.next = .ok j ∧ body (text i.binder.name) j = .ok u ∧
      s = "(\\ " ++ i.binder.name ++ " -> " ++ u ++ ")" := by
  change (i.next >>= fun j => body (text i.binder.name) j >>= fun u =>
    pure ("(\\ " ++ i.binder.name ++ " -> " ++ u ++ ")")) = .ok s ↔ _
  rcases i.next with _ | j
  · simp [bind, Except.bind]
  · rcases h : body (text i.binder.name) j with _ | u <;>
      simp [bind, Except.bind, pure, Except.pure, eq_comm, h]

end Rendering

/-- Every type is represented by text. -/
abbrev Rendered (_ : Ty) : Type := Rendering

open Rendering in
instance : Representation Rendered where
  apply f x := text "(" ++ f ++ text " $ " ++ x ++ text ")"
  lambda body := abstraction body
  int n := text n.toInt.repr
  add l r := text "(" ++ l ++ text " + " ++ r ++ text ")"
  nil := text "[]"
  cons h t := text "(" ++ h ++ text " : " ++ t ++ text ")"
  map f xs := text "map " ++ f ++ text " " ++ xs
  bool b := text (if b then "True" else "False")
  ite c p n := text "if (" ++ c ++ text ") then " ++ p ++ text " else " ++ n
  not x := text "(not " ++ x ++ text ")"
  string s := text (Text.Quoted.quote s)
  length _ xs := text "length " ++ xs
  equals _ l r := l ++ text " == " ++ r

end TypedLambda
