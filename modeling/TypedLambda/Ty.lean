/-!
The types of the language and the host values that stand for them. Numbers are words of 64
bits, and functions of the language are functions of the host.

Two kinds of type are singled out by evidence: the ground types, whose values can be
compared, and the countable types, whose values have a length. Main statement: comparing
two values of a ground type decides whether they are equal.
-/

namespace TypedLambda

inductive Ty where
  | int
  | bool
  | string
  | list (elem : Ty)
  | fn (dom cod : Ty)
  deriving DecidableEq, Repr

namespace Ty

/-- The values that a closed term of the type may denote. -/
@[reducible] def Value : Ty → Type
  | int => Int64
  | bool => Bool
  | string => String
  | list a => List a.Value
  | fn a b => a.Value → b.Value

/-- The type of iteration: a step and a start in, an end out. -/
abbrev church (a : Ty) : Ty := fn (fn a a) (fn a a)

/-- No function occurs anywhere in the type. -/
inductive Ground : Ty → Type
  | int : Ground .int
  | bool : Ground .bool
  | string : Ground .string
  | list {a : Ty} (elem : Ground a) : Ground (.list a)
  deriving Repr

/-- The type of a text or of a list, whatever its elements. -/
inductive Countable : Ty → Type
  | string : Countable .string
  | list {a : Ty} : Countable (.list a)
  deriving Repr

/-- Finds the evidence that a type is ground. -/
def ground? : (a : Ty) → Option (Ground a)
  | int => some .int
  | bool => some .bool
  | string => some .string
  | list a => a.ground?.map .list
  | fn _ _ => none

/-- Finds the evidence that values of a type have a length. -/
def countable? : (a : Ty) → Option (Countable a)
  | string => some .string
  | list _ => some .list
  | int | bool | fn _ _ => none

namespace Ground

/-- Two lists are the same if they are equally long and the same element by element. -/
def beq : {a : Ty} → Ground a → a.Value → a.Value → Bool
  | _, int, x, y => x == y
  | _, bool, x, y => x == y
  | _, string, x, y => x == y
  | _, list h, xs, ys => xs.length == ys.length && (xs.zip ys).all fun p => h.beq p.1 p.2

instance (a : Ty) : Subsingleton (Ground a) where
  allEq g h := by
    induction g with
    | int | bool | string => cases h; rfl
    | list g ih => cases h with | list h => rw [ih h]

theorem ground?_eq {a : Ty} (g : Ground a) : a.ground? = some g := by
  induction g with
  | int | bool | string => rfl
  | list g ih => simp [ground?, ih]

theorem beq_eq_true {a : Ty} (h : Ground a) {x y : a.Value} : h.beq x y = true ↔ x = y := by
  induction h with
  | int => exact beq_iff_eq
  | bool => exact beq_iff_eq
  | string => exact beq_iff_eq
  | list h ih =>
    induction x generalizing y with
    | nil => cases y <;> simp [beq]
    | cons v xs ihx =>
      cases y with
      | nil => simp [beq]
      | cons w ys =>
        have := ihx (y := ys)
        simp only [beq, Bool.and_eq_true] at this
        simp [beq, ih, ← this, and_left_comm]

end Ground

namespace Countable

/-- A text is counted in code points, a list in elements. -/
def count : {a : Ty} → Countable a → a.Value → Nat
  | _, string, s => s.length
  | _, list, xs => xs.length

instance (a : Ty) : Subsingleton (Countable a) where
  allEq g h := by cases g <;> cases h <;> rfl

theorem countable?_eq {a : Ty} (g : Countable a) : a.countable? = some g := by
  cases g <;> rfl

end Countable

end Ty

end TypedLambda
