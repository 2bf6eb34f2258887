import TypedLambda.Expr.Basic

/-!
The exhibits: seventeen terms with names, shown by their text and, where there is something to
show, by their value. All of them are taken at numbers where a type is left open.
-/

namespace TypedLambda

/-- A ground value written out. -/
def Ty.Ground.text : {a : Ty} → a.Ground → a.Value → String
  | _, .int, n => n.toInt.repr
  | _, .bool, b => if b then "True" else "False"
  | _, .string, s => Text.Quoted.quote s
  | _, .list h, xs => "[" ++ ", ".intercalate (xs.map h.text) ++ "]"

/-- A ground value is written out. What has the type of the numerals over numbers is written as
the number it counts to. Nothing is to be seen of any other function. -/
def Ty.text? : (a : Ty) → a.Value → Option String
  | .fn (.fn .int .int) (.fn .int .int), n =>
    some (Ground.int.text (Church.toInt (R := Ty.Value) n))
  | a, v => a.ground?.map fun h => h.text v

inductive Exhibit where
  | identity
  | selfApplication
  | app
  | konst
  | compose
  | flip
  | succ
  | zero
  | one
  | two
  | addOne
  | runChurchTwo
  | branch
  | guardedList
  | mapNot
  | increments
  | greetingLength
  deriving DecidableEq, Repr

namespace Exhibit

/-- The exhibits in the order they are shown in. -/
def all : List Exhibit :=
  [identity, selfApplication, app, konst, compose, flip, succ, zero, one, two, addOne,
   runChurchTwo, branch, guardedList, mapNot, increments, greetingLength]

theorem mem_all (x : Exhibit) : x ∈ all := by cases x <;> decide

def name : Exhibit → String
  | identity => "identity"
  | selfApplication => "selfApplication"
  | app => "app"
  | konst => "konst"
  | compose => "compose"
  | flip => "flip"
  | succ => "succ"
  | zero => "zero"
  | one => "one"
  | two => "two"
  | addOne => "addOne"
  | runChurchTwo => "runChurchTwo"
  | branch => "branch"
  | guardedList => "guardedList"
  | mapNot => "mapNot"
  | increments => "increments"
  | greetingLength => "greetingLength"

/-- The exhibit with exactly that name. -/
def find? (s : String) : Option Exhibit := all.find? fun x => x.name == s

theorem find?_name (x : Exhibit) : find? x.name = some x := by cases x <;> rfl

theorem find?_eq_some {s : String} {x : Exhibit} : find? s = some x ↔ x.name = s := by
  constructor
  · intro h
    simpa using List.find?_some h
  · rintro rfl
    exact find?_name x

/-- Each exhibit is taken at one type. -/
def type : Exhibit → Ty
  | identity | selfApplication | addOne => .fn .int .int
  | app => .fn .int (.fn (.fn .int .int) .int)
  | konst => .fn .int (.fn .int .int)
  | compose => .fn (.fn .int .int) (.fn (.fn .int .int) (.fn .int .int))
  | flip => .fn (.fn .int (.fn .int .int)) (.fn .int (.fn .int .int))
  | succ => .fn (Ty.church .int) (Ty.church .int)
  | zero | one | two => Ty.church .int
  | runChurchTwo | greetingLength => .int
  | branch => .bool
  | guardedList | increments => .list .int
  | mapNot => .list .bool

def constant : (x : Exhibit) → Constant x.type
  | identity => .identity
  | selfApplication => .selfApplication
  | app => .thrush
  | konst => .const
  | compose => .compose
  | flip => .flip
  | succ => .succ
  | zero => .numeral 0
  | one => .numeral 1
  | two => .numeral 2
  | addOne => .addOne
  | runChurchTwo => .twoToInt
  | branch => .branch
  | guardedList => .guardedList
  | mapNot => .mapNot
  | increments => .increments
  | greetingLength => .greetingLength

def expr (x : Exhibit) : Expr [] x.type := .constant x.constant

theorem exists_render (x : Exhibit) : ∃ s, x.expr.render = .ok s := by
  cases x <;> exact ⟨_, rfl⟩

theorem isSome_render (x : Exhibit) : x.expr.render.toOption.isSome = true := by
  obtain ⟨s, h⟩ := x.exists_render
  rw [h]
  rfl

/-- The text of an exhibit; there always is one. -/
def text (x : Exhibit) : String := x.expr.render.toOption.get x.isSome_render

theorem render_eq (x : Exhibit) : x.expr.render = .ok x.text := by
  obtain ⟨s, h⟩ := x.exists_render
  simp [text, h, Except.toOption]

/-- What is to be seen of the value of an exhibit. -/
def valueText? (x : Exhibit) : Option String := x.type.text? x.expr.value

end Exhibit

end TypedLambda
