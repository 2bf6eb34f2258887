import TypedLambda.Expr.Named

/-!
A workspace keeps terms under names. A definition may use the names defined before it, and a
later definition of a name hides the earlier one; what was built with the earlier one keeps it.
Each term is kept as it has been built, once as a rendering and once as a value.
-/

namespace TypedLambda

structure Workspace where
  scope : Scope
  renderings : Env Rendered scope.context
  values : Env Ty.Value scope.context

namespace Workspace

def empty : Workspace := ⟨[], Env.empty, Env.empty⟩

/-- Refuses a term that is not well typed in the workspace. -/
def define? (w : Workspace) (x : String) (e : Named) : Option Workspace :=
  (e.elaborate? w.scope).map fun e => {
    scope := (x, e.1) :: w.scope
    renderings := w.renderings.push (e.2.interpret Rendered w.renderings)
    values := w.values.push (e.2.interpret Ty.Value w.values) }

def rendering? (w : Workspace) (x : String) : Option Rendering :=
  (w.scope.find? x).map fun v => w.renderings v.2

def value? (w : Workspace) (x : String) : Option (Σ a : Ty, a.Value) :=
  (w.scope.find? x).map fun v => ⟨v.1, w.values v.2⟩

inductive Request where
  | define (x : String) (e : Named)
  | renderFrom (x : String) (i : Counter)
  | value (x : String)

inductive Reply where
  | defined
  | text (s : String)
  | noText (e : RenderError)
  | value (v : Σ a : Ty, a.Value)
  | illTyped
  | unknownName

/-- A request that cannot be met leaves the workspace as it was. -/
def answer (w : Workspace) : Request → Reply × Workspace
  | .define x e =>
    match w.define? x e with
    | some w' => (.defined, w')
    | none => (.illTyped, w)
  | .renderFrom x i =>
    match w.rendering? x with
    | some r =>
      match r i with
      | .ok s => (.text s, w)
      | .error e => (.noText e, w)
    | none => (.unknownName, w)
  | .value x =>
    match w.value? x with
    | some v => (.value v, w)
    | none => (.unknownName, w)

/-- The replies to requests made one after the other. -/
def run : Workspace → List Request → List Reply
  | _, [] => []
  | w, q :: qs => (w.answer q).1 :: run (w.answer q).2 qs

end Workspace

end TypedLambda
