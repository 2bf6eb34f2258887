import TypedLambda.Proofs.Expr.Substitution
import TypedLambda.Proofs.Named.Typing
import TypedLambda.Workspace

/-!
A workspace beside a glossary, which keeps each term as an expression, with the terms it was
built from filled in. The invariant is that the workspace has the renderings and the values of the
expressions in the glossary. Main statement: what a workspace replies is what the expressions are
rendered to and denote, whatever has been defined or refused in between.
-/

namespace TypedLambda.Workspace

/-- Closed expressions under names, the last one first. -/
structure Glossary where
  scope : Scope
  terms : Expr.Filling scope.context []

namespace Glossary

variable {g g' : Glossary} {q : Request} {r : Reply} {x y : String} {a : Ty}

def empty : Glossary := ⟨[], Env.empty⟩

def push (g : Glossary) (x : String) (e : Expr [] a) : Glossary :=
  ⟨(x, a) :: g.scope, Env.push g.terms e⟩

/-- The last expression of that name. -/
def term? (g : Glossary) (x : String) : Option (Σ a, Expr [] a) :=
  (g.scope.find? x).map fun v => ⟨v.1, g.terms v.2⟩

/-- What a representation makes of the expressions. -/
def read (g : Glossary) (R : Ty → Type) [Representation R] : Env R g.scope.context :=
  Env.map (fun _ e => e.interpret R Env.empty) g.terms

/-- The workspace in which the expressions have been built. -/
def workspace (g : Glossary) : Workspace := ⟨g.scope, g.read Rendered, g.read Ty.Value⟩

lemma term?_push_self (e : Expr [] a) : (g.push x e).term? x = some ⟨a, e⟩ :=
  congrArg (Option.map _) Scope.find?_cons_self

lemma term?_push_of_ne (h : y ≠ x) (e : Expr [] a) : (g.push x e).term? y = g.term? y :=
  (congrArg (Option.map _) (Scope.find?_cons_of_ne h)).trans (Option.map_map ..)

/-- What is replied to a request, and the glossary after it. -/
inductive Answers (g : Glossary) : Request → Reply → Glossary → Prop
  | defined {x : String} {t : Named} {a : Ty} {e : Expr g.scope.context a}
      (h : t.elaborate? g.scope = some ⟨a, e⟩) :
      Answers g (.define x t) .defined (g.push x (e.fill g.terms))
  | illTyped {x : String} {t : Named} (h : t.elaborate? g.scope = none) :
      Answers g (.define x t) .illTyped g
  | text {x w : String} {i : Counter} {a : Ty} {e : Expr [] a} (h : g.term? x = some ⟨a, e⟩)
      (hw : e.renderFrom i = .ok w) : Answers g (.renderFrom x i) (.text w) g
  | noText {x : String} {i : Counter} {a : Ty} {e : Expr [] a} {r : RenderError}
      (h : g.term? x = some ⟨a, e⟩) (hr : e.renderFrom i = .error r) :
      Answers g (.renderFrom x i) (.noText r) g
  | value {x : String} {a : Ty} {e : Expr [] a} (h : g.term? x = some ⟨a, e⟩) :
      Answers g (.value x) (.value ⟨a, e.value⟩) g
  | noRendering {x : String} {i : Counter} (h : g.term? x = none) :
      Answers g (.renderFrom x i) .unknownName g
  | noValue {x : String} (h : g.term? x = none) : Answers g (.value x) .unknownName g

/-- What is replied to requests made one after the other. -/
inductive Replies : Glossary → List Request → List Reply → Prop
  | nil {g : Glossary} : Replies g [] []
  | cons {g g' : Glossary} {q : Request} {r : Reply} {qs : List Request} {rs : List Reply}
      (first : g.Answers q r g') (rest : Replies g' qs rs) : Replies g (q :: qs) (r :: rs)

/-- **A definition changes what its name means** if it is well typed, and nothing else does. -/
theorem Answers.term?_eq (h : g.Answers q r g') (y : String) :
    g'.term? y = match q with
      | .define x t =>
        if y = x then
          ((t.elaborate? g.scope).map fun e => ⟨e.1, e.2.fill g.terms⟩).or (g.term? y)
        else g.term? y
      | _ => g.term? y := by
  cases h with
  | @defined x t a e h =>
    by_cases hy : y = x
    · subst hy
      simp only [if_true, h]
      exact term?_push_self _
    · simp only [if_neg hy]
      exact term?_push_of_ne hy _
  | illTyped h => simp [h]
  | _ => rfl

/-! ### The workspace -/

lemma rendering?_workspace (g : Glossary) (x : String) :
    g.workspace.rendering? x = (g.term? x).map fun e => e.2.renderFrom := by
  rw [rendering?, term?, Option.map_map]
  rfl

lemma value?_workspace (g : Glossary) (x : String) :
    g.workspace.value? x = (g.term? x).map fun e => ⟨e.1, e.2.value⟩ := by
  rw [value?, term?, Option.map_map]
  rfl

/-- What is built from what has been built is what the filled in expression comes to. -/
lemma read_push {R : Ty → Type} [Representation R] (g : Glossary) (x : String)
    (e : Expr g.scope.context a) :
    (g.push x (e.fill g.terms)).read R = (g.read R).push (e.interpret R (g.read R)) := by
  have hfill : (e.fill g.terms).interpret R Env.empty = e.interpret R (g.read R) :=
    e.interpret_fill g.terms Env.empty
  rw [← hfill]
  exact Env.map_push _ _ _

lemma define?_workspace (g : Glossary) (x : String) (t : Named) :
    g.workspace.define? x t =
      (t.elaborate? g.scope).map fun e => (g.push x (e.2.fill g.terms)).workspace := by
  refine congrArg (Option.map · (t.elaborate? g.scope)) (funext fun e => ?_)
  exact congrArg₂ (Workspace.mk ((x, e.1) :: g.scope)) (g.read_push x e.2).symm
    (g.read_push x e.2).symm

/-- **One request** keeps the workspace and the glossary together. -/
lemma exists_answers (g : Glossary) (q : Request) :
    ∃ g' : Glossary, g.Answers q (g.workspace.answer q).1 g' ∧
      (g.workspace.answer q).2 = g'.workspace := by
  cases q with
  | define x t =>
    rw [answer, define?_workspace]
    cases h : t.elaborate? g.scope with
    | none => exact ⟨g, .illTyped h, rfl⟩
    | some e => exact ⟨_, .defined h, rfl⟩
  | renderFrom x i =>
    rw [answer, rendering?_workspace]
    cases h : g.term? x with
    | none => exact ⟨g, .noRendering h, rfl⟩
    | some e =>
      dsimp only [Option.map_some]
      cases hw : e.2.renderFrom i with
      | error r => exact ⟨g, .noText h hw, rfl⟩
      | ok w => exact ⟨g, .text h hw, rfl⟩
  | value x =>
    rw [answer, value?_workspace]
    cases h : g.term? x with
    | none => exact ⟨g, .noValue h, rfl⟩
    | some e => exact ⟨g, .value h, rfl⟩

lemma replies_run (g : Glossary) (qs : List Request) : g.Replies qs (g.workspace.run qs) := by
  induction qs generalizing g with
  | nil => exact .nil
  | cons q qs ih =>
    obtain ⟨g', hq, hg'⟩ := g.exists_answers q
    rw [run, hg']
    exact .cons hq (ih g')

end Glossary

/-- **A workspace replies from its expressions**: a text is that of the expression of the name,
and a value is the one that the expression denotes. -/
theorem replies_run (qs : List Request) : Glossary.empty.Replies qs (empty.run qs) := by
  have hempty : Glossary.empty.workspace = empty := by
    rw [Glossary.workspace, Env.eq_empty (Glossary.empty.read _),
      Env.eq_empty (Glossary.empty.read _)]
    rfl
  rw [← hempty]
  exact Glossary.empty.replies_run qs

end TypedLambda.Workspace
