import TypedLambda.Proofs.Expr.Substitution
import TypedLambda.Proofs.Named.Forms

/-!
Substitution in terms as they are written. Several names are replaced at once, and a binder
gets another name where its own would capture a variable. Main statement: what is written after
a substitution stands for the expression that is filled in place by place, whatever names are
used again.
-/

namespace TypedLambda

variable {a b : Ty} {s s' : Scope} {x y z : String}

namespace Scope

/-- The variables that bear the names are moved to those that bear them in the other scope. -/
def Moves (names : List String) (s s' : Scope) (r : Renaming s.context s'.context) : Prop :=
  ∀ y ∈ names, ∀ ⦃b⦄ (v : Var s.context b), s.find? y = some ⟨b, v⟩ →
    s'.find? y = some ⟨b, r v⟩

lemma moves_append {names more : List String} {r : Renaming s.context s'.context} :
    Moves (names ++ more) s s' r ↔ Moves names s s' r ∧ Moves more s s' r :=
  List.forall_mem_append

lemma Moves.lift {names : List String} {r : Renaming s.context s'.context}
    (h : Moves (names.filter (· ≠ x)) s s' r) :
    Moves names ((x, a) :: s) ((x, a) :: s') r.lift := by
  intro y hy b v hv
  obtain ⟨rfl, hv⟩ | ⟨hyx, w, hw, rfl⟩ := find?_cons_eq_some hv
  · cases hv
    exact find?_cons_self
  · rw [find?_cons_of_ne hyx, h y (List.mem_filter.mpr ⟨hy, by simpa using hyx⟩) w hw]
    rfl

lemma moves_weaken {names : List String} (h : z ∉ names) :
    Moves names s ((z, a) :: s) .weaken := by
  intro y hy b v hv
  rw [find?_cons_of_ne (ne_of_mem_of_not_mem hy h), hv]
  rfl

end Scope

namespace Named

/-- The names of the variables that no binder of the term binds. -/
def freeNames : Named → List String
  | var x => [x]
  | lam x _ body => body.freeNames.filter (· ≠ x)
  | share x e body => e.freeNames ++ body.freeNames.filter (· ≠ x)
  | app f x => f.freeNames ++ x.freeNames
  | add l r => l.freeNames ++ r.freeNames
  | cons h t => h.freeNames ++ t.freeNames
  | map f xs => f.freeNames ++ xs.freeNames
  | ite c p n => c.freeNames ++ p.freeNames ++ n.freeNames
  | not x => x.freeNames
  | length xs => xs.freeNames
  | equals l r => l.freeNames ++ r.freeNames
  | churchToInt n => n.freeNames
  | incrementEach xs => xs.freeNames
  | int _ | nil _ | bool _ | string _ | constant _ => []

def totalLength : List String → Nat
  | [] => 0
  | y :: ys => y.length + totalLength ys

lemma length_le_totalLength {names : List String} (h : x ∈ names) :
    x.length ≤ totalLength names := by
  induction h with
  | head ys => exact Nat.le_add_right _ _
  | tail y h ih => exact Nat.le_trans ih (Nat.le_add_left _ _)

/-- The name itself, unless it is among those to avoid: then one longer than all of these. -/
def avoiding (names : List String) (x : String) : String :=
  if x ∈ names then x.pushn '_' (totalLength names + 1) else x

lemma avoiding_notMem (names : List String) (x : String) : avoiding names x ∉ names := by
  unfold avoiding
  split
  · intro h
    have hlen := length_le_totalLength h
    rw [String.length_pushn] at hlen
    omega
  · assumption

/-- What a name is replaced by. -/
def image (σ : List (String × Named)) (y : String) : Named := (σ.lookup y).getD (.var y)

/-- The name under which a binder of the body is kept. -/
def binderFor (σ : List (String × Named)) (x : String) (body : Named) : String :=
  avoiding ((body.freeNames.filter (· ≠ x)).flatMap fun y => (image σ y).freeNames) x

/-- The names replaced all at once, none of the terms put in their places captured. -/
def substitute (σ : List (String × Named)) : Named → Named
  | var x => image σ x
  | lam x a body => lam (binderFor σ x body) a
      (body.substitute ((x, .var (binderFor σ x body)) :: σ))
  | share x e body => share (binderFor σ x body) (e.substitute σ)
      (body.substitute ((x, .var (binderFor σ x body)) :: σ))
  | app f x => app (f.substitute σ) (x.substitute σ)
  | int n => int n
  | add l r => add (l.substitute σ) (r.substitute σ)
  | nil a => nil a
  | cons h t => cons (h.substitute σ) (t.substitute σ)
  | map f xs => map (f.substitute σ) (xs.substitute σ)
  | bool b => bool b
  | ite c p n => ite (c.substitute σ) (p.substitute σ) (n.substitute σ)
  | not x => not (x.substitute σ)
  | string t => string t
  | length xs => length (xs.substitute σ)
  | equals l r => equals (l.substitute σ) (r.substitute σ)
  | constant c => constant c
  | churchToInt n => churchToInt (n.substitute σ)
  | incrementEach xs => incrementEach (xs.substitute σ)

/-! ### Operands -/

section

variable {Γ Δ : Context} {c : Ty} {t u : Named} (σ : List (String × Named))

@[simp] lemma Leaf.substitute_term (l : Leaf a) : l.term.substitute σ = l.term := by
  cases l <;> rfl

@[simp] lemma Unary.freeNames_term (o : Unary) : (o.term t).freeNames = t.freeNames := by
  cases o <;> rfl

@[simp] lemma Unary.substitute_term (o : Unary) :
    (o.term t).substitute σ = o.term (t.substitute σ) := by
  cases o <;> rfl

@[simp] lemma Binary.freeNames_term (o : Binary) :
    (o.term t u).freeNames = t.freeNames ++ u.freeNames := by
  cases o <;> rfl

@[simp] lemma Binary.substitute_term (o : Binary) :
    (o.term t u).substitute σ = o.term (t.substitute σ) (u.substitute σ) := by
  cases o <;> rfl

@[simp] lemma Leaf.rename_expr (l : Leaf a) (r : Renaming Γ Δ) : l.expr.rename r = l.expr := by
  cases l <;> rfl

@[simp] lemma Leaf.fill_expr (l : Leaf a) (θ : Expr.Filling Γ Δ) : l.expr.fill θ = l.expr := by
  cases l <;> rfl

variable {o : Unary} {p : Binary} {e : Expr Γ a} {f : Expr Γ b}

@[simp] lemma Unary.Typed.rename_expr (k : o.Typed a b) (r : Renaming Γ Δ) :
    (k.expr e).rename r = k.expr (e.rename r) := by
  cases k <;> rfl

@[simp] lemma Unary.Typed.fill_expr (k : o.Typed a b) (θ : Expr.Filling Γ Δ) :
    (k.expr e).fill θ = k.expr (e.fill θ) := by
  cases k <;> rfl

@[simp] lemma Binary.Typed.rename_expr (k : p.Typed a b c) (r : Renaming Γ Δ) :
    (k.expr e f).rename r = k.expr (e.rename r) (f.rename r) := by
  cases k <;> rfl

@[simp] lemma Binary.Typed.fill_expr (k : p.Typed a b c) (θ : Expr.Filling Γ Δ) :
    (k.expr e f).fill θ = k.expr (e.fill θ) (f.fill θ) := by
  cases k <;> rfl

end

/-! ### Another scope -/

/-- Only the variables that a term names matter to what it stands for. -/
lemma Elaborates.rename {t : Named} {e : Expr s.context a} (h : Elaborates s t e)
    {r : Renaming s.context s'.context} (hr : Scope.Moves t.freeNames s s' r) :
    Elaborates s' t (e.rename r) := by
  induction h using Elaborates.forms generalizing s' with
  | var h => exact .var (hr _ (List.mem_singleton_self _) _ h)
  | lam h ih => exact .lam (ih hr.lift)
  | share h₁ h₂ ih₁ ih₂ =>
    obtain ⟨hr₁, hr₂⟩ := Scope.moves_append.mp hr
    exact .share (ih₁ hr₁) (ih₂ hr₂.lift)
  | leaf l =>
    rw [l.rename_expr]
    exact l.elaborates
  | unary k h ih =>
    rw [Unary.freeNames_term] at hr
    rw [k.rename_expr]
    exact k.elaborates (ih hr)
  | binary k h₁ h₂ ih₁ ih₂ =>
    rw [Binary.freeNames_term, Scope.moves_append] at hr
    rw [k.rename_expr]
    exact k.elaborates (ih₁ hr.1) (ih₂ hr.2)
  | ite h₁ h₂ h₃ ih₁ ih₂ ih₃ =>
    obtain ⟨hr', hr₃⟩ := Scope.moves_append.mp hr
    obtain ⟨hr₁, hr₂⟩ := Scope.moves_append.mp hr'
    exact .ite (ih₁ hr₁) (ih₂ hr₂) (ih₃ hr₃)

lemma Elaborates.weaken {t : Named} {e : Expr s.context a} (h : Elaborates s t e)
    (hz : z ∉ t.freeNames) : Elaborates ((z, b) :: s) t e.weaken :=
  h.rename (Scope.moves_weaken hz)

/-! ### Filled in -/

/-- The terms put in the places of the names stand for what fills the variables of that
name. -/
def Fills (names : List String) (σ : List (String × Named)) (s s' : Scope)
    (θ : Expr.Filling s.context s'.context) : Prop :=
  ∀ y ∈ names, ∀ ⦃b⦄ (v : Var s.context b), s.find? y = some ⟨b, v⟩ →
    Elaborates s' (image σ y) (θ v)

variable {names : List String} {σ : List (String × Named)}
  {θ : Expr.Filling s.context s'.context}

lemma fills_append {more : List String} :
    Fills (names ++ more) σ s s' θ ↔ Fills names σ s s' θ ∧ Fills more σ s s' θ :=
  List.forall_mem_append

@[simp] lemma image_cons_self (t : Named) : image ((x, t) :: σ) x = t := by simp [image]

lemma image_cons_of_ne (h : y ≠ x) (t : Named) : image ((x, t) :: σ) y = image σ y := by
  simp [image, List.lookup_cons, beq_false_of_ne h]

lemma binderFor_notMem {body : Named} (hy : y ∈ body.freeNames) (hyx : y ≠ x) :
    binderFor σ x body ∉ (image σ y).freeNames := by
  intro h
  refine avoiding_notMem _ x (List.mem_flatMap.mpr ⟨y, ?_, h⟩)
  exact List.mem_filter.mpr ⟨hy, by simpa using hyx⟩

/-- Under a binder the binder's own variable stands for itself, and what is put in the place of
the others is out of its reach. -/
lemma Fills.lift {body : Named} (h : Fills (body.freeNames.filter (· ≠ x)) σ s s' θ) :
    Fills body.freeNames ((x, .var (binderFor σ x body)) :: σ) ((x, a) :: s)
      ((binderFor σ x body, a) :: s') θ.lift := by
  intro y hy b v hv
  obtain ⟨rfl, hv⟩ | ⟨hyx, w, hw, rfl⟩ := Scope.find?_cons_eq_some hv
  · cases hv
    rw [image_cons_self]
    exact .var Scope.find?_cons_self
  · rw [image_cons_of_ne hyx]
    -- The binder's new name is none of those free in this term, so it is not captured.
    have hf := h y (List.mem_filter.mpr ⟨hy, by simpa using hyx⟩) w hw
    exact hf.weaken (binderFor_notMem hy hyx)

lemma Elaborates.substitute {t : Named} {e : Expr s.context a} (h : Elaborates s t e)
    (hσ : Fills t.freeNames σ s s' θ) : Elaborates s' (t.substitute σ) (e.fill θ) := by
  induction h using Elaborates.forms generalizing s' σ with
  | var h => exact hσ _ (List.mem_singleton_self _) _ h
  | lam h ih => exact .lam (ih hσ.lift)
  | share h₁ h₂ ih₁ ih₂ =>
    obtain ⟨hσ₁, hσ₂⟩ := fills_append.mp hσ
    exact .share (ih₁ hσ₁) (ih₂ hσ₂.lift)
  | leaf l =>
    rw [l.substitute_term, l.fill_expr]
    exact l.elaborates
  | unary k h ih =>
    rw [Unary.freeNames_term] at hσ
    rw [Unary.substitute_term, k.fill_expr]
    exact k.elaborates (ih hσ)
  | binary k h₁ h₂ ih₁ ih₂ =>
    rw [Binary.freeNames_term, fills_append] at hσ
    rw [Binary.substitute_term, k.fill_expr]
    exact k.elaborates (ih₁ hσ.1) (ih₂ hσ.2)
  | ite h₁ h₂ h₃ ih₁ ih₂ ih₃ =>
    obtain ⟨hσ', hσ₃⟩ := fills_append.mp hσ
    obtain ⟨hσ₁, hσ₂⟩ := fills_append.mp hσ'
    exact .ite (ih₁ hσ₁) (ih₂ hσ₂) (ih₃ hσ₃)

/-- **Names are replaced without capture**: with a term in the place of one name, what is
written stands for the expression with the term's own in the place of that variable. -/
theorem elaborates_substitute {t u : Named} {e : Expr s.context a} {f : Expr (a :: s.context) b}
    (ht : Elaborates s t e) (hu : Elaborates ((x, a) :: s) u f) :
    Elaborates s (u.substitute [(x, t)]) (f.instantiate e) := by
  refine hu.substitute fun y _ c v hv => ?_
  obtain ⟨rfl, hv⟩ | ⟨hyx, w, hw, rfl⟩ := Scope.find?_cons_eq_some hv
  · cases hv
    rwa [image_cons_self]
  · rw [image_cons_of_ne hyx]
    exact .var hw

end Named

end TypedLambda
