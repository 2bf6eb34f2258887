import TypedLambda.Proofs.Named.Substitution

/-!
A term that is shared, one that an abstraction is applied to and one that is put in the places
of a name come to the same value. Main statement: each of the three ways of writing this may
stand for another one anywhere in a closed term, and the value of the whole stays as it was.
-/

namespace TypedLambda.Named

/-- The second term is the first one with the given replacement at places in the scope `s₀`,
at any number of them. -/
inductive Replaces (s₀ : Scope) (p q : Named) : Scope → Named → Named → Prop
  | here : Replaces s₀ p q s₀ p q
  | same {s : Scope} (t : Named) : Replaces s₀ p q s t t
  | lam {s : Scope} {x : String} {a : Ty} {t t' : Named}
      (h : Replaces s₀ p q ((x, a) :: s) t t') : Replaces s₀ p q s (.lam x a t) (.lam x a t')
  | share {s : Scope} {x : String} {a : Ty} {t t' u u' : Named} {e : Expr s.context a}
      (ha : t.elaborate? s = some ⟨a, e⟩) (h₁ : Replaces s₀ p q s t t')
      (h₂ : Replaces s₀ p q ((x, a) :: s) u u') :
      Replaces s₀ p q s (.share x t u) (.share x t' u')
  | app {s : Scope} {t t' u u' : Named} (h₁ : Replaces s₀ p q s t t')
      (h₂ : Replaces s₀ p q s u u') : Replaces s₀ p q s (.app t u) (.app t' u')
  | add {s : Scope} {t t' u u' : Named} (h₁ : Replaces s₀ p q s t t')
      (h₂ : Replaces s₀ p q s u u') : Replaces s₀ p q s (.add t u) (.add t' u')
  | cons {s : Scope} {t t' u u' : Named} (h₁ : Replaces s₀ p q s t t')
      (h₂ : Replaces s₀ p q s u u') : Replaces s₀ p q s (.cons t u) (.cons t' u')
  | map {s : Scope} {t t' u u' : Named} (h₁ : Replaces s₀ p q s t t')
      (h₂ : Replaces s₀ p q s u u') : Replaces s₀ p q s (.map t u) (.map t' u')
  | ite {s : Scope} {t t' u u' v v' : Named} (h₁ : Replaces s₀ p q s t t')
      (h₂ : Replaces s₀ p q s u u') (h₃ : Replaces s₀ p q s v v') :
      Replaces s₀ p q s (.ite t u v) (.ite t' u' v')
  | not {s : Scope} {t t' : Named} (h : Replaces s₀ p q s t t') :
      Replaces s₀ p q s (.not t) (.not t')
  | length {s : Scope} {t t' : Named} (h : Replaces s₀ p q s t t') :
      Replaces s₀ p q s (.length t) (.length t')
  | equals {s : Scope} {t t' u u' : Named} (h₁ : Replaces s₀ p q s t t')
      (h₂ : Replaces s₀ p q s u u') : Replaces s₀ p q s (.equals t u) (.equals t' u')
  | churchToInt {s : Scope} {t t' : Named} (h : Replaces s₀ p q s t t') :
      Replaces s₀ p q s (.churchToInt t) (.churchToInt t')
  | incrementEach {s : Scope} {t t' : Named} (h : Replaces s₀ p q s t t') :
      Replaces s₀ p q s (.incrementEach t) (.incrementEach t')

/-- Where the first term is well typed the second one is, with the same type and with the same
value whatever the values of the variables are. -/
def KeepsValue (s : Scope) (t u : Named) : Prop :=
  ∀ ⦃a⦄ (e : Expr s.context a), Elaborates s t e →
    ∃ f : Expr s.context a, Elaborates s u f ∧
      ∀ ρ, f.interpret Ty.Value ρ = e.interpret Ty.Value ρ

lemma Elaborates.unique {s : Scope} {t : Named} {a b : Ty} {e : Expr s.context a}
    {f : Expr s.context b} (h₁ : Elaborates s t e) (h₂ : Elaborates s t f) :
    (⟨a, e⟩ : Σ c, Expr s.context c) = ⟨b, f⟩ :=
  Option.some.inj ((elaborate?_of_elaborates h₁).symm.trans (elaborate?_of_elaborates h₂))

lemma Elaborates.keepsValue {s : Scope} {t u : Named} {a : Ty} {e f : Expr s.context a}
    (ht : Elaborates s t e) (hu : Elaborates s u f)
    (hv : ∀ ρ, f.interpret Ty.Value ρ = e.interpret Ty.Value ρ) : KeepsValue s t u := by
  intro b g hg
  obtain ⟨⟩ := ht.unique hg
  exact ⟨f, hu, hv⟩

section

variable {s : Scope} {t t' u u' : Named}

lemma KeepsValue.unary (o : Unary) (h : KeepsValue s t t') : KeepsValue s (o.term t) (o.term t') := by
  intro b e he
  obtain ⟨a, k, e₁, rfl, he₁⟩ := he.operand
  obtain ⟨f, hf, hv⟩ := h e₁ he₁
  exact ⟨k.expr f, k.elaborates hf, fun ρ => k.interpret_congr (hv ρ)⟩

lemma KeepsValue.binary (o : Binary) (h₁ : KeepsValue s t t') (h₂ : KeepsValue s u u') :
    KeepsValue s (o.term t u) (o.term t' u') := by
  intro c e he
  obtain ⟨a, b, k, e₁, e₂, rfl, he₁, he₂⟩ := he.operands
  obtain ⟨f, hf, hv⟩ := h₁ e₁ he₁
  obtain ⟨g, hg, hw⟩ := h₂ e₂ he₂
  exact ⟨k.expr f g, k.elaborates hf hg, fun ρ => k.interpret_congr (hv ρ) (hw ρ)⟩

end

/-- What is kept at the places where terms are replaced is kept around them. -/
theorem Replaces.keepsValue {s₀ s : Scope} {p q t u : Named} (hpq : KeepsValue s₀ p q)
    (h : Replaces s₀ p q s t u) : KeepsValue s t u := by
  induction h with
  | here => exact hpq
  | same t => exact fun a e he => ⟨e, he, fun _ => rfl⟩
  | lam h ih =>
    intro c e he
    cases he with
    | lam he =>
      obtain ⟨f, hf, hv⟩ := ih _ he
      exact ⟨.lam f, .lam hf, fun ρ => funext fun x => hv (ρ.push x)⟩
  | share ha h₁ h₂ ih₁ ih₂ =>
    intro c e he
    cases he with
    | share he₁ he₂ =>
      -- The second terms are compared in the scope that the type of the first one gives.
      obtain ⟨⟩ := he₁.unique (elaborates_of_elaborate? ha)
      obtain ⟨f, hf, hv⟩ := ih₁ _ he₁
      obtain ⟨g, hg, hw⟩ := ih₂ _ he₂
      refine ⟨.share f g, .share hf hg, fun ρ => ?_⟩
      rw [Expr.interpret, Expr.interpret, hv, hw]
  | app h₁ h₂ ih₁ ih₂ => exact .binary .app ih₁ ih₂
  | add h₁ h₂ ih₁ ih₂ => exact .binary .add ih₁ ih₂
  | cons h₁ h₂ ih₁ ih₂ => exact .binary .cons ih₁ ih₂
  | map h₁ h₂ ih₁ ih₂ => exact .binary .map ih₁ ih₂
  | ite h₁ h₂ h₃ ih₁ ih₂ ih₃ =>
    intro c e he
    cases he with
    | ite he₁ he₂ he₃ =>
      obtain ⟨f, hf, hv⟩ := ih₁ _ he₁
      obtain ⟨g, hg, hw⟩ := ih₂ _ he₂
      obtain ⟨k, hk, hz⟩ := ih₃ _ he₃
      refine ⟨.ite f g k, .ite hf hg hk, fun ρ => ?_⟩
      rw [Expr.interpret, Expr.interpret, hv, hw, hz]
  | not h ih => exact .unary .not ih
  | length h ih => exact .unary .length ih
  | equals h₁ h₂ ih₁ ih₂ => exact .binary .equals ih₁ ih₂
  | churchToInt h ih => exact .unary .churchToInt ih
  | incrementEach h ih => exact .unary .incrementEach ih

/-- The three ways to use a term in another one under a name. -/
def sharings (x : String) (a : Ty) (t u : Named) : List Named :=
  [.share x t u, .app (.lam x a u) t, u.substitute [(x, t)]]

variable {s : Scope} {x : String} {t u : Named} {a b : Ty} {e : Expr s.context a}
  {f : Expr (a :: s.context) b}

/-- What each of the three ways stands for has the value of the second term, where that of the
first one is the value of the name. -/
lemma exists_elaborates_sharing (ht : Elaborates s t e) (hu : Elaborates ((x, a) :: s) u f)
    {p : Named} (hp : p ∈ sharings x a t u) :
    ∃ g : Expr s.context b, Elaborates s p g ∧
      ∀ ρ, g.interpret Ty.Value ρ = f.interpret Ty.Value (ρ.push (e.interpret Ty.Value ρ)) := by
  simp only [sharings, List.mem_cons, List.not_mem_nil, or_false] at hp
  obtain rfl | rfl | rfl := hp
  · exact ⟨.share e f, .share ht hu, fun _ => rfl⟩
  · exact ⟨.app (.lam f) e, .app (.lam hu) ht, fun _ => rfl⟩
  · exact ⟨f.instantiate e, elaborates_substitute ht hu, f.interpret_instantiate e⟩

lemma keepsValue_sharing (ht : Elaborates s t e) (hu : Elaborates ((x, a) :: s) u f)
    {p q : Named} (hp : p ∈ sharings x a t u) (hq : q ∈ sharings x a t u) : KeepsValue s p q := by
  obtain ⟨g, hg, hgv⟩ := exists_elaborates_sharing ht hu hp
  obtain ⟨k, hk, hkv⟩ := exists_elaborates_sharing ht hu hq
  refine hg.keepsValue hk fun ρ => ?_
  calc k.interpret Ty.Value ρ = f.interpret Ty.Value (ρ.push (e.interpret Ty.Value ρ)) := hkv ρ
    _ = g.interpret Ty.Value ρ := (hgv ρ).symm

/-- **Sharing, application and substitution agree**: they have one value, whatever the values
of the variables are, and in a closed term each of them may stand for another one. -/
theorem share_app_substitute_agree (ht : t.elaborate? s = some ⟨a, e⟩)
    (hu : u.elaborate? ((x, a) :: s) = some ⟨b, f⟩) :
    (Named.share x t u).elaborate? s = some ⟨b, .share e f⟩ ∧
      (Named.app (.lam x a u) t).elaborate? s = some ⟨b, .app (.lam f) e⟩ ∧
      (u.substitute [(x, t)]).elaborate? s = some ⟨b, f.instantiate e⟩ ∧
      (∀ ρ : Env Ty.Value s.context,
        (Expr.share e f).interpret Ty.Value ρ = (f.instantiate e).interpret Ty.Value ρ ∧
          (Expr.app (.lam f) e).interpret Ty.Value ρ =
            (f.instantiate e).interpret Ty.Value ρ) ∧
      ∀ p ∈ sharings x a t u, ∀ q ∈ sharings x a t u, ∀ (v w : Named) (c : Ty) (g : Expr [] c),
        Replaces s p q [] v w → v.elaborate? [] = some ⟨c, g⟩ →
          ∃ k : Expr [] c, w.elaborate? [] = some ⟨c, k⟩ ∧ k.value = g.value := by
  have ht' := elaborates_of_elaborate? ht
  have hu' := elaborates_of_elaborate? hu
  refine ⟨elaborate?_of_elaborates (.share ht' hu'),
    elaborate?_of_elaborates (.app (.lam hu') ht'),
    elaborate?_of_elaborates (elaborates_substitute ht' hu'), fun ρ => ?_,
    fun p hp q hq v w c g hr hv => ?_⟩
  · have h := f.interpret_instantiate e ρ
    exact ⟨h.symm, h.symm⟩
  · obtain ⟨k, hk, hkg⟩ :=
      hr.keepsValue (keepsValue_sharing ht' hu' hp hq) g (elaborates_of_elaborate? hv)
    exact ⟨k, elaborate?_of_elaborates hk, hkg Env.empty⟩

/-- A sum in which both variables have one name, the outer one by way of another name. -/
def addsOuter : Named :=
  .map (.lam "y" .int (.add (.var "x") (.var "y"))) (.cons (.int 4) (.nil .int))

/-- The shared variable, with the sums, under a binder that is applied. -/
def atThree (p : Named) : Named := .app (.lam "y" .int p) (.int 3)

theorem value_addsOuter :
    ∃ k : Expr [] (.list .int),
      (atThree (addsOuter.substitute [("x", .var "y")])).elaborate? [] = some ⟨_, k⟩ ∧
        k.value = [7] := by
  obtain ⟨-, -, -, -, h⟩ := share_app_substitute_agree (s := [("y", .int)]) (x := "x")
    (t := .var "y") (u := addsOuter) rfl rfl
  exact h (.share "x" (.var "y") addsOuter) (by simp [sharings]) _ (by simp [sharings])
    (atThree (.share "x" (.var "y") addsOuter)) _ _ _ (.app (.lam .here) (.same _)) rfl

end TypedLambda.Named
