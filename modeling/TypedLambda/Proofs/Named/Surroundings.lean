import TypedLambda.Proofs.Named.Sharing
import TypedLambda.Proofs.Skeleton.Renumbering

/-!
Where a term stands and what it is printed as there. Surroundings are a written term with a hole,
and the invariant is on the number: operands pass it on as it is, and a binder the next one. Main
statement: the text of a filled hole stands between two texts that are the same whatever fills
it, and is the text that the filling term has alone from the number that reaches the hole.
-/

namespace TypedLambda

namespace Rendering

lemma append_text_empty (x : Rendering) : x ++ text "" = x := by
  funext i
  change (x i >>= fun p => pure (p ++ "")) = x i
  rcases x i with e | p
  · rfl
  · exact congrArg Except.ok String.append_empty

lemma text_empty_append (x : Rendering) : text "" ++ x = x := by
  funext i
  change (x i >>= fun p => pure ("" ++ p)) = x i
  rcases x i with e | p
  · rfl
  · exact congrArg Except.ok String.empty_append

variable {x : Rendering} {i : Counter} {o w : String}

lemma text_append_eq_ok :
    (text o ++ x) i = .ok w ↔ ∃ p, x i = .ok p ∧ w = o ++ p := by
  simp [append_eq_ok]

lemma append_text_eq_ok :
    (x ++ text o) i = .ok w ↔ ∃ p, x i = .ok p ∧ w = p ++ o := by
  simp [append_eq_ok]

end Rendering

open Rendering

namespace Named

namespace Binary

def opening : Binary → String
  | app | add | cons => "("
  | map => "map "
  | equals => ""

def between : Binary → String
  | app => " $ "
  | add => " + "
  | cons => " : "
  | map => " "
  | equals => " == "

def closing : Binary → String
  | app | add | cons => ")"
  | map | equals => ""

end Binary

/-- A place among the operands of a form, with what stands in its other places. -/
inductive Place where
  | only (o : Unary)
  | first (o : Binary) (u : Named)
  | second (o : Binary) (t : Named)
  | condition (p q : Named)
  | consequent (c q : Named)
  | alternative (c p : Named)

def Place.fill : Place → Named → Named
  | only o, t => o.term t
  | first o u, t => o.term t u
  | second o u, t => o.term u t
  | condition p q, t => .ite t p q
  | consequent c q, t => .ite c t q
  | alternative c p, t => .ite c p t

/-- A written term with a hole. Terms may be shared beside the way to the hole, not on it. -/
inductive Surroundings where
  | hole
  | under (x : String) (a : Ty) (c : Surroundings)
  | beside (p : Place) (c : Surroundings)

namespace Surroundings

def fill : Surroundings → Named → Named
  | hole, t => t
  | under x a c, t => .lam x a (c.fill t)
  | beside p c, t => p.fill (c.fill t)

/-- The number of binders around the hole. -/
def binders : Surroundings → Nat
  | hole => 0
  | under _ _ c => c.binders + 1
  | beside _ c => c.binders

end Surroundings

/-! ### What stands in one place -/

/-- In the scope, with the texts of its variables, the term is printed to the text from `i` on. -/
def Prints (s : Scope) (ρ : Env Rendered s.context) (i : Counter) (t : Named) (w : String) : Prop :=
  ∃ (a : Ty) (e : Expr s.context a), Elaborates s t e ∧ e.interpret Rendered ρ i = .ok w

variable {s : Scope} {ρ : Env Rendered s.context} {i : Counter} {t u v : Named} {w w' : String}

lemma Prints.unique (h : Prints s ρ i t w) (h' : Prints s ρ i t w') : w = w' := by
  obtain ⟨a, e, he, hw⟩ := h
  obtain ⟨b, f, hf, hw'⟩ := h'
  obtain ⟨⟩ := he.unique hf
  exact Except.ok.inj (hw.symm.trans hw')

/-- The one text that a term can have in its place. -/
lemma Prints.exists_eq (s : Scope) (ρ : Env Rendered s.context) (i : Counter) (t : Named) :
    ∃ y, ∀ w, Prints s ρ i t w → w = y := by
  by_cases h : ∃ y, Prints s ρ i t y
  · obtain ⟨y, hy⟩ := h
    exact ⟨y, fun w hw => hw.unique hy⟩
  · exact ⟨"", fun w hw => absurd ⟨w, hw⟩ h⟩

/-- A closed term is printed in any scope as it is alone. -/
lemma Prints.of_closed {a : Ty} {e : Expr [] a} (he : Elaborates [] t e) (h : Prints s ρ i t w) :
    e.renderFrom i = .ok w := by
  obtain ⟨b, f, hf, hw⟩ := h
  have hmoves : Scope.Moves t.freeNames [] s Env.empty := fun _ _ _ _ hv => nomatch hv
  obtain ⟨⟩ := (he.rename hmoves).unique hf
  rw [Expr.interpret_rename, Env.eq_empty (ρ.comap _)] at hw
  exact hw

lemma Prints.lam {x : String} {a : Ty} (h : Prints s ρ i (.lam x a t) w) :
    ∃ j y, j.index.toNat = i.index.toNat + 1 ∧
      Prints ((x, a) :: s) (ρ.push (text i.binder.name)) j t y ∧
      w = "(\\ " ++ i.binder.name ++ " -> " ++ y ++ ")" := by
  obtain ⟨b, e, he, hw⟩ := h
  cases he with
  | @lam _ _ _ _ _ f he =>
    change abstraction (fun y => f.interpret Rendered (ρ.push y)) i = .ok w at hw
    obtain ⟨j, y, hj, hy, rfl⟩ := abstraction_eq_ok.mp hw
    exact ⟨j, y, Counter.next_eq_ok.mp hj, ⟨_, _, he, hy⟩, rfl⟩

/-- A form with two operands is printed around them. -/
lemma Binary.Typed.interpret_rendered {o : Binary} {a b c : Ty} (k : o.Typed a b c)
    (f : Expr s.context a) (g : Expr s.context b) :
    (k.expr f g).interpret Rendered ρ =
      text o.opening ++ f.interpret Rendered ρ ++ text o.between ++ g.interpret Rendered ρ ++
        text o.closing := by
  cases k with
  | app | add | cons => rfl
  | map => exact (append_text_empty _).symm
  | equals g =>
    rw [opening, closing, text_empty_append, append_text_empty]
    rfl

lemma Prints.binary {o : Binary} (h : Prints s ρ i (o.term t u) w) :
    ∃ p q, Prints s ρ i t p ∧ Prints s ρ i u q ∧
      w = o.opening ++ p ++ o.between ++ q ++ o.closing := by
  obtain ⟨c, e, he, hw⟩ := h
  obtain ⟨a, b, k, f, g, rfl, hf, hg⟩ := he.operands
  rw [k.interpret_rendered, append_text_eq_ok] at hw
  obtain ⟨y, hy, rfl⟩ := hw
  obtain ⟨z, q, hz, hq, rfl⟩ := append_eq_ok.mp hy
  obtain ⟨x, hx, rfl⟩ := append_text_eq_ok.mp hz
  obtain ⟨p, hp, rfl⟩ := text_append_eq_ok.mp hx
  exact ⟨p, q, ⟨a, f, hf, hp⟩, ⟨b, g, hg, hq⟩, rfl⟩

lemma Prints.ite (h : Prints s ρ i (.ite t u v) w) :
    ∃ p q r, Prints s ρ i t p ∧ Prints s ρ i u q ∧ Prints s ρ i v r ∧
      w = "if (" ++ p ++ ") then " ++ q ++ " else " ++ r := by
  obtain ⟨a, e, he, hw⟩ := h
  cases he with
  | ite h₁ h₂ h₃ =>
    obtain ⟨x₁, r, hx₁, hr, rfl⟩ := append_eq_ok.mp hw
    obtain ⟨x₂, hx₂, rfl⟩ := append_text_eq_ok.mp hx₁
    obtain ⟨x₃, q, hx₃, hq, rfl⟩ := append_eq_ok.mp hx₂
    obtain ⟨x₄, hx₄, rfl⟩ := append_text_eq_ok.mp hx₃
    obtain ⟨p, hp, rfl⟩ := text_append_eq_ok.mp hx₄
    exact ⟨p, q, r, ⟨_, _, h₁, hp⟩, ⟨_, _, h₂, hq⟩, ⟨_, _, h₃, hr⟩, rfl⟩

/-- Whatever fills the place, its text stands between two fixed texts there. -/
def Framed (s : Scope) (ρ : Env Rendered s.context) (i : Counter) (fill : Named → Named) : Prop :=
  ∃ before after : String, ∀ t w, Prints s ρ i (fill t) w →
    ∃ y, Prints s ρ i t y ∧ w = before ++ y ++ after

lemma Framed.comp {f g : Named → Named} (hf : Framed s ρ i f) (hg : Framed s ρ i g) :
    Framed s ρ i fun t => f (g t) := by
  obtain ⟨b, c, hf⟩ := hf
  obtain ⟨d, e, hg⟩ := hg
  refine ⟨b ++ d, e ++ c, fun t w h => ?_⟩
  obtain ⟨y, hy, rfl⟩ := hf _ _ h
  obtain ⟨z, hz, rfl⟩ := hg _ _ hy
  exact ⟨z, hz, by simp only [String.append_assoc]⟩

lemma framed_first (o : Binary) (u : Named) : Framed s ρ i fun t => o.term t u := by
  obtain ⟨q, hq⟩ := Prints.exists_eq s ρ i u
  refine ⟨o.opening, o.between ++ q ++ o.closing, fun t w h => ?_⟩
  obtain ⟨p, y, hp, hy, rfl⟩ := h.binary
  obtain rfl := hq y hy
  exact ⟨p, hp, by simp only [String.append_assoc]⟩

lemma framed_second (o : Binary) (u : Named) : Framed s ρ i fun t => o.term u t := by
  obtain ⟨p, hp⟩ := Prints.exists_eq s ρ i u
  refine ⟨o.opening ++ p ++ o.between, o.closing, fun t w h => ?_⟩
  obtain ⟨y, q, hy, hq, rfl⟩ := h.binary
  obtain rfl := hp y hy
  exact ⟨q, hq, rfl⟩

lemma framed_only (o : Unary) : Framed s ρ i o.term := by
  cases o with
  | not =>
    refine ⟨"(not ", ")", fun t w h => ?_⟩
    obtain ⟨a, e, he, hw⟩ := h
    cases he with
    | not he =>
      obtain ⟨y, hy, rfl⟩ := append_text_eq_ok.mp hw
      obtain ⟨p, hp, rfl⟩ := text_append_eq_ok.mp hy
      exact ⟨p, ⟨_, _, he, hp⟩, rfl⟩
  | length =>
    refine ⟨"length ", "", fun t w h => ?_⟩
    obtain ⟨a, e, he, hw⟩ := h
    cases he with
    | length c he =>
      obtain ⟨p, hp, rfl⟩ := text_append_eq_ok.mp hw
      exact ⟨p, ⟨_, _, he, hp⟩, String.append_empty.symm⟩
  | churchToInt =>
    -- The numeral is applied to a named term, which is printed like any other operand.
    obtain ⟨b, c, hframe⟩ := (framed_first (s := s) (ρ := ρ) (i := i) .app (.int 0)).comp
      (framed_first .app (.constant .addOne))
    refine ⟨b, c, fun t w h => hframe t w ?_⟩
    obtain ⟨a, e, he, hw⟩ := h
    cases he with
    | churchToInt he => exact ⟨_, _, .app (.app he (.constant .addOne)) (.int 0), hw⟩
  | incrementEach =>
    obtain ⟨b, c, hframe⟩ :=
      framed_second (s := s) (ρ := ρ) (i := i) .map (.constant .addOne)
    refine ⟨b, c, fun t w h => hframe t w ?_⟩
    obtain ⟨a, e, he, hw⟩ := h
    cases he with
    | incrementEach he => exact ⟨_, _, .map (.constant .addOne) he, hw⟩

/-- **One step**: no operand has a part in how what stands beside it is printed. -/
lemma Place.framed (p : Place) : Framed s ρ i p.fill := by
  cases p with
  | only o => exact framed_only o
  | first o u => exact framed_first o u
  | second o u => exact framed_second o u
  | condition u v =>
    obtain ⟨q, hq⟩ := Prints.exists_eq s ρ i u
    obtain ⟨r, hr⟩ := Prints.exists_eq s ρ i v
    refine ⟨"if (", ") then " ++ q ++ " else " ++ r, fun t w h => ?_⟩
    obtain ⟨x, y, z, hx, hy, hz, rfl⟩ := Prints.ite h
    obtain rfl := hq y hy
    obtain rfl := hr z hz
    exact ⟨x, hx, by simp only [String.append_assoc]⟩
  | consequent c v =>
    obtain ⟨p, hp⟩ := Prints.exists_eq s ρ i c
    obtain ⟨r, hr⟩ := Prints.exists_eq s ρ i v
    refine ⟨"if (" ++ p ++ ") then ", " else " ++ r, fun t w h => ?_⟩
    obtain ⟨x, y, z, hx, hy, hz, rfl⟩ := Prints.ite h
    obtain rfl := hp x hx
    obtain rfl := hr z hz
    exact ⟨y, hy, by simp only [String.append_assoc]⟩
  | alternative c u =>
    obtain ⟨p, hp⟩ := Prints.exists_eq s ρ i c
    obtain ⟨q, hq⟩ := Prints.exists_eq s ρ i u
    refine ⟨"if (" ++ p ++ ") then " ++ q ++ " else ", "", fun t w h => ?_⟩
    obtain ⟨x, y, z, hx, hy, hz, rfl⟩ := Prints.ite h
    obtain rfl := hp x hx
    obtain rfl := hq y hy
    exact ⟨z, hz, String.append_empty.symm⟩

/-- The number reaches the hole through every operand as it is, and through each binder as the
next one. -/
theorem Surroundings.framed (c : Surroundings) (s : Scope) (ρ : Env Rendered s.context)
    (i : Counter) :
    ∃ (s' : Scope) (ρ' : Env Rendered s'.context) (before after : String),
      ∀ t w, Prints s ρ i (c.fill t) w → ∃ j y, j.index.toNat = i.index.toNat + c.binders ∧
        Prints s' ρ' j t y ∧ w = before ++ y ++ after := by
  induction c generalizing s i with
  | hole =>
    refine ⟨s, ρ, "", "", fun t w h => ⟨i, w, rfl, h, ?_⟩⟩
    rw [String.empty_append, String.append_empty]
  | under x a c ih =>
    cases hi : i.next with
    | error e =>
      -- There is no number for the binder, so there is no text at all.
      refine ⟨s, ρ, "", "", fun t w h => ?_⟩
      obtain ⟨j, y, hj, -, -⟩ := Prints.lam h
      rw [Counter.next_eq_ok.mpr hj] at hi
      cases hi
    | ok k =>
      have hk := Counter.next_eq_ok.mp hi
      obtain ⟨s', ρ', b, d, hc⟩ := ih ((x, a) :: s) (ρ.push (text i.binder.name)) k
      refine ⟨s', ρ', "(\\ " ++ i.binder.name ++ " -> " ++ b, d ++ ")", fun t w h => ?_⟩
      obtain ⟨j, y, hj, hy, rfl⟩ := Prints.lam h
      obtain rfl : k = j := Except.ok.inj (hi.symm.trans (Counter.next_eq_ok.mpr hj))
      obtain ⟨l, z, hl, hz, rfl⟩ := hc _ _ hy
      have hcount : l.index.toNat = i.index.toNat + (c.binders + 1) := by omega
      exact ⟨l, z, hcount, hz, by simp only [String.append_assoc]⟩
  | beside p c ih =>
    obtain ⟨b, d, hp⟩ := p.framed (s := s) (ρ := ρ) (i := i)
    obtain ⟨s', ρ', b', d', hc⟩ := ih s ρ i
    refine ⟨s', ρ', b ++ b', d' ++ d, fun t w h => ?_⟩
    obtain ⟨y, hy, rfl⟩ := hp _ _ h
    obtain ⟨j, z, hj, hz, rfl⟩ := hc _ _ hy
    exact ⟨j, z, hj, hz, by simp only [String.append_assoc]⟩

/-- **In place as alone, but for the numbers.** Around a closed term stands the same text whatever
the term is, and its own text there is the one it has alone from the number that the binders
around it leave. From any number on that text is the one from zero on, with the number added to
that of each name and nothing else changed. -/
theorem renderFrom_fill :
    (∀ (c : Surroundings) (i : Counter), ∃ before after : String,
      ∀ (t : Named) (b : Ty) (f : Expr [] b) (a : Ty) (e : Expr [] a) (w : String),
        t.elaborate? [] = some ⟨b, f⟩ → (c.fill t).elaborate? [] = some ⟨a, e⟩ →
        e.renderFrom i = .ok w →
          ∃ (j : Counter) (y : String), j.index.toNat = i.index.toNat + c.binders ∧
            f.renderFrom j = .ok y ∧ w = before ++ y ++ after) ∧
    ∀ (t : Named) (b : Ty) (f : Expr [] b) (j : Counter) (y : String),
      t.elaborate? [] = some ⟨b, f⟩ → f.renderFrom j = .ok y →
        ∃ (s : Skeleton 0) (z : String), t.skeleton? [] = some s ∧ f.render = .ok z ∧
          z = (s.spell 0).text ∧ y = (s.spell j.index.toNat).text ∧
          y = Spelled.renumber j.index.toNat z := by
  constructor
  · intro c i
    obtain ⟨s, ρ, before, after, h⟩ := c.framed [] Env.empty i
    refine ⟨before, after, fun t b f a e w ht hc hw => ?_⟩
    obtain ⟨j, y, hj, hy, rfl⟩ := h t w ⟨a, e, elaborates_of_elaborate? hc, hw⟩
    exact ⟨j, y, hj, hy.of_closed (elaborates_of_elaborate? ht), rfl⟩
  · intro t b f j y ht hy
    obtain ⟨hz, hspelled, hrenumbered⟩ := Expr.renumber_render hy
    exact ⟨f.skeleton, _, skeleton?_eq ht, hz, rfl, hspelled, hrenumbered⟩

/-- A comparison with a literal that looks like a name. -/
def quotesName : Named := .lam "z" .string (.equals (.var "z") (.string "a0"))

/-- The function of an application under a binder, beside an operand with a binder of its own. -/
def besideOperand : Surroundings :=
  .under "x" .string (.beside (.first .app (.app (.lam "y" .string (.var "y")) (.var "x"))) .hole)

end Named

def Expr.quotesName {Γ : Context} : Expr Γ (.fn .string .bool) :=
  .lam (.equals .string (.var .here) (.string "a0"))

def Expr.besideOperand : Expr [] (.fn .string .bool) :=
  .lam (.app quotesName (.app (.lam (.var .here)) (.var .here)))

theorem Named.renderFrom_fill_besideOperand :
    quotesName.elaborate? [] = some ⟨_, Expr.quotesName⟩ ∧
      (besideOperand.fill quotesName).elaborate? [] = some ⟨_, Expr.besideOperand⟩ ∧
      ∃ before after y z : String,
        Expr.besideOperand.renderFrom ⟨5⟩ = .ok (before ++ y ++ after) ∧
        Expr.quotesName.renderFrom ⟨6⟩ = .ok y ∧ Expr.quotesName.render = .ok z ∧
        y = Spelled.renumber 6 z := by
  have ht : quotesName.elaborate? [] = some ⟨_, Expr.quotesName⟩ := rfl
  have hc : (besideOperand.fill quotesName).elaborate? [] = some ⟨_, Expr.besideOperand⟩ := rfl
  have hw : Expr.besideOperand.renderFrom ⟨5⟩ =
      .ok "(\\ a5 -> ((\\ a6 -> a6 == \"a0\") $ ((\\ a6 -> a6) $ a5)))" := by decide +kernel
  obtain ⟨before, after, h⟩ := renderFrom_fill.1 besideOperand ⟨5⟩
  obtain ⟨⟨j⟩, y, hj, hy, hsplit⟩ := h _ _ _ _ _ _ ht hc hw
  have hj : j = 6 := UInt64.toNat_inj.mp hj
  subst hj
  obtain ⟨s, z, -, hz, -, -, hyz⟩ := renderFrom_fill.2 _ _ _ _ _ ht hy
  refine ⟨ht, hc, before, after, y, z, ?_, hy, hz, hyz⟩
  rw [hw, hsplit]

end TypedLambda
