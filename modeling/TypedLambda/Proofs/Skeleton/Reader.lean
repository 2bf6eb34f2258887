import TypedLambda.Proofs.Skeleton.Rendering

/-!
Reading a printed term. The print has few parentheses: what stands behind `map`, `length` and
`else` is closed off by nothing, so a comparison could belong to the last operand or to all that
stands before it. It never belongs to the operand of a `map` or a `length`, whose type excludes
it, so the reader looks for `==` everywhere but there. Main statement: the reader finds the
skeleton of every rendered term in which no operand of a comparison is itself a comparison or a
conditional, so two such terms with one text have one skeleton.
-/

namespace TypedLambda

namespace Spelled

/-- A term off the front, and what is left. -/
abbrev Reader := List Char → Option (Spelled × List Char)

/-- What is left after the given text. -/
def skip? (w : String) (cs : List Char) : Option (List Char) := w.toList.isPrefixOf? cs

/-- A number off the front, if there is a digit. -/
def number? (cs : List Char) : Option (Nat × List Char) :=
  if cs.takeWhile Char.isDigit = [] then none
  else some (Nat.ofDigitChars 10 (cs.takeWhile Char.isDigit) 0, cs.dropWhile Char.isDigit)

/-- The operator between two operands in parentheses. -/
def operator? (cs : List Char) : Option ((Spelled → Spelled → Spelled) × List Char) :=
  (skip? " $ " cs).map (Spelled.app, ·) <|> (skip? " + " cs).map (Spelled.add, ·) <|>
    (skip? " : " cs).map (Spelled.cons, ·)

/-- What stands behind an opening parenthesis. -/
def parenthesized (p : Bool → Reader) : Reader := fun cs =>
  match skip? "\\ a" cs with
  | some r => do
    let x := String.ofList ('a' :: r.takeWhile Char.isDigit)
    let (body, r) ← p true (← skip? " -> " (r.dropWhile Char.isDigit))
    let r ← skip? ")" r
    return (lam x body, r)
  | none =>
    match skip? "not " cs with
    | some r => do
      let (x, r) ← p true r
      let r ← skip? ")" r
      return (not x, r)
    | none => do
      let (l, r) ← p true cs
      let (o, r) ← operator? r
      let (x, r) ← p true r
      let r ← skip? ")" r
      return (o l x, r)

/-- Reads all but comparisons, by a reader for what is inside. Where the term stands for a
`whole`, so does its last branch. -/
def operand (p : Bool → Reader) (whole : Bool) : Reader
  | [] => none
  | '(' :: cs => parenthesized p cs
  | '[' :: cs => (skip? "]" cs).map (nil, ·)
  | 'm' :: cs => do
    let (f, r) ← p false (← skip? "ap " cs)
    let (xs, r) ← p false (← skip? " " r)
    return (map f xs, r)
  | 'l' :: cs => do
    let (xs, r) ← p false (← skip? "ength " cs)
    return (length xs, r)
  | 'i' :: cs => do
    let (c, r) ← p true (← skip? "f (" cs)
    let (t, r) ← p true (← skip? ") then " r)
    let (e, r) ← p whole (← skip? " else " r)
    return (ite c t e, r)
  | 'T' :: cs => (skip? "rue" cs).map (bool true, ·)
  | 'F' :: cs => (skip? "alse" cs).map (bool false, ·)
  | '"' :: cs => (Text.Quoted.decode ('"' :: cs)).map fun q => (string (String.ofList q.1), q.2)
  | 'a' :: cs =>
    some (var (String.ofList ('a' :: cs.takeWhile Char.isDigit)), cs.dropWhile Char.isDigit)
  | '-' :: cs => (number? cs).map fun q => (int (Int64.ofInt (-q.1)), q.2)
  | c :: cs => (number? (c :: cs)).map fun q => (int (Int64.ofInt q.1), q.2)

/-- Reads a term of less than so many characters, and as a `whole` also a comparison. -/
def parse : Nat → Bool → Reader
  | 0, _, _ => none
  | n + 1, whole, cs => do
    let (l, r) ← operand (parse n) whole cs
    match whole, skip? " == " r with
    | true, some r => do
      let (x, r) ← operand (parse n) false r
      return (equals l x, r)
    | _, _ => return (l, r)

/-- The skeleton of a printed closed term. -/
def read? (w : String) : Option (Skeleton 0) :=
  match parse (w.length + 1) true w.toList with
  | some (t, []) => t.resolve? Fin.elim0
  | _ => none

/-! ### One form at a time -/

@[simp] lemma skip?_append (w : String) (r : List Char) : skip? w (w.toList ++ r) = some r :=
  List.isPrefixOf?_eq_some_iff_append_eq.mpr rfl

lemma eq_of_skip? {w : String} {cs r : List Char} (h : skip? w cs = some r) : cs = w.toList ++ r :=
  (List.isPrefixOf?_eq_some_iff_append_eq.mp h).symm

/-- A term may end here: it would not go on with a digit, nor a whole one with `==`. -/
def Stops (whole : Bool) (r : List Char) : Prop :=
  r.takeWhile Char.isDigit = [] ∧ (whole = true → skip? " == " r = none)

/-- The reader finds the term in front of whatever the term may be followed by. -/
def Reads (f : Reader) (whole : Bool) (t : Spelled) : Prop :=
  ∀ r, Stops whole r → f (t.text.toList ++ r) = some (t, r)

lemma Stops.weaken {whole : Bool} {r : List Char} (h : Stops whole r) : Stops false r :=
  ⟨h.1, fun h => nomatch h⟩

lemma Reads.weaken {f : Reader} {t : Spelled} (h : Reads f false t) (whole : Bool) :
    Reads f whole t := fun r hr => h r hr.weaken

lemma takeWhile_toDigits {r : List Char} (hr : r.takeWhile Char.isDigit = []) (m : Nat) :
    (Nat.toDigits 10 m ++ r).takeWhile Char.isDigit = Nat.toDigits 10 m ∧
      (Nat.toDigits 10 m ++ r).dropWhile Char.isDigit = r := by
  have hd : ∀ c ∈ Nat.toDigits 10 m, c.isDigit = true := fun c hc =>
    Nat.isDigit_of_mem_toDigits (by decide) (by decide) hc
  have hdrop : r.dropWhile Char.isDigit = r := by
    have := List.takeWhile_append_dropWhile (p := Char.isDigit) (l := r)
    rwa [hr] at this
  rw [List.takeWhile_append_of_pos hd, List.dropWhile_append_of_pos hd, hr, hdrop,
    List.append_nil]
  exact ⟨rfl, rfl⟩

lemma number?_toDigits {r : List Char} (hr : r.takeWhile Char.isDigit = []) (m : Nat) :
    number? (Nat.toDigits 10 m ++ r) = some (m, r) := by
  obtain ⟨h₁, h₂⟩ := takeWhile_toDigits hr m
  rw [number?, h₁, h₂, if_neg Nat.toDigits_ne_nil, Nat.ofDigitChars_ten_toDigits]

variable {p : Bool → Reader} {whole : Bool}

lemma toList_binderName (m : Nat) : (binderName m).toList = 'a' :: Nat.toDigits 10 m := by
  simp [binderName]

lemma ofList_binderName (m : Nat) :
    String.ofList ('a' :: Nat.toDigits 10 m) = binderName m := by
  rw [← toList_binderName, String.ofList_toList]

lemma reads_var (m : Nat) : Reads (operand p whole) false (var (binderName m)) := by
  intro r hr
  obtain ⟨h₁, h₂⟩ := takeWhile_toDigits hr.1 m
  rw [text, toList_binderName, List.cons_append, operand, h₁, h₂, ofList_binderName]

lemma operand_digit {c : Char} (hc : c.isDigit = true) (cs : List Char) :
    operand p whole (c :: cs) =
      (number? (c :: cs)).map fun q => (int (Int64.ofInt q.1), q.2) := by
  unfold operand
  split
  all_goals first | rfl | simp_all

lemma reads_int (n : Int64) : Reads (operand p whole) false (int n) := by
  intro r hr
  have hn : Int64.ofInt n.toInt = n := Int64.ofInt_toInt n
  rw [text]
  rcases hz : n.toInt with m | m
  · rw [hz] at hn
    change operand p whole (m.repr.toList ++ r) = _
    have hnum := number?_toDigits hr.1 m
    obtain ⟨c, cs, hc⟩ := List.exists_cons_of_ne_nil (Nat.toDigits_ne_nil (n := m) (b := 10))
    have hd : c.isDigit = true :=
      Nat.isDigit_of_mem_toDigits (b := 10) (n := m) (by decide) (by decide) (by simp [hc])
    rw [hc, List.cons_append] at hnum
    rw [Nat.toList_repr, hc, List.cons_append, operand_digit hd, hnum, ← hn]
    rfl
  · rw [hz, Int.negSucc_eq] at hn
    change operand p whole (("-" ++ (m + 1).repr).toList ++ r) = _
    rw [String.toList_append, Nat.toList_repr, List.append_assoc]
    change (number? (Nat.toDigits 10 (m + 1) ++ r)).map _ = _
    rw [number?_toDigits hr.1, Option.map_some, ← hn]
    rfl

lemma reads_nil : Reads (operand p whole) false nil := fun _ _ => rfl

lemma reads_bool (b : Bool) : Reads (operand p whole) false (bool b) := by
  intro r _
  cases b <;> rfl

lemma reads_string (s : String) : Reads (operand p whole) false (string s) := by
  intro r _
  have h := Text.Quoted.decode_encode_append s.toList r
  rw [text, Text.Quoted.toList_quote]
  change ((Text.Quoted.decode (Text.Quoted.encode s.toList ++ r)).map _) = _
  rw [h, Option.map_some, String.ofList_toList]

variable {n : Nat} {t l x : Spelled}

/-- Nothing begins with what follows the parenthesis of a binder or a negation. -/
lemma parse_eq_none {c : Char} (hc : c = '\\' ∨ c = 'n') (r : List Char) :
    parse n whole (c :: r) = none := by
  cases n with
  | zero => rfl
  | succ n => rcases hc with rfl | rfl <;> rfl

lemma skip?_eq_none_of_reads (h : Reads (parse n true) true t) {r : List Char}
    (hr : Stops true r) {w : String} {c : Char} {cs : List Char} (hw : w.toList = c :: cs)
    (hc : c = '\\' ∨ c = 'n') : skip? w (t.text.toList ++ r) = none := by
  rw [Option.eq_none_iff_forall_ne_some]
  intro r' hs
  have ht := h r hr
  rw [eq_of_skip? hs, hw, List.cons_append, parse_eq_none hc] at ht
  cases ht

lemma reads_infix {o : String} {c : Spelled → Spelled → Spelled}
    (ho : ∀ r, operator? (o.toList ++ r) = some (c, r))
    (hs : ∀ r, Stops true (o.toList ++ r)) (hl : Reads (parse n true) true l)
    (hx : Reads (parse n true) true x) (ht : (c l x).text = "(" ++ l.text ++ o ++ x.text ++ ")") :
    Reads (operand (parse n) whole) false (c l x) := by
  intro r _
  rw [ht]
  simp only [String.toList_append, List.append_assoc]
  change parenthesized (parse n)
    (l.text.toList ++ (o.toList ++ (x.text.toList ++ (")".toList ++ r)))) = _
  rw [parenthesized, skip?_eq_none_of_reads hl (hs _) rfl (.inl rfl)]
  simp only [skip?_eq_none_of_reads hl (hs _) (w := "not ") rfl (.inr rfl)]
  rw [hl _ (hs _)]
  simp only [Option.bind_eq_bind, Option.bind_some, ho]
  rw [hx _ ⟨rfl, fun _ => rfl⟩]
  simp only [Option.bind_some, skip?_append]
  rfl

lemma reads_not (hx : Reads (parse n true) true x) :
    Reads (operand (parse n) whole) false (not x) := by
  intro r _
  simp only [text, String.toList_append, List.append_assoc]
  change parenthesized (parse n) ("not ".toList ++ (x.text.toList ++ (")".toList ++ r))) = _
  have h : ∀ r, skip? "\\ a" ("not ".toList ++ r) = none := fun _ => rfl
  rw [parenthesized, h]
  simp only [skip?_append]
  rw [hx _ ⟨rfl, fun _ => rfl⟩]
  simp only [Option.bind_eq_bind, Option.bind_some, skip?_append]
  rfl

lemma reads_lam (m : Nat) (hx : Reads (parse n true) true x) :
    Reads (operand (parse n) whole) false (lam (binderName m) x) := by
  intro r _
  simp only [text, toList_binderName, String.toList_append, List.append_assoc]
  change parenthesized (parse n) ("\\ a".toList ++
    (Nat.toDigits 10 m ++ (" -> ".toList ++ (x.text.toList ++ (")".toList ++ r))))) = _
  rw [parenthesized, skip?_append]
  obtain ⟨h₁, h₂⟩ := takeWhile_toDigits
    (r := " -> ".toList ++ (x.text.toList ++ (")".toList ++ r))) rfl m
  simp only [h₁, h₂, skip?_append, Option.bind_eq_bind, Option.bind_some, ofList_binderName]
  rw [hx _ ⟨rfl, fun _ => rfl⟩]
  simp only [Option.bind_some, skip?_append]
  rfl

lemma reads_map (hf : Reads (parse n false) false l) (hx : Reads (parse n false) false x) :
    Reads (operand (parse n) whole) false (map l x) := by
  intro r hr
  simp only [text, String.toList_append, List.append_assoc]
  have h : ∀ r, "map ".toList ++ r = 'm' :: ("ap ".toList ++ r) := fun _ => rfl
  rw [h, operand, skip?_append]
  simp only [Option.bind_eq_bind, Option.bind_some]
  rw [hf _ ⟨rfl, fun h => nomatch h⟩]
  simp only [Option.bind_some, skip?_append]
  rw [hx r hr]
  rfl

lemma reads_length (hx : Reads (parse n false) false x) :
    Reads (operand (parse n) whole) false (length x) := by
  intro r hr
  simp only [text, String.toList_append, List.append_assoc]
  have h : ∀ r, "length ".toList ++ r = 'l' :: ("ength ".toList ++ r) := fun _ => rfl
  rw [h, operand, skip?_append]
  simp only [Option.bind_eq_bind, Option.bind_some]
  rw [hx r hr]
  rfl

lemma reads_ite (ht : Reads (parse n true) true t) (hl : Reads (parse n true) true l)
    (hx : Reads (parse n whole) whole x) :
    Reads (operand (parse n) whole) whole (ite t l x) := by
  intro r hr
  simp only [text, String.toList_append, List.append_assoc]
  have h : ∀ r, "if (".toList ++ r = 'i' :: ("f (".toList ++ r) := fun _ => rfl
  rw [h, operand, skip?_append]
  simp only [Option.bind_eq_bind, Option.bind_some]
  rw [ht _ ⟨rfl, fun _ => rfl⟩]
  simp only [Option.bind_some, skip?_append]
  rw [hl _ ⟨rfl, fun _ => rfl⟩]
  simp only [Option.bind_some, skip?_append]
  rw [hx r hr]
  rfl

/-- What is read as an operand is read, since no `==` comes after it. -/
lemma reads_of_operand (h : Reads (operand (parse n) whole) whole t) :
    Reads (parse (n + 1) whole) whole t := by
  intro r hr
  rw [parse, h r hr, Option.bind_eq_bind, Option.bind_some]
  cases whole with
  | true => simp only [hr.2 rfl]; rfl
  | false => rfl

lemma reads_equals (hl : Reads (operand (parse n) true) false l)
    (hx : Reads (operand (parse n) false) false x) :
    Reads (parse (n + 1) true) true (equals l x) := by
  intro r hr
  simp only [text, String.toList_append, List.append_assoc]
  rw [parse, hl _ ⟨rfl, fun h => nomatch h⟩]
  simp only [Option.bind_eq_bind, Option.bind_some, skip?_append]
  rw [hx r hr.weaken]
  rfl

end Spelled

namespace Skeleton

/-- A comparison or a conditional. -/
def IsOpen {n : Nat} : Skeleton n → Prop
  | ite _ _ _ | equals _ _ => True
  | _ => False

/-- No operand of a comparison is itself a comparison or a conditional. -/
def SimpleOperands {n : Nat} : Skeleton n → Prop
  | lam body => body.SimpleOperands
  | app f x => f.SimpleOperands ∧ x.SimpleOperands
  | add l r => l.SimpleOperands ∧ r.SimpleOperands
  | cons h t => h.SimpleOperands ∧ t.SimpleOperands
  | map f xs => f.SimpleOperands ∧ xs.SimpleOperands
  | ite c p q => c.SimpleOperands ∧ p.SimpleOperands ∧ q.SimpleOperands
  | not x => x.SimpleOperands
  | length xs => xs.SimpleOperands
  | equals l r => l.SimpleOperands ∧ r.SimpleOperands ∧ ¬ l.IsOpen ∧ ¬ r.IsOpen
  | var _ | int _ | nil | bool _ | string _ => True

/-- The term is a comparison, or ends in one that no parenthesis closes off. -/
def EndsCompared {n : Nat} : Skeleton n → Prop
  | equals _ _ => True
  | ite _ _ q => q.EndsCompared
  | map _ xs => xs.EndsCompared
  | length xs => xs.EndsCompared
  | _ => False

end Skeleton

open Spelled Skeleton

variable {Γ : Context} {a : Ty}

/-- What ends in a comparison is a truth value, so it is no function, list or text. -/
lemma Plain.eq_bool_of_endsCompared (p : Plain Γ a) (h : p.erase.EndsCompared) : a = .bool := by
  induction p with
  | equals g l r => rfl
  | ite c p q ihc ihp ihq => exact ihq h
  | map f xs ihf ihx => cases ihx h
  | length c xs ih => cases ih h; cases c
  | _ => exact h.elim

/-- How a spelled term is read: as a whole, as an operand of something else, and, unless it is
open, also in front of `==`. -/
structure Readable (s : Skeleton Γ.length) (t : Spelled) : Prop where
  parsed : ∀ {n : Nat} {whole : Bool}, t.text.length < n →
    (whole = false → ¬ s.EndsCompared) → Reads (parse n whole) whole t
  closed : ¬ s.IsOpen → ∀ {n : Nat} {whole : Bool}, t.text.length ≤ n →
    Reads (operand (parse n) whole) false t

namespace Readable

variable {s : Skeleton Γ.length} {t : Spelled} {n : Nat}

lemma of_closed (h : ∀ {n : Nat} {whole : Bool}, t.text.length ≤ n →
    Reads (operand (parse n) whole) false t) : Readable s t where
  parsed {n _} hn _ := by
    cases n with
    | zero => exact absurd hn (Nat.not_lt_zero _)
    | succ n => exact reads_of_operand ((h (Nat.le_of_lt_succ hn)).weaken _)
  closed _ := h

lemma whole (h : Readable s t) (hn : t.text.length < n) : Reads (parse n true) true t :=
  h.parsed hn fun h => nomatch h

/-- The operand of a `map` or a `length`, which is no truth value. -/
lemma tail {p : Plain Γ a} (h : Readable p.erase t) (ha : a ≠ .bool)
    (hn : t.text.length < n) : Reads (parse n false) false t :=
  h.parsed hn fun _ hc => ha (p.eq_bool_of_endsCompared hc)

end Readable

lemma length_infix {s o t : String} {n : Nat} (ho : o.length = 3)
    (h : ("(" ++ s ++ o ++ t ++ ")").length ≤ n) : s.length < n ∧ t.length < n := by
  simp only [String.length_append, ho] at h
  omega

theorem Plain.readable (p : Plain Γ a) (h : p.erase.SimpleOperands) (i : Nat) :
    Readable p.erase (p.erase.spell i) := by
  induction p with
  | var x => exact .of_closed fun _ => reads_var _
  | int n => exact .of_closed fun _ => reads_int n
  | nil => exact .of_closed fun _ => reads_nil
  | bool b => exact .of_closed fun _ => reads_bool b
  | string s => exact .of_closed fun _ => reads_string s
  | lam body ih =>
    refine .of_closed fun hn => reads_lam _ ((ih h).whole ?_)
    have hw : " -> ".length = 4 := rfl
    simp only [erase, spell, text, String.length_append] at hn
    omega
  | app f x ihf ihx =>
    refine .of_closed fun hn => ?_
    obtain ⟨hf, hx⟩ := length_infix rfl hn
    exact reads_infix (c := .app) (fun _ => rfl) (fun _ => ⟨rfl, fun _ => rfl⟩)
      ((ihf h.1).whole hf) ((ihx h.2).whole hx) rfl
  | add l r ihl ihr =>
    refine .of_closed fun hn => ?_
    obtain ⟨hl, hr⟩ := length_infix rfl hn
    exact reads_infix (c := .add) (fun _ => rfl) (fun _ => ⟨rfl, fun _ => rfl⟩)
      ((ihl h.1).whole hl) ((ihr h.2).whole hr) rfl
  | cons x t ihx iht =>
    refine .of_closed fun hn => ?_
    obtain ⟨hx, ht⟩ := length_infix rfl hn
    exact reads_infix (c := .cons) (fun _ => rfl) (fun _ => ⟨rfl, fun _ => rfl⟩)
      ((ihx h.1).whole hx) ((iht h.2).whole ht) rfl
  | map f xs ihf ihx =>
    refine .of_closed fun hn => ?_
    have hw : "map ".length = 4 := rfl
    simp only [erase, spell, text, String.length_append] at hn
    exact reads_map ((ihf h.1).tail (by simp) (by omega)) ((ihx h.2).tail (by simp) (by omega))
  | not x ih =>
    refine .of_closed fun hn => reads_not ((ih h).whole ?_)
    have hw : "(not ".length = 5 := rfl
    simp only [erase, spell, text, String.length_append] at hn
    omega
  | length c xs ih =>
    refine .of_closed fun hn => reads_length ((ih h).tail (by rintro rfl; cases c) ?_)
    have hw : "length ".length = 7 := rfl
    simp only [erase, spell, text, String.length_append] at hn
    omega
  | ite c p q ihc ihp ihq =>
    refine ⟨fun {n whole} hn hq => ?_, fun ho => absurd trivial ho⟩
    have hw : "if (".length = 4 := rfl
    have hw' : ") then ".length = 7 := rfl
    simp only [erase, spell, text, String.length_append] at hn
    cases n with
    | zero => omega
    | succ n =>
      exact reads_of_operand (reads_ite ((ihc h.1).whole (by omega))
        ((ihp h.2.1).whole (by omega)) ((ihq h.2.2).parsed (by omega) hq))
  | equals g l r ihl ihr =>
    obtain ⟨hl, hr, hlo, hro⟩ := h
    refine ⟨fun {n whole} hn hq => ?_, fun ho => absurd trivial ho⟩
    simp only [erase, spell, text, String.length_append] at hn
    cases whole with
    | false => exact absurd trivial (hq rfl)
    | true =>
      cases n with
      | zero => omega
      | succ n =>
        exact reads_equals ((ihl hl).closed hlo (by omega)) ((ihr hr).closed hro (by omega))

/-- The reader finds the skeleton of a rendered term. -/
theorem Expr.read?_of_renderFrom {e : Expr [] a} (h : e.skeleton.SimpleOperands) {i : Counter}
    {w : String} (hw : e.renderFrom i = .ok w) : read? w = some e.skeleton := by
  rw [renderFrom_eq, Rendering.fitting_eq_ok] at hw
  obtain ⟨-, rfl⟩ := hw
  have hr := (e.plain.readable h i.index.toNat).whole (Nat.lt_succ_self _) []
    ⟨rfl, fun _ => rfl⟩
  rw [List.append_nil] at hr
  rw [read?, skeleton, hr]
  exact resolve?_spell_closed _ _

/-- **Rendered terms are uniquely readable.** Of two well typed terms in which no operand of a
comparison is itself a comparison or a conditional, with one text from `i` on, the skeleton is
the same, and it is the one that the reader finds in the text. -/
theorem Named.skeleton?_of_renderFrom {t u : Named} {a b : Ty} {e : Expr [] a} {f : Expr [] b}
    (ht : t.elaborate? [] = some ⟨a, e⟩) (hu : u.elaborate? [] = some ⟨b, f⟩)
    (he : e.skeleton.SimpleOperands) (hf : f.skeleton.SimpleOperands) {i : Counter} {w : String}
    (hew : e.renderFrom i = .ok w) (hfw : f.renderFrom i = .ok w) :
    ∃ s : Skeleton 0, t.skeleton? [] = some s ∧ u.skeleton? [] = some s ∧ read? w = some s := by
  have h₁ := Expr.read?_of_renderFrom he hew
  have h₂ := Expr.read?_of_renderFrom hf hfw
  refine ⟨e.skeleton, skeleton?_eq ht, ?_, h₁⟩
  calc u.skeleton? [] = some f.skeleton := skeleton?_eq hu
    _ = read? w := h₂.symm
    _ = some e.skeleton := h₁

/-- A comparison behind a `map`, which could be read as one of its last operand. -/
def Named.comparesMapped : Named :=
  .lam "x" .bool (.equals (.map (.constant .addOne) (.nil .int)) (.nil .int))

def Expr.comparesMapped : Expr [] (.fn .bool .bool) :=
  .lam (.equals (.list .int) (.map (.constant .addOne) .nil) .nil)

/-- The same comparison with other names and types, and with the function shared. -/
def Named.comparesMappedShared : Named :=
  .share "x" (.lam "x" .int (.add (.var "x") (.int 1)))
    (.lam "y" .int (.equals (.map (.var "x") (.nil .int)) (.nil .int)))

def Expr.comparesMappedShared : Expr [] (.fn .int .bool) :=
  .share (.lam (.add (.var .here) (.int 1)))
    (.lam (.equals (.list .int) (.map (.var (.there .here)) .nil) .nil))

theorem Named.skeleton?_comparesMapped :
    comparesMapped.elaborate? [] = some ⟨_, Expr.comparesMapped⟩ ∧
      comparesMappedShared.elaborate? [] = some ⟨_, Expr.comparesMappedShared⟩ ∧
      Expr.comparesMapped.skeleton.SimpleOperands ∧
      Expr.comparesMappedShared.skeleton.SimpleOperands ∧
      Expr.comparesMapped.renderFrom .zero =
        .ok "(\\ a0 -> map (\\ a1 -> (a1 + 1)) [] == [])" ∧
      Expr.comparesMappedShared.renderFrom .zero =
        .ok "(\\ a0 -> map (\\ a1 -> (a1 + 1)) [] == [])" ∧
      ∃ s : Skeleton 0, comparesMapped.skeleton? [] = some s ∧
        comparesMappedShared.skeleton? [] = some s ∧
        read? "(\\ a0 -> map (\\ a1 -> (a1 + 1)) [] == [])" = some s := by
  have h₁ : Expr.comparesMapped.skeleton.SimpleOperands := by
    simp [Expr.comparesMapped, Expr.skeleton, Expr.plain, Expr.expand, Constant.plain,
      Plain.addOne, Plain.erase, SimpleOperands, Skeleton.IsOpen]
  have h₂ : Expr.comparesMappedShared.skeleton.SimpleOperands := by
    simp [Expr.comparesMappedShared, Expr.skeleton, Expr.plain, Expr.expand, Substitution.lift,
      Env.push, Plain.weaken, Plain.rename, Plain.erase, SimpleOperands, Skeleton.IsOpen]
  have h₃ : Expr.comparesMapped.renderFrom .zero =
      .ok "(\\ a0 -> map (\\ a1 -> (a1 + 1)) [] == [])" := by decide +kernel
  have h₄ : Expr.comparesMappedShared.renderFrom .zero =
      .ok "(\\ a0 -> map (\\ a1 -> (a1 + 1)) [] == [])" := by decide +kernel
  exact ⟨rfl, rfl, h₁, h₂, h₃, h₄, skeleton?_of_renderFrom rfl rfl h₁ h₂ h₃ h₄⟩

end TypedLambda
