import TypedLambda.Proofs.Skeleton.Reader

/-!
Renumbering a printed term. Names are found in the text alone, by one pass from the left: a name
is the letter `a` and the digits behind it, wherever it does not stand inside a literal. Main
statement: the spelling from a number further on is the text in which that much is added to the
number of every name, and all else is as it was.
-/

namespace TypedLambda

namespace Spelled

/-- Where the pass stands: at a character that belongs to no name, behind the letter of a name,
inside its number, inside a literal, or behind a backslash there. -/
inductive Pass where
  | code
  | letter
  | number (n : Nat)
  | literal
  | escaped

/-- Where the pass is behind a character that belongs to no name and to no literal. -/
def Pass.behind (c : Char) : Pass :=
  if c = '"' then literal else if c = 'a' then letter else code

/-- The rest of a text, with `j` added to each number in a name. A number is put down when it has
been read to its end. -/
def renumberFrom (j : Nat) : Pass → List Char → List Char
  | .number n, [] => Nat.toDigits 10 (n + j)
  | _, [] => []
  | .code, c :: cs => c :: renumberFrom j (.behind c) cs
  | .letter, c :: cs =>
    if c.isDigit then renumberFrom j (.number (c.toNat - '0'.toNat)) cs
    else c :: renumberFrom j (.behind c) cs
  | .number n, c :: cs =>
    if c.isDigit then renumberFrom j (.number (10 * n + (c.toNat - '0'.toNat))) cs
    else Nat.toDigits 10 (n + j) ++ c :: renumberFrom j (.behind c) cs
  | .literal, c :: cs =>
    c :: renumberFrom j (if c = '"' then .code else if c = '\\' then .escaped else .literal) cs
  | .escaped, c :: cs => c :: renumberFrom j .literal cs

/-- A printed term with `j` added to the number of each name. -/
def renumber (j : Nat) (w : String) : String := String.ofList (renumberFrom j .code w.toList)

variable {j : Nat}

/-! ### Names and numbers -/

lemma isDigit_of_mem_toDigits (m : Nat) : ∀ c ∈ Nat.toDigits 10 m, c.isDigit = true := fun _ hc =>
  Nat.isDigit_of_mem_toDigits (by decide) (by decide) hc

/-- Digits that belong to no name are kept. -/
lemma renumberFrom_digits {ds : List Char} (hd : ∀ c ∈ ds, c.isDigit = true) (r : List Char) :
    renumberFrom j .code (ds ++ r) = ds ++ renumberFrom j .code r := by
  induction ds with
  | nil => rfl
  | cons c ds ih =>
    have hc : c.isDigit = true := hd c List.mem_cons_self
    have hq : c ≠ '"' := by rintro rfl; cases hc
    have ha : c ≠ 'a' := by rintro rfl; cases hc
    have hb : Pass.behind c = .code := by rw [Pass.behind, if_neg hq, if_neg ha]
    rw [List.cons_append, renumberFrom, hb, ih fun d h => hd d (List.mem_cons_of_mem c h)]
    rfl

/-- At the end of its number a name is put down. -/
lemma renumberFrom_number_of_stops (n : Nat) {r : List Char}
    (hr : r.takeWhile Char.isDigit = []) :
    renumberFrom j (.number n) r = Nat.toDigits 10 (n + j) ++ renumberFrom j .code r := by
  cases r with
  | nil => exact (List.append_nil _).symm
  | cons c r =>
    have hc : ¬ c.isDigit = true := by
      intro h
      rw [List.takeWhile_cons_of_pos h] at hr
      cases hr
    simp only [renumberFrom, if_neg hc]

lemma renumberFrom_number {ds : List Char} (hd : ∀ c ∈ ds, c.isDigit = true) (n : Nat)
    {r : List Char} (hr : r.takeWhile Char.isDigit = []) :
    renumberFrom j (.number n) (ds ++ r) =
      Nat.toDigits 10 (Nat.ofDigitChars 10 ds n + j) ++ renumberFrom j .code r := by
  induction ds generalizing n with
  | nil => exact renumberFrom_number_of_stops n hr
  | cons c ds ih =>
    have hc : c.isDigit = true := hd c List.mem_cons_self
    rw [List.cons_append, renumberFrom, if_pos hc, Nat.ofDigitChars_cons]
    exact ih (fun d h => hd d (List.mem_cons_of_mem c h)) _

/-- The first digit tells a name from a word that begins with its letter. -/
lemma renumberFrom_letter (m : Nat) {r : List Char} (hr : r.takeWhile Char.isDigit = []) :
    renumberFrom j .letter (Nat.toDigits 10 m ++ r) =
      Nat.toDigits 10 (m + j) ++ renumberFrom j .code r := by
  have hd := isDigit_of_mem_toDigits m
  have hm : Nat.ofDigitChars 10 (Nat.toDigits 10 m) 0 = m := Nat.ofDigitChars_ten_toDigits
  obtain ⟨c, ds, hc⟩ := List.exists_cons_of_ne_nil (Nat.toDigits_ne_nil (n := m) (b := 10))
  rw [hc] at hd hm ⊢
  rw [Nat.ofDigitChars_cons, Nat.mul_zero, Nat.zero_add] at hm
  rw [List.cons_append, renumberFrom, if_pos (hd c List.mem_cons_self),
    renumberFrom_number (fun d h => hd d (List.mem_cons_of_mem c h)) _ hr, hm]

/-! ### Literals -/

lemma renumberFrom_literal_of_ne {c : Char} (hq : c ≠ '"') (hb : c ≠ '\\') (r : List Char) :
    renumberFrom j .literal (c :: r) = c :: renumberFrom j .literal r := by
  rw [renumberFrom, if_neg hq, if_neg hb]

lemma renumberFrom_literal_digits (m : Nat) (r : List Char) :
    renumberFrom j .literal (Nat.toDigits 16 m ++ r) =
      Nat.toDigits 16 m ++ renumberFrom j .literal r := by
  induction m using Nat.strongRecOn generalizing r with
  | ind m ih =>
    have hd (d : Nat) : renumberFrom j .literal (d.digitChar :: r) =
        d.digitChar :: renumberFrom j .literal r :=
      renumberFrom_literal_of_ne (Nat.digitChar_ne '"' rfl) (Nat.digitChar_ne '\\' rfl) r
    by_cases h : m < 16
    · rw [Nat.toDigits_of_lt_base h, List.singleton_append, hd, List.singleton_append]
    · have hm : m / 16 < m := by omega
      rw [Nat.toDigits_of_base_le (by decide) (by omega), List.append_assoc, ih (m / 16) hm,
        List.singleton_append, hd, List.append_assoc, List.singleton_append]

/-- Inside a literal each character is kept, however it is written. -/
lemma renumberFrom_escape (c : Char) (r : List Char) :
    renumberFrom j .literal (Text.Quoted.escape c ++ r) =
      Text.Quoted.escape c ++ renumberFrom j .literal r := by
  unfold Text.Quoted.escape
  split
  · next l h => rfl
  · next h =>
    have hc := mt Text.Quoted.letter?_ne_none_iff.mpr (not_not_intro h)
    simp only [not_or] at hc
    split
    · exact renumberFrom_literal_of_ne hc.2.2.2.2.1 hc.2.2.2.2.2 r
    · change '\\' :: 'u' :: '\x7b' :: renumberFrom j .literal (_ ++ r) = _
      rw [List.append_assoc, renumberFrom_literal_digits, Text.Quoted.byNumber]
      simp only [List.cons_append, List.append_assoc]
      rfl

lemma renumberFrom_encode (cs r : List Char) :
    renumberFrom j .code (Text.Quoted.encode cs ++ r) =
      Text.Quoted.encode cs ++ renumberFrom j .code r := by
  have h : renumberFrom j .literal (cs.flatMap Text.Quoted.escape ++ '"' :: r) =
      cs.flatMap Text.Quoted.escape ++ '"' :: renumberFrom j .code r := by
    induction cs with
    | nil => rfl
    | cons c cs ih =>
      rw [List.flatMap_cons, List.append_assoc, renumberFrom_escape, ih, List.append_assoc]
  simpa [Text.Quoted.encode, renumberFrom, Pass.behind] using h

/-! ### Terms -/

/-- The second text is the first one renumbered, whatever stands behind it. -/
def Closed (j : Nat) (u v : String) : Prop :=
  ∀ r : List Char, renumberFrom j .code (u.toList ++ r) = v.toList ++ renumberFrom j .code r

/-- The second text is the first one renumbered, if no digit stands behind it. -/
def Renumbers (j : Nat) (u v : String) : Prop :=
  ∀ r : List Char, r.takeWhile Char.isDigit = [] →
    renumberFrom j .code (u.toList ++ r) = v.toList ++ renumberFrom j .code r

/-- A text without names that puts an end to the number before it. -/
structure Separator (w : String) : Prop where
  closed : ∀ j, Closed j w w
  stops : ∀ r : List Char, (w.toList ++ r).takeWhile Char.isDigit = []

variable {u v u' v' w o : String}

lemma Closed.renumbers (h : Closed j u v) : Renumbers j u v := fun r _ => h r

lemma Closed.append (h : Closed j u v) (h' : Renumbers j u' v') :
    Renumbers j (u ++ u') (v ++ v') := by
  intro r hr
  rw [String.toList_append, String.toList_append, List.append_assoc, List.append_assoc, h,
    h' r hr]

/-- Behind a separator any text may follow. -/
lemma Renumbers.close (h : Renumbers j u v) (hw : Separator w) : Closed j (u ++ w) (v ++ w) := by
  intro r
  rw [String.toList_append, String.toList_append, List.append_assoc, List.append_assoc,
    h _ (hw.stops r), hw.closed j r]

lemma separator_parenthesis : Separator ")" := ⟨fun _ _ => rfl, fun _ => rfl⟩

/-- What stands in parentheses in two parts, with a separator between them. -/
lemma Renumbers.parenthesized (ho : Closed j o o) (h : Renumbers j u v) (hw : Separator w)
    (h' : Renumbers j u' v') :
    Renumbers j (o ++ u ++ w ++ u' ++ ")") (o ++ v ++ w ++ v' ++ ")") := by
  have hfirst : Closed j (o ++ u ++ w) (o ++ v ++ w) := (ho.append h).close hw
  have hboth : Closed j (o ++ u ++ w ++ u' ++ ")") (o ++ v ++ w ++ v' ++ ")") :=
    (hfirst.append h').close separator_parenthesis
  exact hboth.renumbers

lemma renumbers_binderName (m : Nat) : Renumbers j (binderName m) (binderName (m + j)) := by
  intro r hr
  rw [toList_binderName, toList_binderName, List.cons_append, List.cons_append]
  exact congrArg ('a' :: ·) (renumberFrom_letter m hr)

lemma renumbers_int (n : Int64) : Renumbers j n.toInt.repr n.toInt.repr := by
  intro r _
  rcases n.toInt with m | m
  · change renumberFrom j .code (m.repr.toList ++ r) = m.repr.toList ++ _
    rw [Nat.toList_repr]
    exact renumberFrom_digits (isDigit_of_mem_toDigits m) r
  · change renumberFrom j .code (("-" ++ (m + 1).repr).toList ++ r) =
      ("-" ++ (m + 1).repr).toList ++ _
    rw [String.toList_append, Nat.toList_repr]
    exact congrArg ('-' :: ·) (renumberFrom_digits (isDigit_of_mem_toDigits (m + 1)) r)

lemma closed_quote (s : String) : Closed j (Text.Quoted.quote s) (Text.Quoted.quote s) := by
  intro r
  rw [Text.Quoted.toList_quote]
  exact renumberFrom_encode s.toList r

lemma renumbers_spell (i : Nat) {n : Nat} (s : Skeleton n) :
    Renumbers j (s.spell i).text (s.spell (i + j)).text := by
  induction s with
  | @var n k =>
    have h := renumbers_binderName (j := j) (i + (n - 1 - k))
    rwa [Nat.add_right_comm] at h
  | @lam n body ih =>
    have h := renumbers_binderName (j := j) (i + n)
    rw [Nat.add_right_comm] at h
    exact .parenthesized (fun _ => rfl) h ⟨fun _ _ => rfl, fun _ => rfl⟩ ih
  | app f x ihf ihx => exact .parenthesized (fun _ => rfl) ihf ⟨fun _ _ => rfl, fun _ => rfl⟩ ihx
  | add l r ihl ihr => exact .parenthesized (fun _ => rfl) ihl ⟨fun _ _ => rfl, fun _ => rfl⟩ ihr
  | cons h t ihh iht => exact .parenthesized (fun _ => rfl) ihh ⟨fun _ _ => rfl, fun _ => rfl⟩ iht
  | map f xs ihf ihx =>
    have hmap : Closed j "map " "map " := fun _ => rfl
    have hspace : Separator " " := ⟨fun _ _ => rfl, fun _ => rfl⟩
    exact ((hmap.append ihf).close hspace).append ihx
  | ite c p q ihc ihp ihq =>
    have hif : Closed j "if (" "if (" := fun _ => rfl
    have hthen : Separator ") then " := ⟨fun _ _ => rfl, fun _ => rfl⟩
    have helse : Separator " else " := ⟨fun _ _ => rfl, fun _ => rfl⟩
    have hcondition := (hif.append ihc).close hthen
    exact ((hcondition.append ihp).close helse).append ihq
  | not x ih =>
    have hnot : Closed j "(not " "(not " := fun _ => rfl
    exact ((hnot.append ih).close separator_parenthesis).renumbers
  | length xs ih =>
    have hlength : Closed j "length " "length " := fun _ => rfl
    exact hlength.append ih
  | equals l r ihl ihr =>
    have hequals : Separator " == " := ⟨fun _ _ => rfl, fun _ => rfl⟩
    exact (ihl.close hequals).append ihr
  | int m => exact renumbers_int m
  | nil =>
    have hnil : Closed j "[]" "[]" := fun _ => rfl
    exact hnil.renumbers
  | bool b =>
    have hfalse : Closed j "False" "False" := fun _ => rfl
    have htrue : Closed j "True" "True" := fun _ => rfl
    cases b with
    | false => exact hfalse.renumbers
    | true => exact htrue.renumbers
  | string s => exact (closed_quote s).renumbers

/-- **A spelling from further on is a renumbering.** -/
theorem renumber_text_spell (i j : Nat) {n : Nat} (s : Skeleton n) :
    renumber j (s.spell i).text = (s.spell (i + j)).text := by
  have h : renumberFrom j .code ((s.spell i).text.toList ++ []) =
      (s.spell (i + j)).text.toList ++ [] := renumbers_spell i s [] rfl
  rw [List.append_nil, List.append_nil] at h
  rw [renumber, h, String.ofList_toList]

/-- Only the names are told apart from what stands in a literal. -/
example : renumber 7 "(\\ a0 -> if (\"a0 \\\" a1\" == \"\") then a0 else a12)" =
    "(\\ a7 -> if (\"a0 \\\" a1\" == \"\") then a7 else a19)" := by
  decide +kernel

end Spelled

open Spelled

/-- The text of a closed term from a number on is its text from zero on, renumbered. -/
lemma Expr.renumber_render {a : Ty} {e : Expr [] a} {i : Counter} {w : String}
    (h : e.renderFrom i = .ok w) :
    e.render = .ok (e.skeleton.spell 0).text ∧
      w = (e.skeleton.spell i.index.toNat).text ∧
      w = renumber i.index.toNat (e.skeleton.spell 0).text := by
  rw [e.renderFrom_eq, Rendering.fitting_eq_ok] at h
  obtain ⟨hfit, rfl⟩ := h
  have hzero : Counter.zero.index.toNat = 0 := rfl
  refine ⟨?_, rfl, ?_⟩
  · rw [render, e.renderFrom_eq, Rendering.fitting_eq_ok, hzero]
    exact ⟨by omega, rfl⟩
  · rw [renumber_text_spell, Nat.zero_add]

end TypedLambda
