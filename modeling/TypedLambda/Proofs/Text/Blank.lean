import Mathlib.Data.List.TakeWhile
import TypedLambda.Text.Blank

/-!
Texts with blanks around and inside. A text has a word, which goes up to its first blank, and an
argument, which is what follows without the blanks around it. Main statement: neither hangs on the
blanks before the word, between the two and at the end, and cutting a text at its first blank
gives both.
-/

namespace TypedLambda.Text

/-- The characters before the first blank. -/
def word (cs : List Char) : List Char := cs.takeWhile fun c => !isBlank c

/-- What follows the word, without the blanks around it. -/
def argument (cs : List Char) : List Char := trim (cs.dropWhile fun c => !isBlank c)

/-- The word and the argument of a text that may begin with blanks. -/
def parts (cs : List Char) : List Char × List Char := (word (trimLeft cs), argument (trimLeft cs))

/-- Nothing but blanks. -/
def Blanks (cs : List Char) : Prop := ∀ c ∈ cs, isBlank c = true

/-- No blank at all. -/
def BlankFree (cs : List Char) : Prop := ∀ c ∈ cs, isBlank c = false

instance (cs : List Char) : Decidable (Blanks cs) :=
  decidable_of_iff (cs.all isBlank = true) List.all_eq_true

instance (cs : List Char) : Decidable (BlankFree cs) :=
  decidable_of_iff (cs.all (fun c => !isBlank c) = true) (by simp [BlankFree])

variable {b w cs : List Char}

/-! ### Blanks at the ends -/

lemma trimLeft_blanks_append (hb : Blanks b) (cs : List Char) :
    trimLeft (b ++ cs) = trimLeft cs :=
  List.dropWhile_append_of_pos hb

lemma trimRight_append_blanks (hb : Blanks b) (cs : List Char) :
    trimRight (cs ++ b) = trimRight cs := by
  have hb' : ∀ c ∈ b.reverse, isBlank c = true := fun c hc => hb c (List.mem_reverse.mp hc)
  rw [trimRight, trimRight, List.reverse_append, List.dropWhile_append_of_pos hb']

lemma trimLeft_eq_nil (hb : Blanks b) : trimLeft b = [] := by
  rw [← List.append_nil b, trimLeft_blanks_append hb, trimLeft_nil]

/-- Blanks at the end stay where they are, unless there is nothing else. -/
lemma trimLeft_append_blanks (hb : Blanks b) (cs : List Char) :
    trimLeft cs = [] ∧ trimLeft (cs ++ b) = [] ∨ trimLeft (cs ++ b) = trimLeft cs ++ b := by
  have happend : trimLeft (cs ++ b) = if (trimLeft cs).isEmpty then trimLeft b
      else trimLeft cs ++ b := List.dropWhile_append
  rcases h : trimLeft cs with _ | ⟨c, ds⟩
  · rw [h, trimLeft_eq_nil hb] at happend
    exact .inl ⟨rfl, happend⟩
  · rw [h] at happend
    exact .inr happend

lemma trim_blanks_append (hb : Blanks b) (cs : List Char) : trim (b ++ cs) = trim cs := by
  rw [trim, trim, trimLeft_blanks_append hb]

lemma trim_append_blanks (hb : Blanks b) (cs : List Char) : trim (cs ++ b) = trim cs := by
  rw [trim, trim]
  obtain ⟨h, h'⟩ | h := trimLeft_append_blanks hb cs
  · rw [h, h']
  · rw [h, trimRight_append_blanks hb]

lemma trimRight_of_blankFree (hw : BlankFree w) : trimRight w = w := by
  have hdrop : w.reverse.dropWhile isBlank = w.reverse := by
    refine List.dropWhile_eq_self_iff.mpr fun hpos => ?_
    exact ne_true_of_eq_false (hw _ (List.mem_reverse.mp (List.getElem_mem hpos)))
  rw [trimRight, hdrop, List.reverse_reverse]

/-! ### Words and arguments -/

lemma word_of_blankFree (hw : BlankFree w) : word w = w :=
  List.takeWhile_eq_self_iff.mpr fun c hc => by rw [hw c hc]; rfl

lemma word_append_cons {c : Char} (hw : BlankFree w) (hc : isBlank c = true) (cs : List Char) :
    word (w ++ c :: cs) = w := by
  have hw' : ∀ c ∈ w, (!isBlank c) = true := fun c h => by rw [hw c h]; rfl
  rw [word, List.takeWhile_append_of_pos hw', List.takeWhile_cons_of_neg (by simp [hc]),
    List.append_nil]

lemma argument_blankFree_append (hw : BlankFree w) (cs : List Char) :
    argument (w ++ cs) = argument cs := by
  have hw' : ∀ c ∈ w, (!isBlank c) = true := fun c h => by rw [hw c h]; rfl
  rw [argument, argument, List.dropWhile_append_of_pos hw']

lemma argument_cons {c : Char} (hc : isBlank c = true) (cs : List Char) :
    argument (c :: cs) = trim cs := by
  have hb : Blanks [c] := fun d hd => by rwa [List.mem_singleton.mp hd]
  have hdrop : (c :: cs).dropWhile (fun c => !isBlank c) = [c] ++ cs :=
    List.dropWhile_cons_of_neg (by simp [hc])
  rw [argument, hdrop, trim_blanks_append hb]

lemma word_append_blanks (hb : Blanks b) (cs : List Char) : word (cs ++ b) = word cs := by
  induction cs with
  | nil =>
    cases b with
    | nil => rfl
    | cons c b => exact List.takeWhile_cons_of_neg (by simp [hb c List.mem_cons_self])
  | cons c cs ih =>
    unfold word at ih ⊢
    rw [List.cons_append, List.takeWhile_cons, List.takeWhile_cons, ih]

lemma argument_append_blanks (hb : Blanks b) (cs : List Char) :
    argument (cs ++ b) = argument cs := by
  induction cs with
  | nil =>
    cases b with
    | nil => rfl
    | cons c b =>
      have hb' : Blanks b := fun d hd => hb d (List.mem_cons_of_mem c hd)
      rw [List.nil_append, argument_cons (hb c List.mem_cons_self), trim, trimLeft_eq_nil hb']
      rfl
  | cons c cs ih =>
    by_cases hc : isBlank c = true
    · rw [List.cons_append, argument_cons hc, argument_cons hc, trim_append_blanks hb]
    · have hw : BlankFree [c] := fun d hd => by
        rw [List.mem_singleton.mp hd]
        exact eq_false_of_ne_true hc
      have hcons (ds : List Char) : c :: ds = [c] ++ ds := rfl
      rw [List.cons_append, hcons, hcons cs, argument_blankFree_append hw,
        argument_blankFree_append hw, ih]

/-! ### Parts -/

lemma parts_blanks_append (hb : Blanks b) (cs : List Char) : parts (b ++ cs) = parts cs := by
  rw [parts, parts, trimLeft_blanks_append hb]

lemma parts_append_blanks (hb : Blanks b) (cs : List Char) : parts (cs ++ b) = parts cs := by
  rw [parts, parts]
  obtain ⟨h, h'⟩ | h := trimLeft_append_blanks hb cs
  · rw [h, h']
  · rw [h, word_append_blanks hb, argument_append_blanks hb]

/-- A separator ends the word and is no part of the argument. There need not be one where there is
no argument. -/
lemma parts_separated {c : Char} (hw : BlankFree (c :: w)) (hb : Blanks b)
    (h : cs = [] ∨ b ≠ []) : parts (c :: w ++ (b ++ cs)) = (c :: w, trim cs) := by
  have htrim : trimLeft (c :: w ++ (b ++ cs)) = c :: w ++ (b ++ cs) :=
    List.dropWhile_cons_of_neg (ne_true_of_eq_false (hw c List.mem_cons_self))
  rw [parts, htrim, argument_blankFree_append hw]
  rcases b with _ | ⟨d, b⟩
  · obtain rfl : cs = [] := h.resolve_right fun h => h rfl
    rw [List.append_nil, List.append_nil, word_of_blankFree hw]
    rfl
  · have hd : isBlank d = true := hb d List.mem_cons_self
    have hb' : Blanks b := fun x hx => hb x (List.mem_cons_of_mem d hx)
    have hcons : d :: b ++ cs = d :: (b ++ cs) := rfl
    rw [hcons, word_append_cons hw hd, argument_cons hd, trim_blanks_append hb']

/-- What is cut off at the first blank, if there is one. -/
lemma cutAtBlank?_trimLeft (cs : List Char) :
    ∃ rest, (cutAtBlank? (trimLeft cs)).getD (trim cs, []) = ((parts cs).1, rest) ∧
      trim rest = (parts cs).2 := by
  rw [parts]
  rcases h : cutAtBlank? (trimLeft cs) with _ | ⟨u, v⟩
  · have hw : BlankFree (trimLeft cs) := cutAtBlank?_eq_none.mp h
    refine ⟨[], ?_, ?_⟩
    · rw [word_of_blankFree hw, Option.getD_none, trim, trimRight_of_blankFree hw]
    · rw [← List.append_nil (trimLeft cs), argument_blankFree_append hw]
      rfl
  · obtain ⟨c, hc, hcs, hu⟩ := eq_of_cutAtBlank? h
    refine ⟨v, ?_, ?_⟩
    · rw [hcs, word_append_cons hu hc, Option.getD_some]
    · rw [hcs, argument_blankFree_append hu, argument_cons hc]

end TypedLambda.Text
