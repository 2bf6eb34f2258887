import TypedLambda.Proofs.Skeleton.Reader
import TypedLambda.Proofs.Text.Quoted

/-!
The characters of a printed term. All that a printed term has besides its literals is ASCII, and
quoting leaves no character in a literal that quoting would have to escape, but for the quotes and
the backslashes that it puts in itself. Main statement: so there is no such character in any
rendering.
-/

namespace TypedLambda

namespace Text

/-- The character is printed as itself, as far as its print goes: only as delimiters of a quoted
text have quotes and backslashes to be escaped. -/
def Printable (c : Char) : Prop := c = '"' ∨ c = '\\' ∨ Quoted.escape c = [c]

instance (c : Char) : Decidable (Printable c) := inferInstanceAs (Decidable (_ ∨ _ ∨ _))

/-! ### Characters -/

lemma printable_of_isPlain {c : Char} (hletter : Quoted.letter? c = none)
    (hplain : Quoted.isPlain c = true) : Printable c := by
  refine .inr (.inr ?_)
  rw [Quoted.escape, hletter]
  exact if_pos hplain

lemma printable_of_ascii {c : Char} (h₁ : 0x20 ≤ c.toNat) (h₂ : c.toNat ≤ 0x7e) :
    Printable c := by
  by_cases hletter : Quoted.letter? c = none
  · have hext : extending.contains c = false :=
      Ranges.contains_of_avoids (by decide +kernel) h₁ h₂
    have hunp : unprintable.contains c = false :=
      Ranges.contains_of_avoids (by decide +kernel) h₁ h₂
    refine printable_of_isPlain hletter ?_
    rw [Quoted.isPlain, hext, hunp]
    rfl
  · rcases Quoted.letter?_ne_none_iff.mp hletter with rfl | rfl | rfl | rfl | rfl | rfl
    -- Four of the characters with a letter are controls.
    · exact absurd h₁ (by decide)
    · exact absurd h₁ (by decide)
    · exact absurd h₁ (by decide)
    · exact absurd h₁ (by decide)
    · exact .inl rfl
    · exact .inr (.inl rfl)

lemma printable_digitChar {d : Nat} (h : d < 16) : Printable d.digitChar := by
  have hall : ∀ d ∈ List.range 16, 0x20 ≤ d.digitChar.toNat ∧ d.digitChar.toNat ≤ 0x7e := by decide
  obtain ⟨h₁, h₂⟩ := hall d (List.mem_range.mpr h)
  exact printable_of_ascii h₁ h₂

lemma printable_of_mem_toDigits {b : Nat} (hb : 1 < b) (hb' : b ≤ 16) {n : Nat} {c : Char}
    (hc : c ∈ Nat.toDigits b n) : Printable c := by
  obtain ⟨d, hd, rfl⟩ := exists_digitChar_of_mem_toDigits hb hc
  exact printable_digitChar (Nat.lt_of_lt_of_le hd hb')

/-- Whatever a character is escaped to needs no escape itself. -/
lemma printable_of_mem_escape {c d : Char} (hd : d ∈ Quoted.escape c) : Printable d := by
  unfold Quoted.escape at hd
  split at hd
  · next l hl =>
    rcases List.mem_pair.mp hd with rfl | rfl
    · exact .inr (.inl rfl)
    · unfold Quoted.letter? at hl
      repeat' split at hl
      all_goals cases hl
      all_goals exact printable_of_ascii (by decide) (by decide)
  · next hl =>
    split at hd
    · next hplain =>
      rw [List.mem_singleton.mp hd]
      exact printable_of_isPlain hl hplain
    · simp only [Quoted.byNumber, List.mem_cons, List.mem_append, List.not_mem_nil,
        or_false] at hd
      rcases hd with rfl | rfl | rfl | hd | rfl
      · exact .inr (.inl rfl)
      · exact printable_of_ascii (by decide) (by decide)
      · exact printable_of_ascii (by decide) (by decide)
      · exact printable_of_mem_toDigits (by decide) (by decide) hd
      · exact printable_of_ascii (by decide) (by decide)

/-! ### Texts -/

/-- All characters of the text are printable. -/
def AllPrintable (w : String) : Prop := ∀ c ∈ w.toList, Printable c

namespace AllPrintable

variable {u v w o : String}

lemma append (h : AllPrintable u) (h' : AllPrintable v) : AllPrintable (u ++ v) := by
  intro c hc
  rw [String.toList_append, List.mem_append] at hc
  exact hc.elim (h c) (h' c)

lemma of_ascii (h : (w.toList.all fun c => 0x20 ≤ c.toNat && c.toNat ≤ 0x7e) = true) :
    AllPrintable w := by
  intro c hc
  have hascii := List.all_eq_true.mp h c hc
  rw [Bool.and_eq_true, decide_eq_true_eq, decide_eq_true_eq] at hascii
  exact printable_of_ascii hascii.1 hascii.2

/-- What stands in parentheses in two parts, with an operator between them. -/
lemma parenthesized (ho : AllPrintable o) (h : AllPrintable u) (hw : AllPrintable w)
    (h' : AllPrintable v) : AllPrintable (o ++ u ++ w ++ v ++ ")") :=
  (((ho.append h).append hw).append h').append (of_ascii rfl)

lemma repr (m : Nat) : AllPrintable m.repr := by
  intro c hc
  rw [Nat.toList_repr] at hc
  exact printable_of_mem_toDigits (by decide) (by decide) hc

lemma repr_int (n : Int) : AllPrintable n.repr := by
  rcases n with m | m
  · exact repr m
  · exact append (of_ascii rfl) (repr (m + 1))

lemma binderName (m : Nat) : AllPrintable (binderName m) := append (of_ascii rfl) (repr m)

lemma quote (s : String) : AllPrintable (Quoted.quote s) := by
  intro c hc
  rw [Quoted.toList_quote, Quoted.encode, List.mem_cons, List.mem_append, List.mem_singleton,
    List.mem_flatMap] at hc
  rcases hc with rfl | ⟨d, -, hd⟩ | rfl
  · exact .inl rfl
  · exact printable_of_mem_escape hd
  · exact .inl rfl

/-- Neither a line nor a column ends in a printable text. -/
lemma notMem (h : AllPrintable w) : '\n' ∉ w.toList ∧ '\r' ∉ w.toList ∧ '\t' ∉ w.toList :=
  ⟨fun hc => absurd (h _ hc) (by decide), fun hc => absurd (h _ hc) (by decide),
    fun hc => absurd (h _ hc) (by decide)⟩

end AllPrintable

end Text

open Text

/-! ### Terms -/

lemma Skeleton.allPrintable_spell (i : Nat) {n : Nat} (s : Skeleton n) :
    AllPrintable (s.spell i).text := by
  induction s with
  | var k => exact .binderName _
  | lam body ih =>
    exact .parenthesized (.of_ascii rfl) (.binderName _) (.of_ascii rfl) ih
  | app f x ihf ihx =>
    exact .parenthesized (.of_ascii rfl) ihf (.of_ascii rfl) ihx
  | add l r ihl ihr =>
    exact .parenthesized (.of_ascii rfl) ihl (.of_ascii rfl) ihr
  | cons h t ihh iht =>
    exact .parenthesized (.of_ascii rfl) ihh (.of_ascii rfl) iht
  | map f xs ihf ihx =>
    have hmap : AllPrintable "map " := .of_ascii rfl
    have hspace : AllPrintable " " := .of_ascii rfl
    exact ((hmap.append ihf).append hspace).append ihx
  | ite c p q ihc ihp ihq =>
    have hif : AllPrintable "if (" := .of_ascii rfl
    have hthen : AllPrintable ") then " := .of_ascii rfl
    have helse : AllPrintable " else " := .of_ascii rfl
    exact ((((hif.append ihc).append hthen).append ihp).append helse).append ihq
  | not x ih =>
    have hnot : AllPrintable "(not " := .of_ascii rfl
    exact (hnot.append ih).append (.of_ascii rfl)
  | length xs ih =>
    have hlength : AllPrintable "length " := .of_ascii rfl
    exact hlength.append ih
  | equals l r ihl ihr => exact (ihl.append (.of_ascii rfl)).append ihr
  | int m => exact .repr_int _
  | nil =>
    have hnil : AllPrintable "[]" := .of_ascii rfl
    exact hnil
  | bool b =>
    have hfalse : AllPrintable "False" := .of_ascii rfl
    have htrue : AllPrintable "True" := .of_ascii rfl
    cases b with
    | false => exact hfalse
    | true => exact htrue
  | string s => exact .quote s

/-- **A rendering is printable**, whatever is in the literals of the term. -/
theorem Expr.allPrintable_of_renderFrom {a : Ty} {e : Expr [] a} {i : Counter} {w : String}
    (h : e.renderFrom i = .ok w) : AllPrintable w := by
  rw [e.renderFrom_eq, Rendering.fitting_eq_ok] at h
  rw [h.2]
  exact e.skeleton.allPrintable_spell i.index.toNat

end TypedLambda
