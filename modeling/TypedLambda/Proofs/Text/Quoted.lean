import Mathlib.Algebra.Ring.Parity
import Mathlib.Data.List.DropRight
import Mathlib.Data.List.Forall2
import TypedLambda.Expr.Basic

/-!
Where a quoted text ends, and how its characters are written. A backslash escapes what stands
behind it unless it is escaped itself, so it is the run of backslashes in front of a quote that
says whether the quote closes the text. The invariant is that behind a written character nothing
is escaped. Main statement: the rendering of a literal is read back whatever follows it, and it
ends at its first quote that is not escaped.
-/

namespace TypedLambda

namespace Text

lemma exists_digitChar_of_mem_toDigits {b : Nat} (hb : 1 < b) {n : Nat} {c : Char}
    (hc : c ∈ Nat.toDigits b n) : ∃ d < b, c = d.digitChar := by
  induction n using Nat.strongRecOn with
  | ind n ih =>
    by_cases h : n < b
    · rw [Nat.toDigits_of_lt_base h, List.mem_singleton] at hc
      exact ⟨n, h, hc⟩
    · rw [Nat.toDigits_of_base_le hb (by omega), List.mem_append, List.mem_singleton] at hc
      rcases hc with hc | hc
      · exact ih (n / b) (Nat.div_lt_self (by omega) hb) hc
      · exact ⟨n % b, Nat.mod_lt n (by omega), hc⟩

namespace Quoted

variable {u v w : List Char} {c : Char}

/-! ### Escaped characters -/

/-- What comes next is escaped: the text ends in an odd number of backslashes. -/
def Escaping (w : List Char) : Prop := Odd (w.rtakeWhile (· = '\\')).length

lemma not_escaping_nil : ¬ Escaping [] := Nat.not_odd_zero

lemma escaping_concat_backslash : Escaping (w ++ ['\\']) ↔ ¬ Escaping w := by
  rw [Escaping, List.rtakeWhile_concat_pos _ _ _ rfl, List.length_append, List.length_singleton,
    Nat.odd_add_one, Escaping]

lemma not_escaping_concat (h : c ≠ '\\') : ¬ Escaping (w ++ [c]) := by
  rw [Escaping, List.rtakeWhile_concat_neg _ _ _ (by simpa using h)]
  exact Nat.not_odd_zero

/-- Behind a backslash and a letter nothing is escaped, even if the letter is a backslash. -/
lemma not_escaping_append_letter (h : ¬ Escaping w) (l : Char) : ¬ Escaping (w ++ ['\\', l]) := by
  have hsplit : w ++ ['\\', l] = (w ++ ['\\']) ++ [l] := by simp
  rw [hsplit]
  by_cases hl : l = '\\'
  · rw [hl, escaping_concat_backslash, escaping_concat_backslash]
    exact not_not_intro h
  · exact not_escaping_concat hl

lemma not_escaping_append_byNumber (w : List Char) (c : Char) : ¬ Escaping (w ++ byNumber c) := by
  have hsplit : w ++ byNumber c =
      (w ++ '\\' :: 'u' :: '\x7b' :: Nat.toDigits 16 c.toNat) ++ ['\x7d'] := by simp [byNumber]
  rw [hsplit]
  exact not_escaping_concat (by decide)

lemma ne_of_letter?_eq_none (h : letter? c = none) : c ≠ '"' ∧ c ≠ '\\' := by
  have hc := mt letter?_ne_none_iff.mpr (not_not_intro h)
  simp only [not_or] at hc
  exact ⟨hc.2.2.2.2.1, hc.2.2.2.2.2⟩

/-- Behind a written character nothing is escaped if nothing was before it. -/
lemma not_escaping_append_escape (h : ¬ Escaping w) (c : Char) : ¬ Escaping (w ++ escape c) := by
  unfold escape
  split
  · next l _ => exact not_escaping_append_letter h l
  · next hc =>
    split
    · exact not_escaping_concat (ne_of_letter?_eq_none hc).2
    · exact not_escaping_append_byNumber w c

/-! ### Quotes in a quoted text -/

lemma quote_notMem_byNumber (c : Char) : '"' ∉ byNumber c := by
  intro h
  simp only [byNumber, List.mem_cons, List.mem_append, List.not_mem_nil, or_false] at h
  rcases h with h | h | h | h | h
  · exact absurd h (by decide)
  · exact absurd h (by decide)
  · exact absurd h (by decide)
  · obtain ⟨d, -, hd⟩ := exists_digitChar_of_mem_toDigits (by decide) h
    exact Nat.digitChar_ne '"' rfl hd.symm
  · exact absurd h (by decide)

/-- A quote in a written character stands behind its backslash. -/
lemma eq_backslash_of_escape (h : escape c = u ++ '"' :: v) : u = ['\\'] := by
  unfold escape at h
  split at h
  · cases u with
    | nil => cases h
    | cons d u =>
      obtain ⟨rfl, h⟩ := List.cons.inj h
      cases u with
      | nil => rfl
      | cons e u => simp at h
  · next hc =>
    split at h
    · have hq : '"' ∈ [c] := h ▸ List.mem_append_right u List.mem_cons_self
      exact absurd (List.mem_singleton.mp hq).symm (ne_of_letter?_eq_none hc).1
    · have hq : '"' ∈ byNumber c := h ▸ List.mem_append_right u List.mem_cons_self
      exact absurd hq (quote_notMem_byNumber c)

/-- Each quote among written characters is escaped, and behind them nothing is. -/
lemma escaping_of_flatMap_escape (cs : List Char) (h : ¬ Escaping w) :
    ¬ Escaping (w ++ cs.flatMap escape) ∧
      ∀ u v, cs.flatMap escape = u ++ '"' :: v → Escaping (w ++ u) := by
  induction cs generalizing w with
  | nil =>
    rw [List.flatMap_nil, List.append_nil]
    exact ⟨h, fun u v he => absurd he (by simp)⟩
  | cons c cs ih =>
    obtain ⟨hclosed, hquotes⟩ := ih (not_escaping_append_escape h c)
    rw [List.flatMap_cons, ← List.append_assoc]
    refine ⟨hclosed, fun u v he => ?_⟩
    -- The quote stands behind the first written character or in it.
    rcases List.append_eq_append_iff.mp he with ⟨t, rfl, ht⟩ | ⟨t, ht, hv⟩
    · rw [← List.append_assoc]
      exact hquotes t v ht
    · cases t with
      | nil =>
        rw [List.append_nil] at ht
        have hu := hquotes [] v hv.symm
        rwa [List.append_nil, ht] at hu
      | cons d t =>
        obtain ⟨rfl, -⟩ := List.cons.inj hv
        rw [eq_backslash_of_escape ht]
        exact escaping_concat_backslash.mpr h

/-! ### Written characters -/

/-- The characters that are written with a backslash and a letter. -/
def letters : List (Char × Char) :=
  [('\x00', '0'), ('\t', 't'), ('\r', 'r'), ('\n', 'n'), ('"', '"'), ('\\', '\\')]

def hexDigits : List Char := "0123456789abcdef".toList

/-- The number in hexadecimal, in lower case and without zeros in front. -/
structure IsHex (ds : List Char) (n : Nat) : Prop where
  nonempty : ds ≠ []
  lower : ∀ d ∈ ds, d ∈ hexDigits
  unpadded : ds.head? = some '0' → ds = ['0']
  value : ds.foldl (fun m d => 16 * m + hexDigits.idxOf d) 0 = n

/-- How a character is written in a quoted text. -/
inductive WrittenAs : Char → List Char → Prop
  | letter {c l : Char} (h : (c, l) ∈ letters) : WrittenAs c ['\\', l]
  | plain {c : Char} (hl : c ∉ letters.map Prod.fst) (he : extending.contains c = false)
      (hu : unprintable.contains c = false) : WrittenAs c [c]
  | number {c : Char} {ds : List Char} (hl : c ∉ letters.map Prod.fst)
      (h : extending.contains c = true ∨ unprintable.contains c = true) (hds : IsHex ds c.toNat) :
      WrittenAs c ('\\' :: 'u' :: '\x7b' :: (ds ++ ['\x7d']))

lemma mem_letters_of_letter? {l : Char} (h : letter? c = some l) : (c, l) ∈ letters := by
  simp only [letter?] at h
  repeat' split at h
  all_goals simp_all [letters, eq_comm]

lemma notMem_letters_of_letter? (h : letter? c = none) : c ∉ letters.map Prod.fst := by
  intro hc
  have hne : letter? c ≠ none := letter?_ne_none_iff.mpr (by simpa [letters] using hc)
  exact hne h

lemma idxOf_digitChar {d : Nat} (h : d < 16) :
    d.digitChar ∈ hexDigits ∧ hexDigits.idxOf d.digitChar = d := by
  have hall : ∀ d ∈ List.range 16, d.digitChar ∈ hexDigits ∧ hexDigits.idxOf d.digitChar = d := by
    decide
  exact hall d (List.mem_range.mpr h)

lemma isHex_toDigits (n : Nat) : IsHex (Nat.toDigits 16 n) n := by
  induction n using Nat.strongRecOn with
  | ind n ih =>
    by_cases h : n < 16
    · rw [Nat.toDigits_of_lt_base h]
      obtain ⟨hmem, hidx⟩ := idxOf_digitChar h
      refine ⟨List.cons_ne_nil _ _, List.forall_mem_singleton.mpr hmem, fun h0 => ?_, ?_⟩
      · rw [Option.some.inj h0]
      · rw [List.foldl_cons, List.foldl_nil, Nat.mul_zero, Nat.zero_add, hidx]
    · have hn := ih (n / 16) (by omega)
      obtain ⟨hmem, hidx⟩ := idxOf_digitChar (Nat.mod_lt n (by decide : 0 < 16))
      rw [Nat.toDigits_of_base_le (by decide) (by omega)]
      refine ⟨by simp, ?_, fun h0 => ?_, ?_⟩
      · exact List.forall_mem_append.mpr ⟨hn.lower, List.forall_mem_singleton.mpr hmem⟩
      · -- A zero in front would be all of the digits before the last, and these are not zero.
        rw [List.head?_append_of_ne_nil _ hn.nonempty] at h0
        have hzero := hn.value
        rw [hn.unpadded h0] at hzero
        change 0 = n / 16 at hzero
        omega
      · rw [List.foldl_append, hn.value, List.foldl_cons, List.foldl_nil, hidx, Nat.div_add_mod]

lemma writtenAs_escape (c : Char) : WrittenAs c (escape c) := by
  unfold escape
  split
  · next l hl => exact .letter (mem_letters_of_letter? hl)
  · next hl =>
    have hc := notMem_letters_of_letter? hl
    split
    · next hplain =>
      simp only [isPlain, Bool.and_eq_true, Bool.not_eq_true'] at hplain
      exact .plain hc hplain.1 hplain.2
    · next hplain =>
      refine .number hc ?_ (isHex_toDigits c.toNat)
      simpa [isPlain, or_iff_not_imp_left] using hplain

/-! ### Reading a text -/

/-- Reads one quoted text off the front of a text, and says what is left. -/
def unquote? (w : String) : Option (String × String) :=
  (decode w.toList).map fun p => (String.ofList p.1, String.ofList p.2)

lemma unquote?_quote_append (s r : String) : unquote? (quote s ++ r) = some (s, r) := by
  rw [unquote?, String.toList_append, toList_quote, decode_encode_append, Option.map_some,
    String.ofList_toList, String.ofList_toList]

/-- No quoted text is the beginning of another one. -/
lemma eq_of_quote_begins {s t : String} (h : (quote s).toList <+: (quote t).toList) : t = s := by
  obtain ⟨r, hr⟩ := h
  have ht : quote s ++ String.ofList r = quote t := by
    rw [← String.toList_inj, String.toList_append, String.toList_ofList, hr]
  have hread := unquote?_quote_append t ""
  rw [String.append_empty, ← ht, unquote?_quote_append] at hread
  exact (congrArg Prod.fst (Option.some.inj hread)).symm

end Quoted

end Text

open Text.Quoted

/-- **Literals are read back.** The text of a literal is the same from every number on. Reading it
gives the literal and leaves what follows. Its characters are written one after the other; each
quote among them is escaped, and the one at the end is not. No other literal has a text that
begins with it. -/
theorem Expr.string_reads_back (s : String) :
    ∃ w : String, (∀ i : Counter, (Expr.string s : Expr [] .string).renderFrom i = .ok w) ∧
      (∀ r : String, unquote? (w ++ r) = some (s, r)) ∧
      (∃ written : List (List Char), List.Forall₂ WrittenAs s.toList written ∧
        w.toList = '"' :: (written.flatten ++ ['"']) ∧ ¬ Escaping written.flatten ∧
        ∀ u v, written.flatten = u ++ '"' :: v → Escaping u) ∧
      ∀ (t : String) (i : Counter), ∃ x : String,
        (Expr.string t : Expr [] .string).renderFrom i = .ok x ∧
          (w.toList <+: x.toList ↔ t = s) := by
  refine ⟨quote s, fun i => rfl, unquote?_quote_append s, ?_,
    fun t i => ⟨quote t, rfl, ?_⟩⟩
  · obtain ⟨hclosed, hquotes⟩ := escaping_of_flatMap_escape s.toList not_escaping_nil
    refine ⟨s.toList.map escape, ?_, ?_, ?_⟩
    · rw [List.forall₂_map_right_iff]
      exact List.forall₂_same.mpr fun c _ => writtenAs_escape c
    · rw [← List.flatMap_def, toList_quote, encode]
    · rw [← List.flatMap_def]
      exact ⟨hclosed, hquotes⟩
  · refine ⟨eq_of_quote_begins, ?_⟩
    rintro rfl
    exact List.prefix_refl _

/-- A literal that looks like an escape, with a mark that does not show and a quote at its end. -/
theorem Expr.string_reads_back_lookalike :
    (Expr.string "\\u\x7b0\x7d\x00\u0301'\"" : Expr [] .string).renderFrom .zero =
        .ok "\"\\\\u\x7b0\x7d\\0\\u\x7b301\x7d'\\\"\"" ∧
      unquote? "\"\\\\u\x7b0\x7d\\0\\u\x7b301\x7d'\\\"\" == \"\"" =
        some ("\\u\x7b0\x7d\x00\u0301'\"", " == \"\"") := by
  obtain ⟨w, hw, hread, -, -⟩ := string_reads_back "\\u\x7b0\x7d\x00\u0301'\""
  have htext : (Expr.string "\\u\x7b0\x7d\x00\u0301'\"" : Expr [] .string).renderFrom .zero =
      .ok "\"\\\\u\x7b0\x7d\\0\\u\x7b301\x7d'\\\"\"" := by decide +kernel
  obtain rfl := Except.ok.inj ((hw .zero).symm.trans htext)
  exact ⟨htext, hread " == \"\""⟩

end TypedLambda
