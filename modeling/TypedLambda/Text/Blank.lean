import TypedLambda.Text.Range

/-!
Blanks, which are the characters with the property White_Space, and how texts are trimmed
and cut at them.
-/

namespace TypedLambda.Text

def whiteSpace : Ranges :=
  [(0x9, 0xd), (0x20, 0x20), (0x85, 0x85), (0xa0, 0xa0), (0x1680, 0x1680), (0x2000, 0x200a),
   (0x2028, 0x2029), (0x202f, 0x202f), (0x205f, 0x205f), (0x3000, 0x3000)]

def isBlank (c : Char) : Bool := whiteSpace.contains c

def trimLeft (cs : List Char) : List Char := cs.dropWhile isBlank

def trimRight (cs : List Char) : List Char := (cs.reverse.dropWhile isBlank).reverse

/-- Takes the blanks off both ends. -/
def trim (cs : List Char) : List Char := trimRight (trimLeft cs)

/-- The text up to the first blank and the text after that one blank, if there is a blank. -/
def cutAtBlank? : List Char → Option (List Char × List Char)
  | [] => none
  | c :: cs => if isBlank c then some ([], cs) else (cutAtBlank? cs).map fun p => (c :: p.1, p.2)

@[simp] theorem trimLeft_nil : trimLeft [] = [] := rfl

@[simp] theorem trim_nil : trim [] = [] := rfl

theorem cutAtBlank?_eq_none {cs : List Char} :
    cutAtBlank? cs = none ↔ ∀ c ∈ cs, isBlank c = false := by
  induction cs with
  | nil => simp [cutAtBlank?]
  | cons c cs ih => by_cases h : isBlank c <;> simp [cutAtBlank?, h, ih]

theorem eq_of_cutAtBlank? {cs u v : List Char} (h : cutAtBlank? cs = some (u, v)) :
    ∃ b, isBlank b = true ∧ cs = u ++ b :: v ∧ ∀ c ∈ u, isBlank c = false := by
  induction cs generalizing u with
  | nil => simp [cutAtBlank?] at h
  | cons c cs ih =>
    by_cases hc : isBlank c
    · simp only [cutAtBlank?, hc, if_true, Option.some.injEq, Prod.mk.injEq] at h
      obtain ⟨rfl, rfl⟩ := h
      exact ⟨c, hc, rfl, by simp⟩
    · simp only [cutAtBlank?, hc, Bool.false_eq_true, if_false, Option.map_eq_some_iff,
        Prod.mk.injEq] at h
      obtain ⟨⟨u', v'⟩, h', rfl, rfl⟩ := h
      obtain ⟨b, hb, rfl, hu⟩ := ih h'
      exact ⟨b, hb, rfl, by simpa [hc] using hu⟩

end TypedLambda.Text
