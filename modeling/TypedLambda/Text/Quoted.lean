import TypedLambda.Text.Extending
import TypedLambda.Text.Unprintable

/-!
Quoted text: a text between double quotes, in which six characters are written as a backslash
and a letter, and every character that cannot be told from its print as a backslash and its
number in hexadecimal. The main statement is `decode_encode_append`: what has been quoted can
be read back whatever follows it, so a quoted text says where it ends.
-/

namespace TypedLambda.Text.Quoted

/-- The letter that stands for a character after a backslash. -/
def letter? (c : Char) : Option Char :=
  if c = '\x00' then some '0'
  else if c = '\t' then some 't'
  else if c = '\r' then some 'r'
  else if c = '\n' then some 'n'
  else if c = '"' then some '"'
  else if c = '\\' then some '\\'
  else none

/-- The character that a letter stands for after a backslash. -/
def ofLetter? (l : Char) : Option Char :=
  if l = '0' then some '\x00'
  else if l = 't' then some '\t'
  else if l = 'r' then some '\r'
  else if l = 'n' then some '\n'
  else if l = '"' then some '"'
  else if l = '\\' then some '\\'
  else none

/-- The character is printed by itself, as itself. -/
def isPlain (c : Char) : Bool := !extending.contains c && !unprintable.contains c

def byNumber (c : Char) : List Char :=
  '\\' :: 'u' :: '\x7b' :: (Nat.toDigits 16 c.toNat ++ ['\x7d'])

def escape (c : Char) : List Char :=
  match letter? c with
  | some l => ['\\', l]
  | none => if isPlain c then [c] else byNumber c

def encode (cs : List Char) : List Char := '"' :: (cs.flatMap escape ++ ['"'])

/-- A text in quotes. -/
def quote (s : String) : String := String.ofList (encode s.toList)

@[simp] theorem toList_quote (s : String) : (quote s).toList = encode s.toList := by
  simp [quote]

/-! ## Reading back -/

/-- The value of a hexadecimal digit. -/
def hexValue? (c : Char) : Option Nat := (List.range 16).find? fun d => d.digitChar == c

/-- Where a reader stands: between characters, after a backslash, before the number of a
character, or inside it. -/
inductive Mode where
  | plain
  | escaped
  | brace
  | number (n : Nat)

/-- Reads up to the closing quote and says what is left after it. -/
def scan : Mode → List Char → Option (List Char × List Char)
  | _, [] => none
  | .plain, c :: cs =>
    if c = '"' then some ([], cs)
    else if c = '\\' then scan .escaped cs
    else (scan .plain cs).map fun p => (c :: p.1, p.2)
  | .escaped, l :: cs =>
    if l = 'u' then scan .brace cs
    else (ofLetter? l).bind fun c => (scan .plain cs).map fun p => (c :: p.1, p.2)
  | .brace, c :: cs => if c = '\x7b' then scan (.number 0) cs else none
  | .number n, c :: cs =>
    if c = '\x7d' then
      if n.isValidChar then (scan .plain cs).map fun p => (Char.ofNat n :: p.1, p.2) else none
    else (hexValue? c).bind fun d => scan (.number (16 * n + d)) cs

/-- Reads one quoted text off the front. -/
def decode : List Char → Option (List Char × List Char)
  | '"' :: cs => scan .plain cs
  | _ => none

theorem hexValue?_digitChar {d : Nat} (h : d < 16) : hexValue? d.digitChar = some d := by
  have : ∀ d ∈ List.range 16, hexValue? d.digitChar = some d := by decide
  exact this d (List.mem_range.mpr h)

theorem digitChar_ne_brace (d : Nat) : d.digitChar ≠ '\x7d' := Nat.digitChar_ne '\x7d' rfl

theorem scan_digit {n d : Nat} (h : d < 16) (cs : List Char) :
    scan (.number n) (d.digitChar :: cs) = scan (.number (16 * n + d)) cs := by
  rw [scan, if_neg (digitChar_ne_brace d), hexValue?_digitChar h]
  rfl

theorem scan_toDigits (n : Nat) (cs : List Char) :
    scan (.number 0) (Nat.toDigits 16 n ++ cs) = scan (.number n) cs := by
  induction n using Nat.strongRecOn generalizing cs with
  | ind n ih =>
    by_cases h : n < 16
    · simp [Nat.toDigits_of_lt_base h, scan_digit h]
    · rw [Nat.toDigits_of_base_le (by decide) (by omega), List.append_assoc,
        ih (n / 16) (by omega), List.singleton_append, scan_digit (by omega), Nat.div_add_mod]

theorem scan_byNumber (c : Char) (cs : List Char) :
    scan .plain (byNumber c ++ cs) = (scan .plain cs).map fun p => (c :: p.1, p.2) := by
  have h : c.toNat.isValidChar := c.valid
  simp only [byNumber, List.cons_append, List.append_assoc, scan, scan_toDigits]
  simp [h]

theorem letter?_ne_u {c l : Char} (h : letter? c = some l) : l ≠ 'u' := by
  rintro rfl
  simp only [letter?] at h
  repeat' split at h
  all_goals simp at h

theorem ofLetter?_letter? {c l : Char} (h : letter? c = some l) : ofLetter? l = some c := by
  simp only [letter?] at h
  repeat' split at h
  all_goals simp_all [ofLetter?, eq_comm]

theorem letter?_ne_none_iff {c : Char} : letter? c ≠ none ↔
    c = '\x00' ∨ c = '\t' ∨ c = '\r' ∨ c = '\n' ∨ c = '"' ∨ c = '\\' := by
  simp only [letter?]
  repeat' split
  all_goals simp_all

theorem scan_escape (c : Char) (cs : List Char) :
    scan .plain (escape c ++ cs) = (scan .plain cs).map fun p => (c :: p.1, p.2) := by
  unfold escape
  split
  · next l h => simp [scan, letter?_ne_u h, ofLetter?_letter? h]
  · next h =>
    have hc := mt letter?_ne_none_iff.mpr (not_not_intro h)
    simp only [not_or] at hc
    split
    · simp [scan, hc]
    · exact scan_byNumber c cs

theorem decode_encode_append (s r : List Char) : decode (encode s ++ r) = some (s, r) := by
  have h : scan .plain (s.flatMap escape ++ '"' :: r) = some (s, r) := by
    induction s with
    | nil => simp [scan]
    | cons c s ih => simp [List.append_assoc, scan_escape, ih]
  simpa [encode, decode] using h

end TypedLambda.Text.Quoted
