import TypedLambda.Text.Utf8

/-!
Lines of text in a stream of bytes. A piece of the stream goes up to a line feed, and the last
piece need not have one. A piece is read as UTF-8, and then loses its line feed and one carriage
return right before that line feed. Reading stops at the first piece that is not text.
-/

namespace TypedLambda

inductive InputError where
  | notText
  | noSuchFile
  deriving DecidableEq, Repr

def InputError.message : InputError → String
  | notText => "stream did not contain valid UTF-8"
  | noSuchFile => "No such file or directory (os error 2)"

/-- Every piece but the last ends with its line feed, and no piece has another one. -/
def pieces : List UInt8 → List (List UInt8)
  | [] => []
  | b :: bs =>
    if b = 10 then [b] :: pieces bs
    else match pieces bs with
      | [] => [[b]]
      | p :: ps => (b :: p) :: ps

theorem flatten_pieces (bs : List UInt8) : (pieces bs).flatten = bs := by
  induction bs with
  | nil => rfl
  | cons b bs ih =>
    unfold pieces
    split
    · simp [ih]
    · split
      · next h => simp [h] at ih; simp [ih]
      · next h => simp [h] at ih; simp [ih]

theorem pieces_append {p : List UInt8} (h : 10 ∉ p) (rest : List UInt8) :
    pieces (p ++ 10 :: rest) = (p ++ [10]) :: pieces rest := by
  induction p with
  | nil => simp [pieces]
  | cons b p ih =>
    simp only [List.mem_cons, not_or] at h
    rw [List.cons_append, pieces, if_neg (Ne.symm h.1), ih h.2]
    rfl

theorem pieces_of_not_mem {p : List UInt8} (h : 10 ∉ p) (hp : p ≠ []) : pieces p = [p] := by
  induction p with
  | nil => exact absurd rfl hp
  | cons b p ih =>
    simp only [List.mem_cons, not_or] at h
    rw [pieces, if_neg (Ne.symm h.1)]
    cases p with
    | nil => rfl
    | cons c p => rw [ih h.2 (List.cons_ne_nil c p)]

/-- Takes a line feed off the end, and then one carriage return. -/
def dropLineEnd (cs : List Char) : List Char :=
  match cs.reverse with
  | '\n' :: '\r' :: r => r.reverse
  | '\n' :: r => r.reverse
  | _ => cs

theorem dropLineEnd_crlf (cs : List Char) : dropLineEnd (cs ++ ['\r', '\n']) = cs := by
  simp [dropLineEnd]

theorem dropLineEnd_lf {cs : List Char} (h : cs.getLast? ≠ some '\r') :
    dropLineEnd (cs ++ ['\n']) = cs := by
  rw [List.getLast?_eq_head?_reverse] at h
  unfold dropLineEnd
  simp only [List.reverse_append, List.reverse_singleton, List.singleton_append]
  split
  · next r hr => exact absurd (by rw [(List.cons.inj hr).2]; rfl) h
  · next r hr => rw [← (List.cons.inj hr).2, List.reverse_reverse]
  · next hn => exact absurd rfl (hn _)

/-- The line in a piece, if the piece is text. -/
def line? (piece : List UInt8) : Option String :=
  (ofUtf8? piece).map fun s => String.ofList (dropLineEnd s.toList)

theorem line?_utf8 (s : String) : line? (utf8 s) = some (String.ofList (dropLineEnd s.toList)) := by
  simp [line?, ofUtf8?_utf8]

/-- The lines that could be read, and why no more could be if the stream did not just end. -/
structure Lines where
  lines : List String
  fault : Option InputError
  deriving DecidableEq, Repr

namespace Lines

def ofPieces : List (List UInt8) → Lines
  | [] => ⟨[], none⟩
  | p :: ps =>
    match line? p with
    | some l => { ofPieces ps with lines := l :: (ofPieces ps).lines }
    | none => ⟨[], some .notText⟩

def ofBytes (bs : List UInt8) : Lines := ofPieces (pieces bs)

end Lines

end TypedLambda
