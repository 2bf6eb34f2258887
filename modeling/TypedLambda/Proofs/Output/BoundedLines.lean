import Mathlib.Algebra.GroupWithZero.Nat
import Mathlib.Tactic.SplitIfs
import TypedLambda.Output.Bounded
import TypedLambda.Proofs.Output.Writing

/-!
Lines in a stream with bounds. The invariant is that a line that does not fit leaves the stream
full, and a full stream stays as it is: so the stream always holds the first bytes of all lines
written to it, and as long as a line fits, there has been a flush for each line before it. Main
statement: what comes of each line, which bytes the stream ends up with and when it was flushed.
-/

namespace TypedLambda

/-- The lines as they come to a stream, each with its line feed. -/
def lineBytes (lines : List String) : List UInt8 :=
  lines.flatMap fun line => utf8 line ++ utf8 "\n"

/-- The lengths in UTF-8 of the first `k` lines together, and one byte more for each. -/
def totalBytes (lines : List String) (k : Nat) : Nat :=
  ((lines.take k).map fun line => (utf8 line).length).sum + k

lemma length_utf8_lineFeed : (utf8 "\n").length = 1 := rfl

lemma lineBytes_append (lines more : List String) :
    lineBytes (lines ++ more) = lineBytes lines ++ lineBytes more :=
  List.flatMap_append

lemma lineBytes_singleton (line : String) : lineBytes [line] = utf8 line ++ utf8 "\n" := by
  simp [lineBytes]

lemma length_lineBytes (lines : List String) :
    (lineBytes lines).length = totalBytes lines lines.length := by
  unfold totalBytes
  rw [List.take_length]
  induction lines with
  | nil => rfl
  | cons line lines ih =>
    have h : lineBytes (line :: lines) = lineBytes [line] ++ lineBytes lines :=
      lineBytes_append [line] lines
    rw [h, lineBytes_singleton, List.length_append, List.length_append, ih, length_utf8_lineFeed,
      List.map_cons, List.sum_cons, List.length_cons]
    omega

lemma totalBytes_append {lines : List String} {k : Nat} (h : k ≤ lines.length)
    (more : List String) : totalBytes (lines ++ more) k = totalBytes lines k := by
  rw [totalBytes, totalBytes, List.take_append_of_le_length h]

lemma totalBytes_mono (lines : List String) {j k : Nat} (h : j ≤ k) :
    totalBytes lines j ≤ totalBytes lines k := by
  obtain ⟨d, rfl⟩ := Nat.exists_eq_add_of_le h
  rw [totalBytes, totalBytes, List.take_add, List.map_append, List.sum_append]
  omega

/-- How a stream without room turns an offer down. -/
def WhenFull.error : WhenFull → StreamError
  | fail => .closed
  | takeNothing => .nothingTaken

namespace Bounds

variable {b : Bounds} {m n : Nat}

/-- Whether there is room for so many bytes in all. -/
def fits (b : Bounds) (n : Nat) : Bool :=
  match b.capacity with
  | some capacity => n ≤ capacity
  | none => true

/-- The first bytes, as many as there is room for. -/
def kept (b : Bounds) (bytes : List UInt8) : List UInt8 :=
  match b.capacity with
  | some capacity => bytes.take (min capacity bytes.length)
  | none => bytes

lemma fits_of_le (h : m ≤ n) (hn : b.fits n = true) : b.fits m = true := by
  rcases b with ⟨_ | capacity, full, failFlush⟩
  · rfl
  · simp only [fits, decide_eq_true_eq] at hn ⊢
    omega

lemma kept_of_fits {bytes : List UInt8} (h : b.fits bytes.length = true) :
    b.kept bytes = bytes := by
  rcases b with ⟨_ | capacity, full, failFlush⟩
  · rfl
  · simp only [fits, decide_eq_true_eq] at h
    exact List.take_of_length_le (by omega)

/-- What comes when the stream is full already is lost. -/
lemma kept_append_of_not_fits {bytes : List UInt8} (h : ¬ b.fits bytes.length = true)
    (more : List UInt8) : b.kept (bytes ++ more) = b.kept bytes := by
  rcases b with ⟨_ | capacity, full, failFlush⟩
  · exact absurd rfl h
  · simp only [fits, decide_eq_true_eq] at h
    simp only [kept, List.length_append]
    rw [Nat.min_eq_left (by omega), Nat.min_eq_left (by omega),
      List.take_append_of_le_length (by omega)]

/-! ### Bytes -/

/-- After as many bytes as fit, there is no room for the rest. -/
lemma taken_rest (b : Bounds) (held offered : Nat) :
    b.taken (held + b.taken held offered) (offered - b.taken held offered) = 0 := by
  rcases b with ⟨_ | capacity, full, failFlush⟩
  · exact Nat.sub_self offered
  · simp only [taken]
    omega

lemma kept_append_taken (b : Bounds) (x y : List UInt8) :
    b.kept x ++ y.take (b.taken (b.kept x).length y.length) = b.kept (x ++ y) := by
  rcases b with ⟨_ | capacity, full, failFlush⟩
  · exact congrArg (x ++ ·) List.take_length
  · simp only [taken, kept]
    rw [List.take_append, List.length_append, List.length_take]
    have hx : x.take (min capacity (x.length + y.length)) = x.take (min capacity x.length) := by
      rw [List.take_eq_take_iff]
      omega
    have hy : min capacity (x.length + y.length) - x.length =
        min (capacity - min (min capacity x.length) x.length) y.length := by omega
    rw [hx, hy]

lemma taken_kept_eq (b : Bounds) (x y : List UInt8) :
    b.taken (b.kept x).length y.length = y.length ↔
      y = [] ∨ b.fits (x ++ y).length = true := by
  rcases b with ⟨_ | capacity, full, failFlush⟩
  · simp [taken, fits]
  · simp only [taken, kept, fits, List.length_take, List.length_append, decide_eq_true_eq,
      ← List.length_eq_zero_iff]
    omega

lemma perform_writeAll_of_full {bytes : List UInt8} {w : Written} (hne : bytes ≠ [])
    (h : b.taken w.bytes.length bytes.length = 0) :
    (b.stream.writeAll bytes).perform w = (.error b.whenFull.error, w) := by
  obtain ⟨c, bytes, rfl⟩ := List.exists_cons_of_ne_nil hne
  rw [ByteStream.perform_writeAll_cons, perform_write, h, List.take_zero, List.append_nil]
  cases hfull : b.whenFull <;> simp [WhenFull.error]

/-- All that fits is taken at the first offer, and the second one fails if there is more. -/
lemma perform_writeAll (b : Bounds) (bytes : List UInt8) (w : Written) :
    (b.stream.writeAll bytes).perform w =
      (if b.taken w.bytes.length bytes.length = bytes.length then .ok ()
        else .error b.whenFull.error,
        { w with bytes := w.bytes ++ bytes.take (b.taken w.bytes.length bytes.length) }) := by
  have hle := b.taken_le w.bytes.length bytes.length
  have hrest := b.taken_rest w.bytes.length bytes.length
  rcases hn : b.taken w.bytes.length bytes.length with _ | n
  · rw [List.take_zero, List.append_nil]
    by_cases hnil : bytes = []
    · subst hnil
      exact ByteStream.perform_writeAll_nil _ _
    · have hlen : ¬ 0 = bytes.length := fun h => hnil (List.length_eq_zero_iff.mp h.symm)
      rw [perform_writeAll_of_full hnil hn, if_neg hlen]
  · rw [hn] at hle hrest
    obtain ⟨c, bytes, rfl⟩ : ∃ c rest, bytes = c :: rest :=
      List.exists_cons_of_length_pos (by omega)
    rw [ByteStream.perform_writeAll_cons, perform_write, hn, if_neg fun h => Nat.succ_ne_zero n h.1]
    change (b.stream.writeAll (bytes.drop n)).perform _ = _
    rw [List.length_cons] at hle hrest ⊢
    by_cases hall : n + 1 = bytes.length + 1
    · rw [List.drop_of_length_le (by omega), if_pos hall]
      exact ByteStream.perform_writeAll_nil _ _
    · have hne : bytes.drop n ≠ [] := by
        rw [ne_eq, List.drop_eq_nil_iff]
        omega
      have htaken : (w.bytes ++ (c :: bytes).take (n + 1)).length = w.bytes.length + (n + 1) := by
        rw [List.length_append, List.length_take, List.length_cons, Nat.min_eq_left hle]
      rw [if_neg hall]
      refine perform_writeAll_of_full hne ?_
      rw [htaken, List.length_drop, ← hrest]
      congr 1
      omega

lemma perform_writeAll_kept (b : Bounds) (x y : List UInt8) (flushedAt : List Nat) :
    (b.stream.writeAll y).perform ⟨b.kept x, flushedAt⟩ =
      (if y = [] ∨ b.fits (x ++ y).length = true then .ok () else .error b.whenFull.error,
        ⟨b.kept (x ++ y), flushedAt⟩) := by
  rw [perform_writeAll]
  simp only [kept_append_taken, taken_kept_eq]

/-! ### Lines -/

/-- Behind the first bytes of what was written before, a line leaves the first bytes of all, and
there is a flush if all fits. -/
lemma perform_write_line (b : Bounds) (x : List UInt8) (line : String) (flushedAt : List Nat) :
    (b.stream.lines.write line).perform ⟨b.kept x, flushedAt⟩ =
      if b.fits (x ++ lineBytes [line]).length = true then
        (if b.refuses (flushedAt.length + 1) then .error .flushRefused else .ok (),
          ⟨x ++ lineBytes [line], flushedAt ++ [(x ++ lineBytes [line]).length]⟩)
      else (.error b.whenFull.error, ⟨b.kept (x ++ lineBytes [line]), flushedAt⟩) := by
  have hlf : utf8 "\n" ≠ [] := by decide
  unfold ByteStream.lines
  rw [lineBytes_singleton, ← List.append_assoc]
  simp only [Action.perform_bind, perform_writeAll_kept]
  by_cases hfit : b.fits (x ++ utf8 line ++ utf8 "\n").length = true
  · have hline : b.fits (x ++ utf8 line).length = true :=
      fits_of_le (by simp only [List.length_append]; omega) hfit
    simp only [hline, hfit, or_true, if_true, perform_writeAll_kept, perform_flush,
      kept_of_fits hfit]
  · simp only [if_neg hfit]
    by_cases hline : utf8 line = [] ∨ b.fits (x ++ utf8 line).length = true
    · simp only [if_pos hline, perform_writeAll_kept, hlf, hfit, false_or,
        Bool.false_eq_true, if_false]
    · -- The stream is full with the text of the line, so the line feed adds nothing.
      simp only [if_neg hline]
      rw [kept_append_of_not_fits (not_or.mp hline).2]

/-- How many of the lines fit, each with all lines before it. -/
def fitting (b : Bounds) (lines : List String) : Nat :=
  (List.range' 1 lines.length).countP fun k => b.fits (totalBytes lines k)

/-- The state of the stream after the lines. -/
def written (b : Bounds) (lines : List String) : Written where
  bytes := b.kept (lineBytes lines)
  flushedAt := (List.range' 1 (b.fitting lines)).map (totalBytes lines)

/-- What comes of the last of the lines. -/
def resultOf (b : Bounds) (lines : List String) : Except StreamError Unit :=
  if b.fits (totalBytes lines lines.length) then
    if b.refuses lines.length then .error .flushRefused else .ok ()
  else .error b.whenFull.error

variable {lines : List String} {line : String}

lemma fitting_le (b : Bounds) (lines : List String) : b.fitting lines ≤ lines.length := by
  have h := List.countP_le_length (p := fun k => b.fits (totalBytes lines k))
    (l := List.range' 1 lines.length)
  rwa [List.length_range'] at h

/-- If a line fits, then all lines before it do. -/
lemma fitting_of_fits (h : b.fits (totalBytes lines lines.length) = true) :
    b.fitting lines = lines.length := by
  have hall : b.fitting lines = (List.range' 1 lines.length).length := by
    refine List.countP_eq_length.mpr fun k hk => fits_of_le (totalBytes_mono lines ?_) h
    rw [List.mem_range'_1] at hk
    omega
  rwa [List.length_range'] at hall

lemma fitting_concat (b : Bounds) (lines : List String) (line : String) :
    b.fitting (lines ++ [line]) = b.fitting lines +
      if b.fits (totalBytes (lines ++ [line]) (lines.length + 1)) then 1 else 0 := by
  have hold : (List.range' 1 lines.length).countP
      (fun k => b.fits (totalBytes (lines ++ [line]) k)) = b.fitting lines := by
    refine List.countP_congr fun k hk => ?_
    rw [List.mem_range'_1] at hk
    rw [totalBytes_append (by omega)]
  rw [fitting, List.length_append, List.length_singleton, List.range'_1_concat,
    List.countP_append, hold, List.countP_singleton, Nat.add_comm 1]

/-- The numbers of bytes at the flushes before a line are not changed by the line. -/
lemma map_totalBytes_concat (b : Bounds) (lines : List String) (line : String) :
    (List.range' 1 (b.fitting lines)).map (totalBytes (lines ++ [line])) =
      (b.written lines).flushedAt := by
  refine List.map_congr_left fun k hk => totalBytes_append ?_ [line]
  have hle := b.fitting_le lines
  rw [List.mem_range'_1] at hk
  omega

lemma written_nil (b : Bounds) : b.written [] = .none := by
  rcases b with ⟨_ | capacity, full, failFlush⟩ <;>
    simp [written, fitting, kept, lineBytes, Written.none]

/-- **One line more**: it is cut where the room ends, and it is flushed if it fits. -/
theorem follows (b : Bounds) : b.stream.lines.Follows b.written b.resultOf where
  write lines line := by
    have hlen : (lines ++ [line]).length = lines.length + 1 := List.length_append
    have hflushed := map_totalBytes_concat b lines line
    rw [written] at hflushed ⊢
    rw [perform_write_line, ← lineBytes_append, length_lineBytes, hlen, resultOf, hlen, written,
      fitting_concat]
    by_cases hfit : b.fits (totalBytes (lines ++ [line]) (lines.length + 1)) = true
    · have hfitting : b.fitting lines = lines.length := by
        refine fitting_of_fits (fits_of_le ?_ hfit)
        rw [← totalBytes_append (Nat.le_refl _) [line]]
        exact totalBytes_mono _ (Nat.le_succ _)
      have hkept : b.kept (lineBytes (lines ++ [line])) = lineBytes (lines ++ [line]) := by
        refine kept_of_fits ?_
        rwa [length_lineBytes, hlen]
      rw [hfitting] at hflushed ⊢
      simp only [hfit, if_true, hkept, List.range'_1_concat, List.map_append, hflushed,
        List.map_singleton, List.length_map, List.length_range', Nat.add_comm 1]
    · simp only [hfit, if_false, Bool.false_eq_true, Nat.add_zero, hflushed]

lemma totalBytes_take {k : Nat} (h : k ≤ lines.length) (more : List String) :
    totalBytes (lines.take k ++ more) k = totalBytes lines k := by
  have hlen : (lines.take k).length = k := List.length_take_of_le h
  rw [totalBytes_append (Nat.le_of_eq hlen.symm), totalBytes, totalBytes, List.take_take,
    Nat.min_self]

lemma length_lineBytes_take {k : Nat} (h : k ≤ lines.length) :
    (lineBytes (lines.take k)).length = totalBytes lines k := by
  rw [length_lineBytes, List.length_take_of_le h, ← totalBytes_take h [], List.append_nil]

lemma resultOf_take {k : Nat} (h : k ≤ lines.length) :
    b.resultOf (lines.take k) = if b.fits (totalBytes lines k) then
      if b.refuses k then .error .flushRefused else .ok () else .error b.whenFull.error := by
  rw [resultOf, ← length_lineBytes, length_lineBytes_take h, List.length_take_of_le h]

lemma flushedAt_concat_of_not_fits
    (h : b.fits (totalBytes (lines ++ [line]) (lines.length + 1)) = false) :
    (b.written (lines ++ [line])).flushedAt = (b.written lines).flushedAt := by
  rw [← map_totalBytes_concat b lines line, written, fitting_concat, h]
  rfl

/-- **A transcript is torn at its end only.** Whatever comes of the lines before it, a line gets as
far as the room for all of them goes, and of those that fit none is lost where a flush fails. -/
theorem attempts_lines (b : Bounds) (lines : List String) :
    b.stream.lines.attempts lines .none =
        ((List.range' 1 lines.length).map fun k =>
          (if b.fits (totalBytes lines k) then
            if b.refuses k then .error .flushRefused else .ok ()
          else .error b.whenFull.error, b.written (lines.take k))) ∧
      Action.stateAfter .none (b.stream.lines.attempts lines .none) =
        ⟨b.kept (lineBytes lines),
          (List.range' 1 ((List.range' 1 lines.length).countP fun k =>
            b.fits (totalBytes lines k))).map (totalBytes lines)⟩ ∧
      (lineBytes lines).length = totalBytes lines lines.length ∧
      (∀ k ≤ lines.length, b.fits (totalBytes lines k) = true →
        (b.written (lines.take k)).bytes = lineBytes (lines.take k)) ∧
      (∀ k < lines.length, b.fits (totalBytes lines (k + 1)) = false →
        (b.written (lines.take (k + 1))).flushedAt = (b.written (lines.take k)).flushedAt) ∧
      StreamError.flushRefused.message = "flush refused" := by
  have hf := b.follows
  refine ⟨?_, ?_, length_lineBytes lines, fun k hk hfit => ?_, fun k hk hfit => ?_, rfl⟩
  · rw [← b.written_nil, hf.attempts_eq]
    refine List.map_congr_left fun k hk => ?_
    rw [List.mem_range'_1] at hk
    rw [resultOf_take (by omega)]
  · rw [← b.written_nil]
    exact hf.stateAfter_attempts lines
  · refine kept_of_fits ?_
    rwa [length_lineBytes_take hk]
  · have hlen : (lines.take k).length = k := List.length_take_of_le (Nat.le_of_lt hk)
    have htake : lines.take k ++ [lines[k]] = lines.take (k + 1) := List.take_append_getElem hk
    rw [← htake]
    refine flushedAt_concat_of_not_fits ?_
    rwa [htake, hlen, ← List.append_nil (lines.take (k + 1)), totalBytes_take hk]

/-- Room that ends inside a character, behind a line whose flush fails. -/
def tornCharacter : Bounds := ⟨some 6, .fail, some 2⟩

theorem attempts_lines_tornCharacter :
    (tornCharacter.stream.lines.attempts ["é", "", "a😀", ""] .none).map Prod.fst =
        [.ok (), .error .flushRefused, .error .closed, .error .closed] ∧
      Action.stateAfter .none (tornCharacter.stream.lines.attempts ["é", "", "a😀", ""] .none) =
        ⟨[0xc3, 0xa9, 10, 10, 0x61, 0xf0], [3, 4]⟩ ∧
      (tornCharacter.written ["é", ""]).bytes = lineBytes ["é", ""] ∧
      (tornCharacter.written ["é", "", "a😀"]).flushedAt =
        (tornCharacter.written ["é", ""]).flushedAt := by
  obtain ⟨hsteps, hlast, -, hkept, hflushed, -⟩ := attempts_lines tornCharacter ["é", "", "a😀", ""]
  refine ⟨?_, ?_, hkept 2 (by decide) (by decide), hflushed 2 (by decide) (by decide)⟩
  · rw [hsteps]
    decide
  · rw [hlast]
    decide

end Bounds

end TypedLambda
