import TypedLambda.Proofs.Input.Sending
import TypedLambda.Proofs.Output.BoundedLines
import TypedLambda.Proofs.Skeleton.Printable

/-!
Renderings on a stream. Nothing is asked of the stream but that it has room: it may take a line in
as many parts as it likes, and its flushes may fail. Main statement: what is left on the stream by
any list of renderings is the list, one line for each, and splitting the bytes at line feeds gives
it back.
-/

namespace TypedLambda

variable {σ : Type}

namespace ByteStream

/-- As long as all that is offered fits, the stream takes some of it, from the front and behind
what it holds. A flush changes nothing of that, even if it fails. -/
structure HasRoom (stream : ByteStream σ) (bytes : σ → List UInt8) (capacity : Nat) : Prop where
  write : ∀ (s : σ) (offered : List UInt8), offered ≠ [] →
    (bytes s).length + offered.length ≤ capacity →
      ∃ (n : Nat) (t : σ), (stream.write offered).perform s = (.ok n, t) ∧ 0 < n ∧
        n ≤ offered.length ∧ bytes t = bytes s ++ offered.take n
  flush : ∀ s : σ, bytes (stream.flush.perform s).2 = bytes s

namespace HasRoom

variable {stream : ByteStream σ} {bytes : σ → List UInt8} {capacity : Nat}

/-- However many parts it takes, all gets there. -/
lemma writeAll (h : stream.HasRoom bytes capacity) (offered : List UInt8) {s : σ}
    (hfit : (bytes s).length + offered.length ≤ capacity) :
    ∃ t, (stream.writeAll offered).perform s = (.ok (), t) ∧ bytes t = bytes s ++ offered := by
  induction hm : offered.length using Nat.strongRecOn generalizing offered s with
  | ind m ih =>
    rcases offered with _ | ⟨b, offered⟩
    · exact ⟨s, perform_writeAll_nil stream s, (List.append_nil _).symm⟩
    · obtain ⟨n, t, hwrite, hpos, hle, ht⟩ := h.write s (b :: offered) (List.cons_ne_nil _ _) hfit
      obtain ⟨n, rfl⟩ := Nat.exists_eq_succ_of_ne_zero (Nat.pos_iff_ne_zero.mp hpos)
      rw [List.length_cons] at hfit hle hm
      have hlen : (bytes t).length = (bytes s).length + (n + 1) := by
        rw [ht, List.length_append, List.length_take_of_le hle]
      have hrest : (offered.drop n).length = offered.length - n := List.length_drop
      obtain ⟨u, hall, hu⟩ := ih _ (by omega) _ (s := t) (by omega) hrest
      refine ⟨u, ?_, ?_⟩
      · rw [perform_writeAll_cons, hwrite]
        exact hall
      · rw [hu, ht, List.append_assoc, List.take_succ_cons, List.cons_append,
          List.take_append_drop]

/-- A line gets there whole, whatever comes of its flush. -/
lemma write_line (h : stream.HasRoom bytes capacity) (line : String) {s : σ}
    (hfit : (bytes s).length + (lineBytes [line]).length ≤ capacity) :
    ∃ t, (stream.lines.write line).perform s = stream.flush.perform t ∧
      bytes (stream.flush.perform t).2 = bytes s ++ lineBytes [line] := by
  rw [lineBytes_singleton] at hfit ⊢
  rw [List.length_append] at hfit
  obtain ⟨t, htext, ht⟩ := h.writeAll (utf8 line) (s := s) (by omega)
  have hlen : (bytes t).length = (bytes s).length + (utf8 line).length := by
    rw [ht, List.length_append]
  obtain ⟨u, hfeed, hu⟩ := h.writeAll (utf8 "\n") (s := t) (by omega)
  refine ⟨u, ?_, ?_⟩
  · unfold lines
    simp only [Action.perform_bind, htext, hfeed]
  · rw [h.flush, hu, ht, List.append_assoc]

/-- Whether or not the flushes fail, all lines are there in the end, and where no flush fails no
line does. -/
lemma attempts (h : stream.HasRoom bytes capacity) {lines : List String} {s : σ}
    (hfit : (bytes s).length + (lineBytes lines).length ≤ capacity) :
    ∃ t, Action.stateAfter s (stream.lines.attempts lines s) = t ∧
      bytes t = bytes s ++ lineBytes lines ∧
      ((∀ u, (stream.flush.perform u).1 = .ok ()) →
        (lines.forM stream.lines.write).perform s = (.ok (), t)) := by
  induction lines generalizing s with
  | nil => exact ⟨s, rfl, (List.append_nil _).symm, fun _ => rfl⟩
  | cons line lines ih =>
    have hbytes : lineBytes (line :: lines) = lineBytes [line] ++ lineBytes lines :=
      lineBytes_append [line] lines
    rw [hbytes] at hfit ⊢
    rw [List.length_append] at hfit
    obtain ⟨t, hline, ht⟩ := h.write_line line (s := s) (by omega)
    have hlen : (bytes (stream.flush.perform t).2).length =
        (bytes s).length + (lineBytes [line]).length := by rw [ht, List.length_append]
    obtain ⟨u, hlines, hu, hforM⟩ := ih (s := (stream.flush.perform t).2) (by omega)
    refine ⟨u, ?_, ?_, fun hflush => ?_⟩
    · rw [LineWriter.attempts, List.map_cons, Action.trace, Action.stateAfter_cons, hline]
      exact hlines
    · rw [hu, ht, List.append_assoc]
    · have hok : stream.flush.perform t = (.ok (), (stream.flush.perform t).2) :=
        Prod.ext (hflush t) rfl
      rw [List.forM, Action.perform_bind, hline, hok]
      exact hforM hflush

end HasRoom

end ByteStream

lemma Bounds.hasRoom {b : Bounds} {capacity : Nat} (h : b.fits capacity = true) :
    b.stream.HasRoom Written.bytes capacity where
  write w offered hne hfit := by
    have htaken : b.taken w.bytes.length offered.length = offered.length := by
      rcases b with ⟨_ | room, full, failFlush⟩
      · rfl
      · simp only [fits, taken, decide_eq_true_eq] at h ⊢
        omega
    have hpos : 0 < offered.length := List.length_pos_of_ne_nil hne
    refine ⟨offered.length, { w with bytes := w.bytes ++ offered.take offered.length }, ?_, hpos,
      Nat.le_refl _, rfl⟩
    rw [perform_write, htaken, if_neg fun hfull => (Nat.ne_of_gt hpos) hfull.1]
  flush w := by rw [perform_flush]

/-! ### Reading a transcript -/

lemma lineBytes_cons (line : String) (lines : List String) :
    lineBytes (line :: lines) = utf8 line ++ 10 :: lineBytes lines := by
  have hlf : utf8 "\n" ++ lineBytes lines = 10 :: lineBytes lines := rfl
  rw [← hlf, ← List.append_assoc]
  rfl

lemma lineFeed_notMem_utf8_of_notMem {w : String} (h : '\n' ∉ w.toList) : 10 ∉ utf8 w := by
  have hw := lineFeed_notMem_utf8 h
  rwa [String.ofList_toList] at hw

lemma splitOn_lineBytes {lines : List String} (h : ∀ line ∈ lines, '\n' ∉ line.toList) :
    (lineBytes lines).splitOn 10 = lines.map utf8 ++ [[]] := by
  induction lines with
  | nil => rfl
  | cons line lines ih =>
    obtain ⟨hline, hlines⟩ := List.forall_mem_cons.mp h
    rw [lineBytes_cons, List.splitOn_append_cons_self_of_not_mem
      (lineFeed_notMem_utf8_of_notMem hline), ih hlines]
    rfl

/-- A line feed behind a text is all that is taken off, unless a carriage return stands there. -/
lemma line?_utf8_lineFeed {w : String} (h : '\r' ∉ w.toList) : line? (utf8 w ++ [10]) = some w := by
  have hlast : w.toList.getLast? ≠ some '\r' := fun hr => h (List.mem_of_getLast? hr)
  have hpiece : utf8 w ++ [10] = utf8 (w ++ "\n") := (utf8_append w "\n").symm
  rw [hpiece, line?_utf8, String.toList_append]
  change some (String.ofList (dropLineEnd (w.toList ++ ['\n']))) = _
  rw [dropLineEnd_lf hlast, String.ofList_toList]

lemma ofBytes_lineBytes {lines : List String} (hlf : ∀ line ∈ lines, '\n' ∉ line.toList)
    (hcr : ∀ line ∈ lines, '\r' ∉ line.toList) :
    Lines.ofBytes (lineBytes lines) = ⟨lines, none⟩ := by
  induction lines with
  | nil => rfl
  | cons line lines ih =>
    obtain ⟨hlf, hlfs⟩ := List.forall_mem_cons.mp hlf
    obtain ⟨hcr, hcrs⟩ := List.forall_mem_cons.mp hcr
    have hrest : Lines.ofPieces (pieces (lineBytes lines)) = ⟨lines, none⟩ := ih hlfs hcrs
    rw [Lines.ofBytes, lineBytes_cons, pieces_append (lineFeed_notMem_utf8_of_notMem hlf),
      Lines.ofPieces, line?_utf8_lineFeed hcr, hrest]

/-! ### Renderings -/

/-- The text of some closed term, from some number on. -/
def IsRendering (w : String) : Prop :=
  ∃ (a : Ty) (e : Expr [] a) (i : Counter), e.renderFrom i = .ok w

lemma IsRendering.allPrintable {w : String} (h : IsRendering w) : Text.AllPrintable w := by
  obtain ⟨a, e, i, he⟩ := h
  exact Expr.allPrintable_of_renderFrom he

/-- **A rendering is a line, and so transcripts split.** No character of it would be escaped in a
quoted text but for quotes and backslashes. -/
theorem transcript_splitOn :
    (∀ (a : Ty) (e : Expr [] a) (i : Counter) (w : String), e.renderFrom i = .ok w →
      (∀ c ∈ w.toList, c = '"' ∨ c = '\\' ∨ Text.Quoted.escape c = [c]) ∧
        '\n' ∉ w.toList ∧ '\r' ∉ w.toList ∧ '\t' ∉ w.toList) ∧
      ∀ (σ : Type) (stream : ByteStream σ) (bytes : σ → List UInt8) (capacity : Nat),
        stream.HasRoom bytes capacity → ∀ (lines : List String) (s : σ),
          (∀ line ∈ lines, IsRendering line) → bytes s = [] →
            (lineBytes lines).length ≤ capacity →
              ∃ t, Action.stateAfter s (stream.lines.attempts lines s) = t ∧
                ((∀ u, (stream.flush.perform u).1 = .ok ()) →
                  (lines.forM stream.lines.write).perform s = (.ok (), t)) ∧
                (bytes t).splitOn 10 = lines.map utf8 ++ [[]] ∧
                Lines.ofBytes (bytes t) = ⟨lines, none⟩ := by
  constructor
  · intro a e i w he
    have hw := Expr.allPrintable_of_renderFrom he
    exact ⟨hw, hw.notMem⟩
  · intro σ stream bytes capacity hroom lines s hlines hs hfit
    have hfit' : (bytes s).length + (lineBytes lines).length ≤ capacity := by
      rwa [hs, List.length_nil, Nat.zero_add]
    obtain ⟨t, hstate, ht, hforM⟩ := hroom.attempts hfit'
    rw [hs, List.nil_append] at ht
    have hfree line (h : line ∈ lines) := (hlines line h).allPrintable.notMem
    refine ⟨t, hstate, hforM, ?_, ?_⟩
    · rw [ht]
      exact splitOn_lineBytes fun line h => (hfree line h).1
    · rw [ht]
      exact ofBytes_lineBytes (fun line h => (hfree line h).1) fun line h => (hfree line h).2.1

/-- A literal with line ends and with marks that do not show, and an abstraction. -/
def awkwardRenderings : List String :=
  ["\"a\\nb\\r\\u\x7b301\x7d\\u\x7b2028\x7d\"", "(\\ a7 -> a7)"]

/-- There is room for both lines and for no byte more. -/
theorem transcript_splitOn_awkwardRenderings :
    (∀ w ∈ awkwardRenderings, '\n' ∉ w.toList ∧ '\r' ∉ w.toList ∧ '\t' ∉ w.toList) ∧
      ∃ t, (awkwardRenderings.forM (Bounds.stream ⟨some 37, .fail, none⟩).lines.write).perform
          .none = (.ok (), t) ∧
        t.bytes.splitOn 10 = awkwardRenderings.map utf8 ++ [[]] ∧
        Lines.ofBytes t.bytes = ⟨awkwardRenderings, none⟩ := by
  obtain ⟨hprintable, hsplit⟩ := transcript_splitOn
  have hrendering : ∀ w ∈ awkwardRenderings, IsRendering w := by
    refine List.forall_mem_cons.mpr ⟨?_, List.forall_mem_singleton.mpr ?_⟩
    · exact ⟨.string, .string "a\nb\r\u0301\u2028", .zero, by decide +kernel⟩
    · exact ⟨.fn .int .int, .lam (.var .here), ⟨7⟩, rfl⟩
  constructor
  · intro w hw
    obtain ⟨a, e, i, he⟩ := hrendering w hw
    exact (hprintable a e i w he).2
  · have hroom : (Bounds.stream ⟨some 37, .fail, none⟩).HasRoom Written.bytes 37 :=
      Bounds.hasRoom rfl
    obtain ⟨t, -, hforM, hbytes, hlines⟩ :=
      hsplit Written _ _ _ hroom awkwardRenderings .none hrendering rfl (by decide +kernel)
    exact ⟨t, hforM fun w => by rw [Bounds.perform_flush]; rfl, hbytes, hlines⟩

end TypedLambda
