import TypedLambda.Output.ByteStream

/-!
A stream with bounds: it has room for so many bytes in all, fails in one of two ways when there
is no room left, and may refuse to be flushed after a while.
-/

namespace TypedLambda

/-- What a bounded stream has seen: its bytes, and how many they were at each flush. -/
structure Written where
  bytes : List UInt8
  flushedAt : List Nat
  deriving DecidableEq, Repr

def Written.none : Written := ⟨[], []⟩

/-- What becomes of an offer when there is no room at all. -/
inductive WhenFull where
  | fail
  | takeNothing
  deriving DecidableEq, Repr

structure Bounds where
  /-- Room for bytes in all; without it there is always room. -/
  capacity : Option Nat
  whenFull : WhenFull
  /-- The first flush that fails, counted from one; all later ones fail too. -/
  failFlush : Option Nat
  deriving DecidableEq, Repr

namespace Bounds

/-- How many of `offered` bytes are taken by a stream that holds `held`. -/
def taken (b : Bounds) (held offered : Nat) : Nat :=
  match b.capacity with
  | some capacity => min (capacity - held) offered
  | none => offered

/-- Whether the last of so many flushes fails. -/
def refuses (b : Bounds) (flushes : Nat) : Bool :=
  match b.failFlush with
  | some k => k ≤ flushes
  | none => false

/-- Takes what fits. A flush is recorded before it is refused. -/
def stream (b : Bounds) : ByteStream Written where
  write bytes := do
    let w ← get
    let n := b.taken w.bytes.length bytes.length
    if n = 0 ∧ bytes ≠ [] ∧ b.whenFull = .fail then
      throw .closed
    else
      set { w with bytes := w.bytes ++ bytes.take n }
      return n
  flush := do
    let w ← get
    let flushedAt := w.flushedAt ++ [w.bytes.length]
    set { w with flushedAt }
    if b.refuses flushedAt.length then throw .flushRefused

theorem taken_le (b : Bounds) (held offered : Nat) : b.taken held offered ≤ offered := by
  unfold taken
  split
  · exact Nat.min_le_right _ _
  · exact Nat.le_refl _

theorem perform_write (b : Bounds) (bytes : List UInt8) (w : Written) :
    (b.stream.write bytes).perform w =
      if b.taken w.bytes.length bytes.length = 0 ∧ bytes ≠ [] ∧ b.whenFull = .fail then
        (.error .closed, w)
      else
        (.ok (b.taken w.bytes.length bytes.length),
          { w with bytes := w.bytes ++ bytes.take (b.taken w.bytes.length bytes.length) }) := by
  unfold stream
  simp only [Action.perform_bind, Action.perform_get]
  split <;> rfl

theorem perform_flush (b : Bounds) (w : Written) :
    b.stream.flush.perform w =
      (if b.refuses (w.flushedAt.length + 1) then .error .flushRefused else .ok (),
        { w with flushedAt := w.flushedAt ++ [w.bytes.length] }) := by
  unfold stream
  simp only [Action.perform_bind, Action.perform_get, Action.perform_set, List.length_append,
    List.length_singleton]
  split <;> rfl

end Bounds

end TypedLambda
