import TypedLambda.Representation

/-!
The representation of terms by the values they denote: a lambda is a function of the host,
and application applies it. Sums wrap around in 64 bits.
-/

namespace TypedLambda

/-- A length as a number of the language. A length that does not fit becomes the greatest
number. -/
def saturate (n : Nat) : Int64 :=
  Int64.ofNat (min n 0x7fffffffffffffff)

theorem saturate_toInt (n : Nat) : (saturate n).toInt = min n 0x7fffffffffffffff := by
  unfold saturate
  rw [Int64.toInt_ofNat_of_lt (by omega)]

instance : Representation Ty.Value where
  apply f x := f x
  lambda body := body
  int n := n
  add l r := l + r
  nil := []
  cons h t := h :: t
  map f xs := List.map f xs
  bool b := b
  ite c p n := if c then p else n
  not x := !x
  string s := s
  length h xs := saturate (h.count xs)
  equals h l r := h.beq l r

end TypedLambda
