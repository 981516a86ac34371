import DocumentLink.Error

/-! Where replies are read from: the bytes that have arrived and what comes after them.  Reading
either has all the bytes it asks for, or fails and uses up what there was, or waits and leaves the
source as it is. -/

namespace DocumentLink

/-- What comes after the bytes that have arrived. -/
inductive Ending where
  /-- More may arrive. -/
  | live
  /-- Nothing more will. -/
  | ended
  | failing (e : IoError)
  deriving DecidableEq

structure Source where
  bytes : Bytes
  ending : Ending

/-- How an attempt to read comes out. -/
inductive Reading (α : Type) where
  | done (a : α)
  | failed (e : TransportError)
  /-- It depends on bytes that have not arrived. -/
  | waiting

namespace Source

/-- The next `n` bytes. -/
def take (s : Source) (n : Nat) : Reading Bytes × Source :=
  let front := s.bytes.take n
  if front.length = n then (.done front, { s with bytes := s.bytes.drop n })
  else
    match s.ending with
    | .live => (.waiting, s)
    | .ended => (.failed (.io .unexpectedEnd), { s with bytes := [] })
    | .failing e => (.failed (.io e), { s with bytes := [] })

/-- Reading never adds bytes, and what is read is taken off the front. -/
theorem length_take_le (s : Source) (n : Nat) :
    (s.take n).2.bytes.length ≤ s.bytes.length := by
  simp only [take]
  split
  · simp
  · split <;> simp

theorem eq_of_take_done {s s' : Source} {n : Nat} {b : Bytes}
    (h : s.take n = (.done b, s')) :
    b.length = n ∧ s.bytes = b ++ s'.bytes ∧ s'.ending = s.ending := by
  simp only [take] at h
  split at h
  next hFront =>
    cases h
    exact ⟨hFront, (List.take_append_drop n s.bytes).symm, rfl⟩
  next => split at h <;> cases h

/-- More bytes arrive, unless the source has come to its end. -/
def append (s : Source) (b : Bytes) : Source :=
  if s.ending = .live then { s with bytes := s.bytes ++ b } else s

/-- The source comes to its end, unless it has already. -/
def close (s : Source) (ending : Ending) : Source :=
  if s.ending = .live then { s with ending } else s

end Source

end DocumentLink
