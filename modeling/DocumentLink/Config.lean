/-! What a caller can set about the connections it opens. -/

namespace DocumentLink

structure Config where
  /-- A reply that declares more bytes is taken for a corrupted stream. -/
  maxMessageSize : Nat := 48000000
  /-- Room set aside for documents before the first one is read. -/
  scratchCapacity : Nat := 256
  /-- Small writes are sent at once. -/
  nodelay : Bool := true
  /-- How many milliseconds a write may take; without a bound it may take for ever. -/
  writeTimeout : Option Nat := none

end DocumentLink
