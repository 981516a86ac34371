import DocumentLink.Message.Buffer

/-! Work on a buffer by positions that are 64-bit words.  Where a field ends is the sum of such
words, and it may be too large for one.  Work that would touch a byte outside of the buffer breaks
off there, and what it did to the buffer until then remains. -/

namespace DocumentLink

/-- What becomes of a sum that is too large for a word. -/
inductive Overflow where
  /-- It starts again from zero. -/
  | wraps
  /-- The work breaks off. -/
  | traps
  deriving DecidableEq

/-- Work that may break off.  A buffer is left either way. -/
abbrev Editing := OptionT (StateM Bytes)

namespace Editing

/-- What the work comes to, if it does not break off, and the buffer that it leaves. -/
def on {α : Type} (work : Editing α) (b : Bytes) : Option α × Bytes :=
  Id.run (StateT.run (OptionT.run work) b)

def sum (overflow : Overflow) (x y : UInt64) : Editing UInt64 :=
  match overflow with
  | .wraps => pure (x + y)
  | .traps => if x.toNat + y.toNat < UInt64.size then pure (x + y) else failure

/-- The bytes of the buffer from `pos` on. -/
def field (overflow : Overflow) (pos width : UInt64) : Editing Bytes := do
  let stop ← sum overflow pos width
  ((← get).slice? pos.toNat stop.toNat).getM

/-- A copy of a field into as many bytes as a number has. -/
def copy (overflow : Overflow) (pos width : UInt64) : Editing Bytes := do
  let place ← field overflow pos width
  if place.length = width.toNat then pure place else failure

def getInt32 (overflow : Overflow) (pos : UInt64) : Editing Int32 :=
  Bytes.toInt32 <$> copy overflow pos 4

def getInt64 (overflow : Overflow) (pos : UInt64) : Editing Int64 :=
  Bytes.toInt64 <$> copy overflow pos 8

/-- Overwrites a field by the bytes of a number, of which there have to be as many. -/
def setInt32 (overflow : Overflow) (pos : UInt64) (n : Int32) : Editing Unit := do
  let place ← field overflow pos 4
  let new := Bytes.ofInt32 n
  if place.length = new.length then modify (·.patch pos.toNat new) else failure

/-- Fills the buffer up by a header of zeros, and sets the opcode in it. -/
def addHeader (overflow : Overflow) (opcode : Int32) : Editing Unit := do
  let start := UInt64.ofNat (← get).length
  let size ← sum overflow start (UInt64.ofNat Message.headerSize)
  modify (·.resize size.toNat)
  let pos ← sum overflow start (UInt64.ofNat Message.opcodeAt)
  setInt32 overflow pos opcode

def addInt32 (n : Int32) : Editing Unit := modify (· ++ Bytes.ofInt32 n)

def addTerminated (s : String) : Editing Unit := do
  modify (· ++ Field.utf8 s)
  modify (· ++ [0])

end Editing

end DocumentLink
