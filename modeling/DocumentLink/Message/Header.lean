import DocumentLink.Field

/-! Messages.  Each starts with four numbers: its length, which counts the header, the id of the
request, the id of the request it answers, and an opcode that tells what the rest holds.  A string
of messages is cut by their lengths. -/

namespace DocumentLink.Message

/-- Where the numbers of a header stand, and its size. -/
def lengthAt : Nat := 0
def requestIdAt : Nat := 4
def responseToAt : Nat := 8
def opcodeAt : Nat := 12
def headerSize : Nat := 16

def replyOpcode : Int32 := 1
def insertOpcode : Int32 := 2002
def queryOpcode : Int32 := 2004

/-- A header whose numbers are zero except for the opcode. -/
def blankHeader (opcode : Int32) : Bytes :=
  Bytes.ofInt32 0 ++ Bytes.ofInt32 0 ++ Bytes.ofInt32 0 ++ Bytes.ofInt32 opcode

/-- A message without ids: a header that gives the length of the whole, and the body. -/
def assemble (opcode : Int32) (body : Bytes) : Bytes :=
  Bytes.ofInt32 (Int32.ofNat (headerSize + body.length)) ++ Bytes.ofInt32 0 ++ Bytes.ofInt32 0 ++
    Bytes.ofInt32 opcode ++ body

@[simp] theorem length_blankHeader (opcode : Int32) :
    (blankHeader opcode).length = headerSize := by
  simp [blankHeader, headerSize]

@[simp] theorem length_assemble (opcode : Int32) (body : Bytes) :
    (assemble opcode body).length = headerSize + body.length := by
  simp only [assemble, headerSize, List.length_append, Bytes.length_ofInt32]

/-- Cuts a string of messages by the lengths that they declare.  What is left over, because a
length is too small for a header or larger than what there is, is no message. -/
def cut (b : Bytes) : List Bytes × Bytes :=
  match Bytes.int32At? b lengthAt with
  | none => ([], b)
  | some n =>
    if n.toInt < headerSize ∨ b.length < n.toInt then ([], b)
    else
      let (messages, rest) := cut (b.drop n.toInt.toNat)
      (b.take n.toInt.toNat :: messages, rest)
termination_by b.length
decreasing_by
  rename_i h
  simp only [headerSize] at h
  simp only [List.length_drop]
  omega

end DocumentLink.Message
