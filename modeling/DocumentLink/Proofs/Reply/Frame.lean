import DocumentLink.Proofs.Delimited
import DocumentLink.Reply.Frame

/-! What reading takes off a source.  Each reader succeeds exactly when the bytes at the front of
the source have the form it asks for: any number of bytes, the fixed fields of a reply, a document
that gives its own length, and a whole reply. -/

namespace DocumentLink

theorem Source.take_eq_done_iff {s s' : Source} {n : Nat} {b : Bytes} :
    s.take n = (.done b, s') ↔ b.length = n ∧ s = ⟨b ++ s'.bytes, s'.ending⟩ := by
  constructor
  · intro h
    obtain ⟨hLength, hBytes, hEnding⟩ := Source.eq_of_take_done h
    refine ⟨hLength, ?_⟩
    cases s
    simp only [Source.mk.injEq]
    exact ⟨hBytes, hEnding.symm⟩
  · rintro ⟨rfl, rfl⟩
    simp [take]

theorem Source.take_of_le {s : Source} {n : Nat} (h : n ≤ s.bytes.length) :
    s.take n = (.done (s.bytes.take n), ⟨s.bytes.drop n, s.ending⟩) := by
  rw [Source.take_eq_done_iff]
  exact ⟨by rw [List.length_take, Nat.min_eq_left h], by rw [List.take_append_drop]⟩

namespace ReplyFrame

/-! ### The fixed fields -/

/-- The 36 bytes before the documents of a reply: message header and fixed fields. -/
def fixedFields (length : Int32) (requestId : Bytes) (responseTo : UInt32) (opcode : Int32)
    (header : ReplyHeader) : Bytes :=
  Bytes.ofInt32 length ++ requestId ++ Bytes.ofUInt32 responseTo ++ Bytes.ofInt32 opcode ++
    header.encode

/-- Any 36 bytes are the fixed fields of some reply. -/
theorem exists_fixedFields {b : Bytes} (h : b.length = ReplyHeader.prefixSize) :
    ∃ requestId : Bytes, requestId.length = 4 ∧
      b = fixedFields (Bytes.toInt32 (b.take 4)) requestId
        (Bytes.toUInt32 ((b.drop 8).take 4)) (Bytes.toInt32 ((b.drop 12).take 4))
        (ReplyHeader.ofPrefix b) := by
  have hSize : b.length = 36 := h
  have hField (pos width : Nat) (hEnd : pos + width ≤ 36) :
      ((b.drop pos).take width).length = width :=
    Bytes.length_take_drop (hSize.symm ▸ hEnd)
  refine ⟨(b.drop 4).take 4, hField 4 4 (by decide), ?_⟩
  have hStart : ((b.take 4).length = 4) := hField 0 4 (by decide)
  unfold fixedFields ReplyHeader.encode ReplyHeader.ofPrefix
  rw [Bytes.ofInt32_toInt32 hStart, Bytes.ofUInt32_toUInt32 (hField 8 4 (by decide)),
    Bytes.ofInt32_toInt32 (hField 12 4 (by decide)),
    Bytes.ofUInt32_toUInt32 (hField 16 4 (by decide)),
    Bytes.ofInt64_toInt64 (hField 20 8 (by decide)),
    Bytes.ofInt32_toInt32 (hField 28 4 (by decide)),
    Bytes.ofInt32_toInt32 (hField 32 4 (by decide))]
  have hSplit (pos width : Nat) : b.drop pos = (b.drop pos).take width ++ b.drop (pos + width) := by
    rw [← List.drop_drop, List.take_append_drop]
  have hEnd : b.drop 36 = [] := List.drop_eq_nil_of_le (by omega)
  conv =>
    lhs
    rw [← List.take_append_drop 4 b, hSplit 4 4, hSplit 8 4, hSplit 12 4, hSplit 16 4,
      hSplit 20 8, hSplit 28 4, hSplit 32 4, hEnd, List.append_nil]
  simp only [List.append_assoc]

@[simp] theorem length_fixedFields (length : Int32) {requestId : Bytes}
    (h : requestId.length = 4) (responseTo : UInt32) (opcode : Int32) (header : ReplyHeader) :
    (fixedFields length requestId responseTo opcode header).length = ReplyHeader.prefixSize := by
  simp [fixedFields, ReplyHeader.encode, h, ReplyHeader.prefixSize, Message.headerSize]

theorem take_drop_append {a f rest : Bytes} {pos width : Nat} (ha : a.length = pos)
    (hf : f.length = width) : ((a ++ (f ++ rest)).drop pos).take width = f := by
  rw [← ha, List.drop_left, ← hf, List.take_left]

theorem ofPrefix_fixedFields (length : Int32) {requestId : Bytes} (h : requestId.length = 4)
    (responseTo : UInt32) (opcode : Int32) (header : ReplyHeader) :
    ReplyHeader.ofPrefix (fixedFields length requestId responseTo opcode header) = header := by
  let front := Bytes.ofInt32 length ++ requestId ++ Bytes.ofUInt32 responseTo ++
    Bytes.ofInt32 opcode
  have hFront : front.length = 16 := by simp [front, h]
  have hFields : fixedFields length requestId responseTo opcode header = front ++
      (Bytes.ofUInt32 header.flags ++ (Bytes.ofInt64 header.cursorId ++
        (Bytes.ofInt32 header.startingFrom ++ (Bytes.ofInt32 header.documentCount ++ [])))) := by
    simp only [fixedFields, ReplyHeader.encode, front, List.append_assoc, List.append_nil]
  have hFlags : (front ++ Bytes.ofUInt32 header.flags).length = 20 := by simp [hFront]
  have hCursor : (front ++ Bytes.ofUInt32 header.flags ++ Bytes.ofInt64 header.cursorId).length =
      28 := by simp [hFront]
  have hStarting : (front ++ Bytes.ofUInt32 header.flags ++ Bytes.ofInt64 header.cursorId ++
      Bytes.ofInt32 header.startingFrom).length = 32 := by simp [hFront]
  unfold ReplyHeader.ofPrefix
  rw [hFields, take_drop_append hFront (Bytes.length_ofUInt32 _)]
  rw [← List.append_assoc, take_drop_append hFlags (Bytes.length_ofInt64 _)]
  rw [← List.append_assoc, take_drop_append hCursor (Bytes.length_ofInt32 _)]
  rw [← List.append_assoc, take_drop_append hStarting (Bytes.length_ofInt32 _)]
  simp

theorem take_fixedFields (length : Int32) (requestId : Bytes) (responseTo : UInt32)
    (opcode : Int32) (header : ReplyHeader) :
    (fixedFields length requestId responseTo opcode header).take 4 = Bytes.ofInt32 length := by
  simp only [fixedFields, List.append_assoc]
  exact List.take_left' (Bytes.length_ofInt32 length)

/-- The fixed fields are read in the order opcode, length, number of documents. -/
theorem ofPrefix_eq (maxMessageSize : Nat) (length : Int32) {requestId : Bytes}
    (h : requestId.length = 4) (responseTo : UInt32) (opcode : Int32) (header : ReplyHeader) :
    ofPrefix maxMessageSize (fixedFields length requestId responseTo opcode header) =
      if opcode ≠ Message.replyOpcode then .error (.unexpectedOpcode opcode)
      else if length.toInt < ReplyHeader.prefixSize then .error (.messageTooShort length)
      else if maxMessageSize < length.toInt then .error (.messageTooLarge length maxMessageSize)
      else if header.documentCount < 0 then .error (.negativeDocumentCount header.documentCount)
      else .ok ⟨responseTo, header, length.toInt.toNat, ReplyHeader.prefixSize⟩ := by
  have hFields : fixedFields length requestId responseTo opcode header =
      [] ++ (Bytes.ofInt32 length ++ (requestId ++ (Bytes.ofUInt32 responseTo ++
        (Bytes.ofInt32 opcode ++ header.encode)))) := by
    simp only [fixedFields, List.append_assoc, List.nil_append]
  have hTo : ((fixedFields length requestId responseTo opcode header).drop 8).take 4 =
      Bytes.ofUInt32 responseTo := by
    rw [hFields, ← List.append_assoc, ← List.append_assoc]
    exact take_drop_append (by simp [h]) (Bytes.length_ofUInt32 _)
  have hOpcode : ((fixedFields length requestId responseTo opcode header).drop 12).take 4 =
      Bytes.ofInt32 opcode := by
    rw [hFields, ← List.append_assoc, ← List.append_assoc, ← List.append_assoc]
    exact take_drop_append (by simp [h]) (Bytes.length_ofInt32 _)
  simp only [ofPrefix, Message.opcodeAt, Message.responseToAt, take_fixedFields, hTo, hOpcode,
    Bytes.toInt32_ofInt32, Bytes.toUInt32_ofUInt32, ofPrefix_fixedFields length h]

theorem ite_error_eq_ok_iff {ε α : Type} {p : Prop} [Decidable p] {e : ε} {x : Except ε α} {a : α} :
    (if p then .error e else x) = .ok a ↔ ¬p ∧ x = .ok a := by
  by_cases h : p <;> simp [h]

/-- A frame comes from fixed fields that the size limit admits. -/
theorem read_eq_done_iff {maxMessageSize : Nat} {s s' : Source} {frame : ReplyFrame} :
    read maxMessageSize s = (.done frame, s') ↔ ∃ (length : Int32) (requestId : Bytes),
      requestId.length = 4 ∧
      s = ⟨fixedFields length requestId frame.responseTo Message.replyOpcode frame.header ++
        s'.bytes, s'.ending⟩ ∧
      ReplyHeader.prefixSize ≤ frame.length ∧ frame.length ≤ maxMessageSize ∧
      length.toInt = frame.length ∧ 0 ≤ frame.header.documentCount.toInt ∧
      frame.consumed = ReplyHeader.prefixSize := by
  constructor
  · intro h
    unfold read at h
    split at h
    next front rest hTake =>
      obtain ⟨hSize, hSource⟩ := Source.take_eq_done_iff.mp hTake
      obtain ⟨requestId, hId, hFront⟩ := exists_fixedFields hSize
      split at h
      next hOk =>
        cases h
        rw [hFront, ofPrefix_eq _ _ hId] at hOk
        simp only [ite_error_eq_ok_iff, ne_eq, Decidable.not_not, Int.not_lt,
          Int32.lt_iff_toInt_lt, Int32.toInt_zero, Except.ok.injEq] at hOk
        obtain ⟨hOpcode, hShort, hLarge, hCount, rfl⟩ := hOk
        refine ⟨Bytes.toInt32 (front.take 4), requestId, hId, ?_, ?_, ?_, ?_, hCount, rfl⟩
        · rw [hSource, ← hOpcode, ← hFront]
        all_goals
          dsimp only
          omega
      next => cases h
    next => cases h
    next => cases h
  · rintro ⟨length, requestId, hId, rfl, hShort, hLarge, hLength, hCount, hConsumed⟩
    obtain ⟨responseTo, header, length', consumed⟩ := frame
    dsimp only at *
    have hTake := Source.take_eq_done_iff.mpr
      ⟨length_fixedFields length hId responseTo Message.replyOpcode header,
        rfl (a := (⟨fixedFields length requestId responseTo Message.replyOpcode header ++ s'.bytes,
          s'.ending⟩ : Source))⟩
    have hNat : length.toInt.toNat = length' := by omega
    rw [read, hTake]
    dsimp only
    rw [ofPrefix_eq _ _ hId, if_neg (by simp), if_neg (by omega), if_neg (by omega),
      if_neg (by rw [Int32.lt_iff_toInt_lt, Int32.toInt_zero]; omega), hNat, hConsumed]

/-! ### Documents -/

/-- A document is read exactly when it gives its own length and fits into what is left of its
reply.  It is counted and nothing else of the frame changes. -/
theorem readDocument_eq_done_iff {frame next : ReplyFrame} {s s' : Source} {data : Bytes} :
    frame.readDocument s = (.done (data, next), s') ↔
      SelfDelimiting 5 data ∧ data.length ≤ frame.remaining ∧ s = ⟨data ++ s'.bytes, s'.ending⟩ ∧
        next = { frame with consumed := frame.consumed + data.length } := by
  constructor
  · intro h
    unfold readDocument at h
    split at h
    · cases h
    next hRemaining =>
      split at h
      next front afterFront hFront =>
        obtain ⟨hFive, rfl⟩ := Source.take_eq_done_iff.mp hFront
        dsimp only at h
        split at h
        · cases h
        next hShort =>
          split at h
          · cases h
          next hOverrun =>
            split at h
            next back rest hBack =>
              obtain ⟨hLength, rfl⟩ := Source.take_eq_done_iff.mp hBack
              cases h
              have hTake : (front ++ back).take 4 = front.take 4 :=
                List.take_append_of_le_length (by rw [hFive]; decide)
              have hWhole : ((front ++ back).length : Int) =
                  (Bytes.toInt32 (front.take 4)).toInt := by
                rw [List.length_append, hFive, hLength]
                simp only [minDocumentSize] at hShort ⊢
                omega
              have hLeast : 5 ≤ (front ++ back).length := by
                rw [List.length_append, hFive]
                exact Nat.le_add_right 5 _
              refine ⟨⟨hLeast, by rw [hTake, hWhole]⟩, ?_, ?_, ?_⟩
              · omega
              · rw [List.append_assoc]
              · have hNat :
                    (front ++ back).length = (Bytes.toInt32 (front.take 4)).toInt.toNat := by
                  omega
                rw [hNat]
            next => cases h
            next => cases h
      next => cases h
      next => cases h
  · rintro ⟨⟨hSize, hLength⟩, hFits, rfl, rfl⟩
    have hFive : minDocumentSize = 5 := rfl
    have hFront : (data.take minDocumentSize).length = minDocumentSize := by
      rw [List.length_take]
      exact Nat.min_eq_left hSize
    have hHead : Source.take ⟨data ++ s'.bytes, s'.ending⟩ minDocumentSize =
        (.done (data.take minDocumentSize),
          ⟨data.drop minDocumentSize ++ s'.bytes, s'.ending⟩) := by
      rw [Source.take_eq_done_iff, ← List.append_assoc, List.take_append_drop]
      exact ⟨hFront, rfl⟩
    have hDeclared : Bytes.toInt32 ((data.take minDocumentSize).take 4) =
        Bytes.toInt32 (data.take 4) := by
      rw [List.take_take, hFive]
      rfl
    have hTail : Source.take ⟨data.drop minDocumentSize ++ s'.bytes, s'.ending⟩
        ((Bytes.toInt32 (data.take 4)).toInt.toNat - minDocumentSize) =
        (.done (data.drop minDocumentSize), s') := by
      rw [Source.take_eq_done_iff, List.length_drop]
      exact ⟨by omega, rfl⟩
    unfold readDocument
    rw [if_neg (by omega), hHead]
    dsimp only
    rw [hDeclared, if_neg (by omega), if_neg (by omega), hTail]
    dsimp only
    rw [List.take_append_drop, hLength]
    rfl

theorem header_of_readDocument {frame next : ReplyFrame} {s s' : Source} {data : Bytes}
    (h : frame.readDocument s = (.done (data, next), s')) : next.header = frame.header := by
  obtain ⟨_, _, _, rfl⟩ := readDocument_eq_done_iff.mp h
  rfl

theorem finish_eq_ok_iff {frame : ReplyFrame} :
    frame.finish = .ok () ↔ frame.consumed = frame.length := by
  unfold finish
  split <;> simp_all

end ReplyFrame

end DocumentLink
