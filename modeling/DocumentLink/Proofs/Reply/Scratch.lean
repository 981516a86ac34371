import DocumentLink.Proofs.Bytes
import DocumentLink.Proofs.Reply.Frame
import DocumentLink.Reply.Scratch

/-! Reading through a kept buffer comes to the same as reading without one, whatever the buffer held
before.  No cut and no write falls outside of the buffer, and no count falls below zero, as long as
no frame has had more read than it has. -/

namespace DocumentLink

theorem Source.fill?_of_le {buffer : Bytes} {start stop : Nat} (s : Source) (hStart : start ≤ stop)
    (hStop : stop ≤ buffer.length) : s.fill? buffer start stop =
      match s.take (stop - start) with
      | (.done b, rest) => some (.done (), buffer.patch start b, rest)
      | (.failed e, rest) => some (.failed e, buffer.patch start s.bytes, rest)
      | (.waiting, _) => some (.waiting, buffer, s) := by
  have hPlace : ((buffer.take stop).drop start).length = stop - start := by
    rw [List.length_drop, List.length_take]
    omega
  rw [fill?, Bytes.slice?_of_le hStart hStop, ← hPlace]
  rfl

/-! ### Frames -/

namespace ReplyFrame

theorem ofPrefix?_eq {b : Bytes} (h : b.length = ReplyHeader.prefixSize) (maxMessageSize : Nat) :
    ofPrefix? maxMessageSize b = some (ofPrefix maxMessageSize b) := by
  have hSize : b.length = 36 := h
  have hHeader : ReplyHeader.ofPrefix? b = some (ReplyHeader.ofPrefix b) := by
    rw [ReplyHeader.ofPrefix?, Bytes.int32At?_of_le (by omega), Bytes.int64At?_of_le (by omega),
      Bytes.int32At?_of_le (by omega), Bytes.int32At?_of_le (by omega)]
    simp only [Option.bind_eq_bind, Option.bind_some, Bytes.toUInt32_toInt32]
    rfl
  have hLength : b.int32At? Message.lengthAt = some (Bytes.toInt32 (b.take 4)) :=
    Bytes.int32At?_of_le (by rw [hSize]; decide)
  have hTo : b.int32At? Message.responseToAt = _ :=
    Bytes.int32At?_of_le (by rw [hSize]; decide)
  have hOpcode : b.int32At? Message.opcodeAt = _ :=
    Bytes.int32At?_of_le (by rw [hSize]; decide)
  simp only [ofPrefix?, ofPrefix, hLength, hTo, hOpcode, hHeader, Option.bind_eq_bind,
    Option.bind_some, Bytes.toUInt32_toInt32]
  repeat' split
  all_goals rfl

theorem read?_eq (maxMessageSize : Nat) (s : Source) :
    read? maxMessageSize s = some (read maxMessageSize s) := by
  have hSize : (List.replicate ReplyHeader.prefixSize (0 : UInt8)).length =
      ReplyHeader.prefixSize := List.length_replicate
  rw [read?, s.fill?_of_le (Nat.zero_le _) (Nat.le_of_eq hSize.symm), read, Nat.sub_zero]
  rcases hTake : s.take ReplyHeader.prefixSize with ⟨front | e | _, rest⟩
  · have hFront : front.length = ReplyHeader.prefixSize := (Source.take_eq_done_iff.mp hTake).1
    have hWhole : Bytes.patch (List.replicate ReplyHeader.prefixSize 0) 0 front = front := by
      rw [Bytes.patch_zero, List.drop_eq_nil_of_le (Nat.le_of_eq (hSize.trans hFront.symm)),
        List.append_nil]
    simp only [Option.bind_eq_bind, Option.bind_some, hWhole, ofPrefix?_eq hFront]
    cases ofPrefix maxMessageSize front <;> rfl
  · rfl
  · rfl

theorem readThrough?_eq {frame : ReplyFrame} (h : frame.consumed ≤ frame.length) (scratch : Bytes)
    (s : Source) : ∃ scratch', frame.readThrough? scratch s =
      some ((frame.readDocument s).1, scratch', (frame.readDocument s).2) := by
  have hRemaining : frame.remaining? = some frame.remaining := if_pos h
  rw [readThrough?, hRemaining, readDocument]
  simp only [Option.bind_eq_bind, Option.bind_some]
  split
  · exact ⟨scratch, rfl⟩
  · generalize hBuffer : (if scratch.length < minDocumentSize then scratch.resize minDocumentSize
      else scratch) = buffer
    have hLeast : minDocumentSize ≤ buffer.length := by
      rw [← hBuffer]
      split
      · exact Nat.le_of_eq (Bytes.length_resize _ _).symm
      · omega
    rw [s.fill?_of_le (Nat.zero_le _) hLeast, Nat.sub_zero]
    rcases hTake : s.take minDocumentSize with ⟨front | e | _, afterFront⟩
    · have hFive : front.length = minDocumentSize := (Source.take_eq_done_iff.mp hTake).1
      have hFilled : buffer.patch 0 front = front ++ buffer.drop front.length :=
        Bytes.patch_zero buffer front
      have hDeclared : (buffer.patch 0 front).int32At? 0 = some (Bytes.toInt32 (front.take 4)) := by
        rw [hFilled, Bytes.int32At?_of_le, List.drop_zero, List.take_append_of_le_length]
        · rw [hFive]
          decide
        · rw [List.length_append, hFive]
          exact Nat.le_trans (by decide) (Nat.le_add_right _ _)
      simp only [Option.bind_some, hDeclared]
      split
      · exact ⟨_, rfl⟩
      next hLong =>
        split
        · exact ⟨_, rfl⟩
        · generalize hLength : (Bytes.toInt32 (front.take 4)).toInt.toNat = length
          have hEnough : minDocumentSize ≤ length := by omega
          rw [Bytes.length_resize, afterFront.fill?_of_le hEnough
            (Nat.le_of_eq (Bytes.length_resize _ _).symm)]
          rcases hRest : afterFront.take (length - minDocumentSize) with ⟨back | e | _, rest⟩
          · have hBack : back.length = length - minDocumentSize :=
              (Source.take_eq_done_iff.mp hRest).1
            obtain rfl : length = front.length + back.length := by omega
            have hWhole := Bytes.patch_resize_patch buffer front back
            rw [← hFive] at hEnough ⊢
            simp only [Option.bind_some, hWhole]
            rw [← List.length_append, Bytes.slice?_of_le (Nat.zero_le _) (Nat.le_refl _),
              List.take_length, List.drop_zero]
            exact ⟨_, rfl⟩
          · exact ⟨_, rfl⟩
          · exact ⟨_, rfl⟩
    · exact ⟨_, rfl⟩
    · exact ⟨_, rfl⟩

end ReplyFrame

/-! ### Readers -/

theorem Reader.getElem?_of_frame? {r : Reader} {index : Option Nat} {i : Nat} {frame : ReplyFrame}
    (h : r.frame? index = some (i, frame)) : r.frames[i]? = some frame := by
  rw [frame?, Option.map_eq_some_iff] at h
  obtain ⟨_, hGet, hSame⟩ := h
  cases hSame
  exact hGet

namespace BufferedReader

theorem call?_eq {r : BufferedReader} (h : ∀ frame ∈ r.reader.frames, frame.consumed ≤ frame.length)
    (c : Reader.Call) : ∃ scratch, r.call? c =
      some ((r.reader.call c).1, { reader := (r.reader.call c).2, scratch }) := by
  cases c with
  | frame =>
    simp only [call?, ReplyFrame.read?_eq, Reader.call, Option.bind_eq_bind, Option.bind_some]
    rcases ReplyFrame.read r.reader.maxMessageSize r.reader.source with ⟨frame | e | _, source⟩
    · exact ⟨_, rfl⟩
    · exact ⟨_, rfl⟩
    · exact ⟨_, rfl⟩
  | document index =>
    rw [call?, Reader.call]
    cases hMeant : r.reader.frame? index with
    | none => exact ⟨_, rfl⟩
    | some found =>
      obtain ⟨i, frame⟩ := found
      have hFound := List.mem_of_getElem? (Reader.getElem?_of_frame? hMeant)
      obtain ⟨scratch, hRead⟩ :=
        ReplyFrame.readThrough?_eq (h frame hFound) r.scratch r.reader.source
      simp only [hRead, Option.bind_eq_bind, Option.bind_some]
      rcases frame.readDocument r.reader.source with ⟨⟨data, next⟩ | e | _, source⟩
      · exact ⟨_, rfl⟩
      · exact ⟨_, rfl⟩
      · exact ⟨_, rfl⟩
  | finish index =>
    refine ⟨r.scratch, ?_⟩
    have hSame : (r.reader.call (.finish index)).2 = r.reader := by
      simp only [Reader.call]
      split
      · rfl
      · split <;> rfl
    rw [call?, hSame]

end BufferedReader

end DocumentLink
