import DocumentLink.Proofs.Reply.Scratch

/-! What a reader gives its caller, in whatever order it is asked.  `Called` lists once how a call
comes out; no frame ever has more read than it has, and the documents of a frame account for what
was read of it. -/

namespace DocumentLink

/-! ### What is drawn from a source -/

theorem Source.take_draws (s : Source) (n : Nat) :
    ∃ drawn, s.bytes = drawn ++ (s.take n).2.bytes ∧ drawn.length ≤ n := by
  rcases hTake : s.take n with ⟨b | e | _, rest⟩
  · obtain ⟨hLength, hBytes, _⟩ := Source.eq_of_take_done hTake
    exact ⟨b, hBytes, Nat.le_of_eq hLength⟩
  · unfold take at hTake
    dsimp only at hTake
    split at hTake
    · cases hTake
    next hShort =>
      have hFew : s.bytes.length ≤ n := by
        rw [List.length_take] at hShort
        omega
      refine ⟨s.bytes, ?_, hFew⟩
      split at hTake <;> cases hTake <;> exact (List.append_nil _).symm
  · unfold take at hTake
    dsimp only at hTake
    refine ⟨[], ?_, Nat.zero_le n⟩
    split at hTake
    · cases hTake
    · split at hTake <;> cases hTake
      rfl

namespace ReplyFrame

theorem read_draws (maxMessageSize : Nat) (s : Source) :
    ∃ drawn, s.bytes = drawn ++ (read maxMessageSize s).2.bytes := by
  obtain ⟨drawn, hDrawn, _⟩ := s.take_draws ReplyHeader.prefixSize
  rw [read]
  split
  next hTake =>
    rw [hTake] at hDrawn
    split <;> exact ⟨drawn, hDrawn⟩
  next hTake =>
    rw [hTake] at hDrawn
    exact ⟨drawn, hDrawn⟩
  next => exact ⟨[], rfl⟩

/-- However the reading of a document comes out, it takes no more off the source than its reply has
left. -/
theorem readDocument_draws (frame : ReplyFrame) (s : Source) :
    ∃ drawn, s.bytes = drawn ++ (frame.readDocument s).2.bytes ∧
      drawn.length ≤ frame.remaining := by
  have hNothing : ∃ drawn, s.bytes = drawn ++ s.bytes ∧ drawn.length ≤ frame.remaining :=
    ⟨[], rfl, Nat.zero_le _⟩
  obtain ⟨front, hFront, hFive⟩ := s.take_draws minDocumentSize
  rw [readDocument]
  split
  · exact hNothing
  next hRoom =>
    rcases hTake : s.take minDocumentSize with ⟨b | e | _, afterFront⟩ <;>
      rw [hTake] at hFront
    · dsimp only
      split
      · exact ⟨front, hFront, by omega⟩
      · split
        · exact ⟨front, hFront, by omega⟩
        next hLong hFits =>
          obtain ⟨back, hBack, hLength⟩ :=
            afterFront.take_draws ((Bytes.toInt32 (b.take 4)).toInt.toNat - minDocumentSize)
          have hWhole : s.bytes = (front ++ back) ++ (afterFront.take
              ((Bytes.toInt32 (b.take 4)).toInt.toNat - minDocumentSize)).2.bytes := by
            rw [hFront, List.append_assoc, ← hBack]
          have hSize : (front ++ back).length ≤ frame.remaining := by
            rw [List.length_append]
            omega
          split
          next hRest => exact ⟨_, by rwa [hRest] at hWhole, hSize⟩
          next hRest => exact ⟨_, by rwa [hRest] at hWhole, hSize⟩
          next => exact hNothing
    · exact ⟨front, hFront, by omega⟩
    · exact hNothing

end ReplyFrame

/-! ### How a call comes out -/

namespace Reader

/-- An answer that leaves the reader as it is. -/
def Answer.isIdle : Answer → Bool
  | .frame _ | .document _ | .failed _ => false
  | .finished | .mismatch _ | .noFrame | .waiting => true

/-- The ways in which a call comes out.  A document is the next bytes of the source, and only the
frame that it belongs to counts them; a call that fails draws bytes and changes no frame, and any
other leaves the reader as it is. -/
inductive Called (r : Reader) : Call → Answer → Reader → Prop
  | frame {frame : ReplyFrame} {source : Source} (least : 36 ≤ frame.length)
      (limit : frame.length ≤ r.maxMessageSize) (fresh : frame.consumed = 36) :
      Called r .frame (.frame frame) { r with source, frames := r.frames ++ [frame] }
  | document {index : Option Nat} {i : Nat} {frame : ReplyFrame} {data : Bytes} {source : Source}
      (meant : r.frame? index = some (i, frame)) (next : r.source.bytes = data ++ source.bytes)
      (least : 5 ≤ data.length) (fits : data.length ≤ frame.remaining) :
      Called r (.document index) (.document data) {
        r with
        source, frames := r.frames.set i { frame with consumed := frame.consumed + data.length } }
  | failed {call : Call} {e : TransportError} {drawn : Bytes} {source : Source}
      (next : r.source.bytes = drawn ++ source.bytes)
      (within : ∀ index i frame, call = .document index → r.frame? index = some (i, frame) →
        drawn.length ≤ frame.remaining) :
      Called r call (.failed e) { r with source }
  | idle {call : Call} {answer : Answer} (isIdle : answer.isIdle = true) : Called r call answer r

theorem called_call (r : Reader) (call : Call) : Called r call (r.call call).1 (r.call call).2 := by
  cases call with
  | frame =>
    obtain ⟨drawn, hDrawn⟩ := ReplyFrame.read_draws r.maxMessageSize r.source
    rw [Reader.call]
    rcases hRead : ReplyFrame.read r.maxMessageSize r.source with ⟨frame | e | _, source⟩
    · obtain ⟨_, _, _, _, hLeast, hLimit, _, _, hFresh⟩ := ReplyFrame.read_eq_done_iff.mp hRead
      exact .frame hLeast hLimit hFresh
    · rw [hRead] at hDrawn
      exact .failed hDrawn (by rintro _ _ _ ⟨⟩)
    · exact .idle rfl
  | document index =>
    rw [Reader.call]
    cases hMeant : r.frame? index with
    | none => exact .idle rfl
    | some found =>
      obtain ⟨i, frame⟩ := found
      obtain ⟨drawn, hDrawn, hWithin⟩ := frame.readDocument_draws r.source
      dsimp only
      rcases hRead : frame.readDocument r.source with ⟨⟨data, next⟩ | e | _, source⟩
      · obtain ⟨hDelimited, hFits, hSource, rfl⟩ := ReplyFrame.readDocument_eq_done_iff.mp hRead
        exact .document hMeant (congrArg Source.bytes hSource) hDelimited.size hFits
      · rw [hRead] at hDrawn
        refine .failed hDrawn ?_
        rintro _ _ _ ⟨⟩ hSame
        rw [hMeant] at hSame
        cases hSame
        exact hWithin
      · exact .idle rfl
  | finish index =>
    rw [Reader.call]
    split
    · exact .idle rfl
    · split
      · exact .idle rfl
      · exact .idle rfl

/-! ### Whole sequences of calls -/

/-- No frame has fewer bytes read than its fixed fields or more than it has, and none is longer than
the limit. -/
def Bounded (r : Reader) : Prop :=
  ∀ frame ∈ r.frames, 36 ≤ frame.consumed ∧ frame.consumed ≤ frame.length ∧
    frame.length ≤ r.maxMessageSize

/-- What a call gives of the frame at place `i`: a document, if it is one of that frame. -/
def gives (r : Reader) (i : Nat) : Call → Answer → List Bytes
  | .document index, .document data => if (r.frame? index).map Prod.fst = some i then [data] else []
  | _, _ => []

/-- The documents that a sequence of calls gives of the frame at place `i`. -/
def documentsOf (i : Nat) (r : Reader) : List Call → List Bytes
  | [] => []
  | call :: rest => r.gives i call (r.call call).1 ++ documentsOf i (r.call call).2 rest

/-- The bytes of the frame at place `i` that have been read; the fixed fields come first. -/
def spent (r : Reader) (i : Nat) : Nat := (r.frames[i]?).elim 36 ReplyFrame.consumed

variable {r r' : Reader} {call : Call} {answer : Answer}

theorem Called.maxMessageSize (h : Called r call answer r') :
    r'.maxMessageSize = r.maxMessageSize := by
  cases h <;> rfl

theorem Called.bounded (h : Called r call answer r') (hr : r.Bounded) : r'.Bounded := by
  cases h with
  | frame hLeast hLimit hFresh =>
    intro frame hMem
    rcases List.mem_append.mp hMem with hOld | hNew
    · exact hr frame hOld
    · rw [List.mem_singleton] at hNew
      subst hNew
      exact ⟨by omega, by omega, hLimit⟩
  | @document _ i frame data _ hMeant _ _ hFits =>
    intro frame' hMem
    rcases List.mem_or_eq_of_mem_set hMem with hOld | rfl
    · exact hr frame' hOld
    · obtain ⟨hStart, hEnd, hLimit⟩ := hr frame (List.mem_of_getElem? (getElem?_of_frame? hMeant))
      rw [ReplyFrame.remaining] at hFits
      exact ⟨by dsimp only; omega, by dsimp only; omega, hLimit⟩
  | failed _ _ => exact hr
  | idle _ => exact hr

theorem gives_of_ne (hNone : ∀ data, answer ≠ .document data) (i : Nat) :
    r.gives i call answer = [] := by
  unfold gives
  split
  next data => exact absurd rfl (hNone data)
  next => rfl

/-- Each document that is given counts for its frame and for no other. -/
theorem Called.spent (h : Called r call answer r') (i : Nat) :
    r'.spent i = r.spent i + ((r.gives i call answer).map List.length).sum ∧
      ∀ data ∈ r.gives i call answer, 5 ≤ data.length := by
  cases h with
  | @frame frame source _ _ hFresh =>
    refine ⟨?_, List.forall_mem_nil _⟩
    show (((r.frames ++ [frame])[i]?).elim 36 ReplyFrame.consumed) = r.spent i + 0
    rw [Reader.spent]
    by_cases hOld : i < r.frames.length
    · rw [List.getElem?_append_left hOld, Nat.add_zero]
    · rw [List.getElem?_eq_none (Nat.le_of_not_lt hOld), List.getElem?_append_right
        (Nat.le_of_not_lt hOld)]
      cases i - r.frames.length with
      | zero => exact hFresh
      | succ k => rfl
  | @document index i' frame data source hMeant _ hLeast _ =>
    have hFrame := getElem?_of_frame? hMeant
    simp only [gives, hMeant, Option.map_some, Option.some.injEq, Reader.spent]
    by_cases hSame : i' = i
    · subst hSame
      rw [if_pos rfl, List.getElem?_set_self (List.getElem?_eq_some_iff.mp hFrame).1, hFrame]
      exact ⟨rfl, List.forall_mem_singleton.mpr hLeast⟩
    · rw [if_neg hSame, List.getElem?_set_ne hSame]
      exact ⟨rfl, List.forall_mem_nil _⟩
  | @failed call e _ _ _ _ =>
    have hNone : r.gives i call (.failed e) = [] := gives_of_ne (by nofun) i
    rw [hNone]
    exact ⟨rfl, List.forall_mem_nil _⟩
  | idle hIdle =>
    have hNone (data : Bytes) : answer ≠ .document data := by
      rintro rfl
      cases hIdle
    rw [gives_of_ne hNone]
    exact ⟨rfl, List.forall_mem_nil _⟩

theorem spent_run (r : Reader) (calls : List Call) (i : Nat) :
    (r.run calls).2.spent i = r.spent i + ((documentsOf i r calls).map List.length).sum ∧
      ∀ data ∈ documentsOf i r calls, 5 ≤ data.length := by
  induction calls generalizing r with
  | nil => exact ⟨rfl, List.forall_mem_nil _⟩
  | cons call rest ih =>
    obtain ⟨hHere, hLeast⟩ := (r.called_call call).spent i
    obtain ⟨hLater, hLeastLater⟩ := ih (r.call call).2
    constructor
    · show ((r.call call).2.run rest).2.spent i = _
      rw [hLater, hHere, documentsOf, List.map_append, List.sum_append, Nat.add_assoc]
    · exact List.forall_mem_append.mpr ⟨hLeast, hLeastLater⟩

theorem bounded_run (hr : r.Bounded) (calls : List Call) : (r.run calls).2.Bounded := by
  induction calls generalizing r with
  | nil => exact hr
  | cons call rest ih => exact ih ((r.called_call call).bounded hr)

theorem maxMessageSize_run (r : Reader) (calls : List Call) :
    (r.run calls).2.maxMessageSize = r.maxMessageSize := by
  induction calls generalizing r with
  | nil => rfl
  | cons call rest ih => exact (ih _).trans (r.called_call call).maxMessageSize

end Reader

theorem BufferedReader.run?_eq {r : BufferedReader} (hr : r.reader.Bounded)
    (calls : List Reader.Call) : ∃ scratch, r.run? calls =
      some ((r.reader.run calls).1, { reader := (r.reader.run calls).2, scratch }) := by
  induction calls generalizing r with
  | nil => exact ⟨r.scratch, rfl⟩
  | cons call rest ih =>
    obtain ⟨scratch, hCall⟩ := call?_eq (fun frame hMem => (hr frame hMem).2.1) call
    obtain ⟨scratch', hRest⟩ :=
      ih (r := ⟨(r.reader.call call).2, scratch⟩) ((r.reader.called_call call).bounded hr)
    refine ⟨scratch', ?_⟩
    rw [run?, hCall]
    simp only [Option.bind_eq_bind, Option.bind_some, hRest]
    rfl

/-- Documents of at least five bytes that come to so many bytes in all. -/
theorem length_le_of_sum {documents : List Bytes} (hLeast : ∀ data ∈ documents, 5 ≤ data.length) :
    5 * documents.length ≤ (documents.map List.length).sum := by
  induction documents with
  | nil => exact Nat.le_refl 0
  | cons data documents ih =>
    obtain ⟨hFirst, hRest⟩ := List.forall_mem_cons.mp hLeast
    have hLater := ih hRest
    rw [List.map_cons, List.sum_cons, List.length_cons]
    omega

/-- Whatever a caller asks for and in whatever order, and whatever the buffer holds at first, no cut
and no write falls outside of the buffer and no count falls below zero; the answers are those of a
reader without a buffer.  Every frame has between its fixed fields and its whole length read, and
keeps to the limit.  Every further call gives a frame, or the next bytes of the source as a document
that only its frame counts, or fails and draws no more than the frame has left, or changes nothing;
so the documents of a frame are what was read of it, and at most a fifth of its length in number. -/
theorem reader_stays_inside_replies (maxMessageSize : Nat) (source : Source) (scratch : Bytes)
    (calls : List Reader.Call) :
    let fresh : Reader := { maxMessageSize, source }
    ∃ after, BufferedReader.run? ⟨fresh, scratch⟩ calls = some ((fresh.run calls).1, after) ∧
      after.reader = (fresh.run calls).2 ∧
      (∀ frame ∈ after.reader.frames, 36 ≤ frame.consumed ∧ frame.consumed ≤ frame.length ∧
        frame.length ≤ maxMessageSize) ∧
      (∀ call, ∃ answer next, after.call? call = some (answer, next) ∧
        Reader.Called after.reader call answer next.reader) ∧
      ∀ i frame, after.reader.frames[i]? = some frame →
        frame.consumed = 36 + ((Reader.documentsOf i fresh calls).map List.length).sum ∧
        (Reader.documentsOf i fresh calls).length ≤ (frame.length - 36) / 5 := by
  intro fresh
  have hFresh : fresh.Bounded := List.forall_mem_nil _
  have hAfter := Reader.bounded_run hFresh calls
  obtain ⟨scratch', hRun⟩ := BufferedReader.run?_eq (r := ⟨fresh, scratch⟩) hFresh calls
  refine ⟨_, hRun, rfl, ?_, ?_, ?_⟩
  · intro frame hMem
    obtain ⟨hStart, hEnd, hLimit⟩ := hAfter frame hMem
    rw [Reader.maxMessageSize_run] at hLimit
    exact ⟨hStart, hEnd, hLimit⟩
  · intro call
    obtain ⟨scratch'', hCall⟩ := BufferedReader.call?_eq
      (r := ⟨(fresh.run calls).2, scratch'⟩) (fun frame hMem => (hAfter frame hMem).2.1) call
    exact ⟨_, _, hCall, Reader.called_call _ _⟩
  · intro i frame hFrame
    obtain ⟨hSpent, hLeast⟩ := Reader.spent_run fresh calls i
    obtain ⟨_, hEnd, _⟩ := hAfter frame (List.mem_of_getElem? hFrame)
    have hSum := length_le_of_sum hLeast
    rw [Reader.spent, hFrame] at hSpent
    have hConsumed : frame.consumed = 36 + _ := hSpent
    exact ⟨hConsumed, by omega⟩

end DocumentLink
