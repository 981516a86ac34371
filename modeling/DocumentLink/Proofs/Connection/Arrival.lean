import DocumentLink.Proofs.Connection.Dispatch

/-! Bytes that arrive in pieces.  A step of reading that can be taken can also be taken when more
bytes have arrived, and then does the same; only a step at which reading stops leaves more bytes
behind, and nobody reads these.  So what handlers are told depends on the bytes alone and not on
how they were cut into arrivals. -/

namespace DocumentLink

/-! ### Sources -/

namespace Source

/-- More bytes arrive, and then perhaps the end of the source. -/
def extend (s : Source) (b : Bytes) (ending : Ending) : Source := (s.append b).close ending

variable {s : Source} {a b : Bytes} {ending : Ending}

theorem extend_of_live (h : s.ending = .live) : s.extend b ending = ⟨s.bytes ++ b, ending⟩ := by
  simp [extend, append, close, h]

theorem extend_of_not_live (h : s.ending ≠ .live) : s.extend b ending = s := by
  simp [extend, append, close, h]

theorem bytes_close (s : Source) (ending : Ending) : (s.close ending).bytes = s.bytes := by
  unfold close
  split <;> rfl

theorem extend_extend : (s.extend a .live).extend b ending = s.extend (a ++ b) ending := by
  by_cases h : s.ending = .live
  · simp [extend_of_live, h]
  · simp [extend_of_not_live, h]

/-- What is taken off the front of a source can be taken off when it is longer. -/
theorem extend_front (front : Bytes) :
    (⟨front ++ s.bytes, s.ending⟩ : Source).extend b ending =
      ⟨front ++ (s.extend b ending).bytes, (s.extend b ending).ending⟩ := by
  by_cases h : s.ending = .live
  · simp [extend_of_live, h]
  · simp [extend_of_not_live, h]

theorem take_extend {s' : Source} {n : Nat} {front : Bytes} (h : s.take n = (.done front, s')) :
    (s.extend b ending).take n = (.done front, s'.extend b ending) := by
  obtain ⟨hLength, rfl⟩ := take_eq_done_iff.mp h
  exact take_eq_done_iff.mpr ⟨hLength, extend_front front⟩

/-- A source that is still live is never at its end. -/
theorem take_of_live {s' : Source} {n : Nat} {e : TransportError} (hLive : s.ending = .live) :
    s.take n ≠ (.failed e, s') := by
  unfold take
  dsimp only
  split
  · nofun
  · rw [hLive]
    nofun

end Source

namespace ReplyFrame

variable {frame next : ReplyFrame} {s s' : Source} {data : Bytes} {maxMessageSize : Nat}
  {e : TransportError}

theorem read_extend (h : read maxMessageSize s = (.done frame, s')) (b : Bytes)
    (ending : Ending) :
    read maxMessageSize (s.extend b ending) = (.done frame, s'.extend b ending) := by
  obtain ⟨length, requestId, hId, rfl, hFields⟩ := read_eq_done_iff.mp h
  exact read_eq_done_iff.mpr ⟨length, requestId, hId, Source.extend_front _, hFields⟩

theorem readDocument_extend (h : frame.readDocument s = (.done (data, next), s')) (b : Bytes)
    (ending : Ending) :
    frame.readDocument (s.extend b ending) = (.done (data, next), s'.extend b ending) := by
  obtain ⟨hData, hFits, rfl, hNext⟩ := readDocument_eq_done_iff.mp h
  exact readDocument_eq_done_iff.mpr ⟨hData, hFits, Source.extend_front _, hNext⟩

theorem read_extend_failed (h : read maxMessageSize s = (.failed e, s')) (b : Bytes)
    (ending : Ending) :
    ∃ s'', read maxMessageSize (s.extend b ending) = (.failed e, s'') := by
  by_cases hLive : s.ending = .live
  · unfold read at h
    split at h
    next front rest hFront =>
      rw [read, Source.take_extend hFront]
      dsimp only
      split at h
      next => cases h
      next e' hFields =>
        cases h
        exact ⟨_, rfl⟩
    next hFront => exact absurd hFront (Source.take_of_live hLive)
    next => cases h
  · rw [Source.extend_of_not_live hLive]
    exact ⟨s', h⟩

theorem readDocument_extend_failed (h : frame.readDocument s = (.failed e, s')) (b : Bytes)
    (ending : Ending) :
    ∃ s'', frame.readDocument (s.extend b ending) = (.failed e, s'') := by
  by_cases hLive : s.ending = .live
  · unfold readDocument at h
    split at h
    next hShort =>
      cases h
      rw [readDocument, if_pos hShort]
      exact ⟨_, rfl⟩
    next hShort =>
      rw [readDocument, if_neg hShort]
      split at h
      next front rest hFront =>
        rw [Source.take_extend hFront]
        dsimp only at h ⊢
        split at h
        next hLength =>
          cases h
          rw [if_pos hLength]
          exact ⟨_, rfl⟩
        next hLength =>
          rw [if_neg hLength]
          split at h
          next hOverrun =>
            cases h
            rw [if_pos hOverrun]
            exact ⟨_, rfl⟩
          next hOverrun =>
            have hRest : rest.ending = .live := by
              rw [(Source.eq_of_take_done hFront).2.2, hLive]
            split at h
            next => cases h
            next hBack => exact absurd hBack (Source.take_of_live hRest)
            next => cases h
      next hFront => exact absurd hFront (Source.take_of_live hLive)
      next => cases h
  · rw [Source.extend_of_not_live hLive]
    exact ⟨s', h⟩

end ReplyFrame

/-! ### What is told of replies is not that they are lost -/

variable {H : Type}

theorem not_lost_of_mem_tellAll {handler : Option H} {header : ReplyHeader} {k : Nat}
    {documents : List Bytes} :
    ∀ call ∈ tellAll handler (remainder header k documents), ∀ e, call.2 ≠ .lost e := by
  rintro ⟨h, notice⟩ hCall e rfl
  simp [tellAll, remainder_eq, List.mem_mapIdx] at hCall

theorem not_lost_of_mem_dispatch {correlator : Correlator H} {replies : List (UInt32 × Reply)} :
    ∀ call ∈ (dispatch correlator replies).1, ∀ e, call.2 ≠ .lost e := by
  induction replies generalizing correlator with
  | nil => nofun
  | cons r replies ih =>
    intro call hCall
    rcases List.mem_append.mp hCall with hFirst | hLater
    · exact not_lost_of_mem_tellAll call hFirst
    · exact ih call hLater

/-! ### Connections -/

namespace Connection

variable {P H : Type} {c : Connection P H} {b : Bytes} {ending : Ending}

def extend (c : Connection P H) (b : Bytes) (ending : Ending) : Connection P H :=
  { c with inbound := c.inbound.extend b ending }

/-- The same connection, but for bytes that nobody will read. -/
structure Alike (c c' : Connection P H) : Prop where
  same : c' = { c with inbound := c'.inbound }
  inbound : c.phase ≠ .stopped → c'.inbound = c.inbound

theorem Alike.refl (c : Connection P H) : Alike c c := ⟨rfl, fun _ => rfl⟩

theorem readStep_of_stopped (h : c.phase = .stopped) : c.readStep = none := by
  simp [readStep, h]

theorem settle_of_stopped (h : c.phase = .stopped) :
    c.settle = { connection := c, result := () } :=
  settle_of_none (readStep_of_stopped h)

theorem phase_stopReading (c : Connection P H) (handler : Option H) (e : TransportError) :
    (stopReading c handler e).connection.phase = .stopped := by
  unfold stopReading
  dsimp only
  split <;> rfl

/-- Where reading stops, the bytes that are left play no part. -/
theorem stopReading_alike (inbound inbound' : Source) (handler : Option H) (e : TransportError) :
    let r := stopReading { c with inbound } handler e
    let r' := stopReading { c with inbound := inbound' } handler e
    r'.told = r.told ∧ Alike r.connection r'.connection := by
  unfold stopReading
  dsimp only
  split
  · exact ⟨rfl, rfl, fun h => absurd rfl h⟩
  · exact ⟨rfl, rfl, fun h => absurd rfl h⟩

/-- A step of reading on more bytes is the same step, and leaves the bytes that are more. -/
theorem readStep_extend {r : Reaction P H Unit} (h : c.readStep = some r) (b : Bytes)
    (ending : Ending) :
    (c.extend b ending).readStep =
        some { r with connection := r.connection.extend b ending } ∨
      r.connection.phase = .stopped ∧ ∃ r', (c.extend b ending).readStep = some r' ∧
        r'.told = r.told ∧ Alike r.connection r'.connection := by
  unfold readStep at h
  split at h
  next => cases h
  next hPhase =>
    split at h
    next => cases h
    next e inbound hRead =>
      cases h
      obtain ⟨inbound', hRead'⟩ := ReplyFrame.read_extend_failed hRead b ending
      refine .inr ⟨phase_stopReading _ _ _, _, ?_, stopReading_alike inbound inbound' none e⟩
      simp only [readStep, extend, hPhase, hRead']
    next frame inbound hRead =>
      have hRead' := ReplyFrame.read_extend hRead b ending
      left
      split at h
      next hReferenced =>
        cases h
        simp only [readStep, extend, hPhase, hRead', if_pos hReferenced]
        rfl
      next hReferenced =>
        cases h
        simp only [readStep, extend, hPhase, hRead', if_neg hReferenced]
  next frame handler delivered hPhase =>
    split at h
    next hMore =>
      split at h
      next => cases h
      next e inbound hRead =>
        cases h
        obtain ⟨inbound', hRead'⟩ := ReplyFrame.readDocument_extend_failed hRead b ending
        refine .inr ⟨phase_stopReading _ _ _, _, ?_, stopReading_alike inbound inbound' handler e⟩
        simp only [readStep, extend, hPhase, if_pos hMore, hRead']
      next data next inbound hRead =>
        cases h
        have hRead' := ReplyFrame.readDocument_extend hRead b ending
        left
        simp only [readStep, extend, hPhase, if_pos hMore, hRead']
    next hAll =>
      split at h
      next e hFinish =>
        cases h
        refine .inr ⟨phase_stopReading _ _ _, _, ?_,
          stopReading_alike c.inbound (c.extend b ending).inbound handler (.protocol e)⟩
        simp only [readStep, extend, hPhase, if_neg hAll, hFinish]
      next hFinish =>
        cases h
        left
        simp only [readStep, extend, hPhase, if_neg hAll, hFinish]

/-- Reading what has arrived and then what is more of it comes to the same as reading the whole. -/
theorem settle_extend (c : Connection P H) (b : Bytes) (ending : Ending) :
    (c.extend b ending).settle.told =
        c.settle.told ++ (c.settle.connection.extend b ending).settle.told ∧
      Alike (c.settle.connection.extend b ending).settle.connection
        (c.extend b ending).settle.connection := by
  induction c using Connection.settle.induct with
  | case1 c hStep =>
    rw [settle_of_none hStep]
    exact ⟨rfl, .refl _⟩
  | case2 c r hStep ih =>
    obtain ⟨hTold, hAlike⟩ := ih
    rw [settle_of_readStep hStep]
    rcases readStep_extend hStep b ending with hMore | ⟨hStopped, r', hMore, hSame, hStop⟩
    · rw [settle_of_readStep hMore]
      refine ⟨?_, hAlike⟩
      simp only [Reaction.after, hTold, List.append_assoc]
    · -- Reading stops in this step with and without the other bytes, and does nothing after it.
      have hStopped' : r'.connection.phase = .stopped := by
        rw [hStop.same]
        exact hStopped
      have hExtended : (r.connection.extend b ending).phase = .stopped := hStopped
      rw [settle_of_readStep hMore, settle_of_stopped hStopped', settle_of_stopped hStopped]
      simp only [Reaction.after, settle_of_stopped hExtended, hSame, List.append_nil, true_and]
      exact ⟨hStop.same, fun h => absurd hExtended h⟩

/-- Reading closes a connection only where it stops for good. -/
theorem closed_settle (c : Connection P H) :
    c.settle.connection.closed = c.closed ∨ c.settle.connection.phase = .stopped := by
  induction c using Connection.settle.induct with
  | case1 c hStep =>
    rw [settle_of_none hStep]
    exact .inl rfl
  | case2 c r hStep ih =>
    rw [settle_of_readStep hStep]
    cases reads_of_readStep hStep with
    | @stop inbound e _ =>
      have hStopped := phase_stopReading { c with inbound } c.inHand e
      rw [settle_of_stopped hStopped]
      exact .inr hStopped
    | _ => exact ih

/-! ### Replies that lie ahead -/

/-- Bytes that bring the reply in hand to its end, if there is one, and then are replies, with what
handlers are told of these. -/
inductive Ahead (c : Connection P H) : Bytes → List (H × Notice) → Prop
  | between {replies : List (UInt32 × Reply)} {b : Bytes} (phase : c.phase = .betweenReplies)
      (referenced : c.referenced = true) (whole : AreReplies c.maxMessageSize replies b) :
      Ahead c b (dispatch c.correlator replies).1
  | within {frame : ReplyFrame} {handler : Option H} {k : Nat} {documents : List Bytes}
      {replies : List (UInt32 × Reply)} {b : Bytes} (phase : c.phase = .inReply frame handler k)
      (count : k + documents.length = frame.header.documentCount.toInt.toNat)
      (delimited : ∀ data ∈ documents, SelfDelimiting 5 data)
      (filled : frame.consumed + documents.flatten.length = frame.length)
      (referenced : c.referenced = true ∨ replies = [])
      (whole : AreReplies c.maxMessageSize replies b) :
      Ahead c (documents.flatten ++ b)
        (tellAll handler (remainder frame.header k documents) ++ (dispatch c.correlator replies).1)

theorem Ahead.extend {ahead : Bytes} {calls : List (H × Notice)} (h : c.Ahead ahead calls)
    (b : Bytes) (ending : Ending) : (c.extend b ending).Ahead ahead calls := by
  cases h with
  | between hPhase hReferenced hWhole => exact .between hPhase hReferenced hWhole
  | within hPhase hCount hDelimited hFilled hReferenced hWhole =>
    exact .within hPhase hCount hDelimited hFilled hReferenced hWhole

/-- What lies ahead is told before anything else. -/
theorem Ahead.told {ahead rest : Bytes} {calls : List (H × Notice)} (h : c.Ahead ahead calls)
    (hInbound : c.inbound.bytes = ahead ++ rest) : calls <+: c.settle.told := by
  replace hInbound : c.inbound = ⟨ahead ++ rest, c.inbound.ending⟩ := by rw [← hInbound]
  cases h with
  | between hPhase hReferenced hWhole =>
    rw [settle_replies hPhase hReferenced hWhole hInbound]
    exact List.prefix_append _ _
  | @within frame handler k documents replies b hPhase hCount hDelimited hFilled hReferenced
      hWhole =>
    rw [List.append_assoc] at hInbound
    have hRead : frame.readDocuments c.inbound documents.length =
        (.done documents, ⟨b ++ rest, c.inbound.ending⟩) :=
      ReplyFrame.readDocuments_eq_done_iff.mpr ⟨rfl, hDelimited, hInbound, hFilled⟩
    rw [settle_documents hPhase hCount hRead]
    rcases hReferenced with hReferenced | rfl
    · have hLater := @settle_replies _ _
        { c with inbound := ⟨b ++ rest, c.inbound.ending⟩, phase := .betweenReplies } _ _ _ _ rfl
        hReferenced hWhole rfl
      rw [hLater, Reaction.after_after]
      exact List.prefix_append _ _
    · rw [dispatch, List.append_nil]
      exact List.prefix_append _ _

theorem Ahead.not_lost {ahead : Bytes} {calls : List (H × Notice)} (h : c.Ahead ahead calls) :
    ∀ call ∈ calls, ∀ e, call.2 ≠ .lost e := by
  cases h with
  | between _ _ _ => exact not_lost_of_mem_dispatch
  | within _ _ _ _ _ _ =>
    intro call hCall
    rcases List.mem_append.mp hCall with hHand | hLater
    · exact not_lost_of_mem_tellAll call hHand
    · exact not_lost_of_mem_dispatch call hLater

theorem receive_eq (c : Connection P H) (b : Bytes) (ending : Ending) :
    c.receive b ending = (c.extend b ending).settle := rfl

/-- How the bytes of the server are cut into arrivals does not matter: handlers are told the same in
the same order, and the connections are alike, with the same requests in flight and closed for the
same reason if at all.  Reading that has stopped, which it does where it closes the connection, has
stopped for good.  What lies ahead at the start is told first and whole. -/
theorem receive_append (c : Connection P H) (a b : Bytes) (ending : Ending) :
    let first := c.receive a .live
    let second := first.connection.receive b ending
    let whole := c.receive (a ++ b) ending
    whole.told = first.told ++ second.told ∧
      Alike second.connection whole.connection ∧
      (first.connection.closed = c.closed ∨ first.connection.phase = .stopped) ∧
      (first.connection.phase = .stopped → second.told = [] ∧ second.connection.phase = .stopped) ∧
      ∀ ahead rest calls, c.Ahead ahead calls → (c.inbound.append (a ++ b)).bytes = ahead ++ rest →
        calls <+: whole.told ∧ ∀ call ∈ calls, ∀ e, call.2 ≠ .lost e := by
  have hWhole : c.extend (a ++ b) ending = (c.extend a .live).extend b ending := by
    simp only [extend, Source.extend_extend]
  obtain ⟨hTold, hAlike⟩ := settle_extend (c.extend a .live) b ending
  rw [← hWhole] at hTold hAlike
  refine ⟨hTold, hAlike, closed_settle _, ?_, ?_⟩
  · intro hStopped
    have hExtended : ((c.receive a .live).connection.extend b ending).phase = .stopped := hStopped
    rw [receive_eq, settle_of_stopped hExtended]
    exact ⟨rfl, hExtended⟩
  · intro ahead rest calls hAhead hBytes
    have hExtended : (c.extend (a ++ b) ending).inbound.bytes = ahead ++ rest :=
      (Source.bytes_close _ _).trans hBytes
    exact ⟨(hAhead.extend (a ++ b) ending).told hExtended, hAhead.not_lost⟩

end Connection

end DocumentLink
