import DocumentLink.Proofs.Connection.Closure
import DocumentLink.Proofs.Connection.Collecting

/-! A batch with a document that cannot be written.  The query fails with the first such document,
whatever the state of the connection, and leaves all as it is: the run without it is a run in which
the same is told and sent.  The handlers of the batch are told nothing, so whoever waits on one of
them learns that it was abandoned. -/

namespace DocumentLink

variable {P H : Type}

/-- The first document that cannot be written decides how a batch fails. -/
theorem exists_first_unwritable {ops : List (Operation H)}
    (hBad : ∃ v ∈ ops.flatMap Operation.documents, ∃ e, v.marshal = .error e) :
    ∃ before v after e, ops.flatMap Operation.documents = before ++ v :: after ∧
      (∀ u ∈ before, ∃ b, u.marshal = .ok b) ∧ v.marshal = .error e ∧
      Batch.encode [] ops = .error e := by
  obtain ⟨e, hFails⟩ := exists_mapM_eq_error_iff.mpr hBad
  obtain ⟨before, v, after, hSplit, hBefore, hFirst⟩ := mapM_eq_error_iff.mp hFails
  exact ⟨before, v, after, e, hSplit, hBefore, hFirst, Batch.encode_eq_error_iff.mpr hFails⟩

namespace Connection

theorem query_of_encode_error (c : Connection P H) {ops : List (Operation H)}
    {e : Bson.EncodeError} (h : Batch.encode [] ops = .error e) :
    c.query ops = { connection := c, result := .error (.document (.encode e)) } := by
  rw [query, h]

theorem beginQuery_of_encode_error (c : Connection P H) {ops : List (Operation H)}
    {e : Bson.EncodeError} (h : Batch.encode [] ops = .error e) :
    c.beginQuery ops = { connection := c, result := .error (.document (.encode e)) } := by
  rw [beginQuery, h]

end Connection

namespace Shared

variable [PoolEntry P] {start s s' : Shared P H} {ops : List (Operation H)} {e : Bson.EncodeError}

theorem Moves.eq_of_encode_error (hMoves : s.Moves (.begin (.query ops)) s')
    (h : Batch.encode [] ops = .error e) : s' = s := by
  cases hMoves with
  | begin _ _ =>
    rw [Connection.turn, Connection.beginQuery_of_encode_error _ h]
    rfl

/-- A run goes the same way without a query that fails. -/
theorem Interleaved.without {first rest : List (Moment P H)} {c : Connection P H}
    (run : Interleaved start (first ++ ⟨c, .begin (.query ops)⟩ :: rest) s)
    (h : Batch.encode [] ops = .error e) : Interleaved start (first ++ rest) s := by
  obtain ⟨before, after, hFirst, _, hMove, hRest⟩ := run.split
  rw [hMove.eq_of_encode_error h] at hRest
  exact hFirst.trans hRest

/-- A batch with a document that cannot be written is refused with the first such document, on an
open connection and on a closed one, and leaves no trace.  A run goes on as it does without the
query: the same is told and sent, and the state at the end is the same.  The handlers of the batch
are not kept, are told nothing and are owed nothing, and what waits for their replies learns that
they were abandoned. -/
theorem refused_batch_leaves_no_trace [DecidableEq H]
    (hBad : ∃ v ∈ ops.flatMap Operation.documents, ∃ e, v.marshal = .error e) :
    (∃ before v after e, ops.flatMap Operation.documents = before ++ v :: after ∧
      (∀ u ∈ before, ∃ b, u.marshal = .ok b) ∧ v.marshal = .error e ∧
      ∀ c : Connection P H,
        c.query ops = { connection := c, result := .error (.document (.encode e)) } ∧
        c.beginQuery ops = { connection := c, result := .error (.document (.encode e)) }) ∧
    ∀ (address : String) (maxMessageSize : Nat) (pool : P) (first rest : List (Moment P H))
      (c : Connection P H) (s : Shared P H),
      Interleaved ⟨.opened address maxMessageSize pool, []⟩
        (first ++ ⟨c, .begin (.query ops)⟩ :: rest) s →
      Interleaved ⟨.opened address maxMessageSize pool, []⟩ (first ++ rest) s ∧
      heard (first ++ ⟨c, .begin (.query ops)⟩ :: rest) = heard (first ++ rest) ∧
      written (first ++ ⟨c, .begin (.query ops)⟩ :: rest) = written (first ++ rest) ∧
      ∀ h ∈ ops.filterMap Operation.handler, h ∉ entrusted (first ++ rest) →
        s.connection.Away h ∧ s.owed h = [] ∧ callsOf h (heard (first ++ rest)) = [] ∧
        (Collector.after (callsOf h (heard (first ++ rest)))).wait = .error .abandoned ∧
        RequestError.abandoned.isConnectionLost = false := by
  obtain ⟨before, v, after, e, hSplit, hBefore, hFirst, hEncode⟩ := exists_first_unwritable hBad
  refine ⟨⟨before, v, after, e, hSplit, hBefore, hFirst, ?_⟩, ?_⟩
  · intro c
    exact ⟨c.query_of_encode_error hEncode, c.beginQuery_of_encode_error hEncode⟩
  · intro address maxMessageSize pool first rest c s run
    have hTurn : (⟨c, .begin (.query ops)⟩ : Moment P H).turn =
        { connection := c, result := .error (.document (.encode e)) } :=
      c.beginQuery_of_encode_error hEncode
    have hWithout := run.without hEncode
    refine ⟨hWithout, ?_, ?_, ?_⟩
    · rw [heard_append, heard_append]
      show heard first ++ ((⟨c, .begin (.query ops)⟩ : Moment P H).turn.told ++ heard rest) = _
      rw [hTurn]
      rfl
    · rw [written_append, written_append]
      show written first ++ ((⟨c, .begin (.query ops)⟩ : Moment P H).turn.sent ++ written rest) = _
      rw [hTurn]
      rfl
    · intro h _ hNever
      obtain ⟨hAway, hSilent, hOwed⟩ := hWithout.untouched hNever
      rw [hSilent]
      exact ⟨hAway, hOwed, rfl, rfl, rfl⟩

/-- An insert whose second document is none stands between two queries. -/
theorem refused_batch_while_waiting : ∃ (_ : PoolEntry Unit) (first rest : List (Moment Unit Nat))
    (c : Connection Unit Nat) (s : Shared Unit Nat),
    let ask (h : Nat) : Operation Nat :=
      .query { collection := "a", query := .document [], handler := some h }
    let ops : List (Operation Nat) := [ask 7, .insert ⟨"a", [.document [], .null]⟩, ask 8]
    c.correlator.waiting = [9] ∧ s.connection.closed = some ⟨"db", "closed by client"⟩ ∧
      Interleaved ⟨.opened "db" 100 (), []⟩ (first ++ ⟨c, .begin (.query ops)⟩ :: rest) s ∧
      Interleaved ⟨.opened "db" 100 (), []⟩ (first ++ rest) s ∧
      (∃ e, c.query ops = { connection := c, result := .error (.document (.encode e)) }) ∧
      ∀ h ∈ [7, 8], s.connection.Away h ∧ callsOf h (heard (first ++ rest)) = [] ∧
        (Collector.after (callsOf h (heard (first ++ rest)))).wait = .error .abandoned := by
  let pools : PoolEntry Unit := ⟨fun _ => "pool"⟩
  let ask (h : Nat) : Operation Nat :=
    .query { collection := "a", query := .document [], handler := some h }
  let ops : List (Operation Nat) := [ask 7, .insert ⟨"a", [.document [], .null]⟩, ask 8]
  let start : Shared Unit Nat := ⟨.opened "db" 100 (), []⟩
  let asked : Shared Unit Nat :=
    ⟨{ start.connection with correlator := { lastId := 1, pending := [(1, 9)] } }, []⟩
  let first : List (Moment Unit Nat) := [⟨start.connection, .begin (.query [ask 9])⟩]
  have hAsked : Interleaved start first asked :=
    .advance .refl (.begin (.query [ask 9]) ⟨rfl, Connection.returns_of_room (by decide)⟩) rfl
  have hRefused : Interleaved start (first ++ [⟨asked.connection, .begin (.query ops)⟩]) asked :=
    hAsked.advance (.begin (.query ops) ⟨rfl, Connection.returns_of_room (by decide)⟩) rfl
  have hClosing := (Interleaved.refl : Interleaved asked [] asked).next (.begin .close rfl)
  have hClosed := hClosing.next (.goOn (.fail "closed by client") [] rfl)
  have hRun := hRefused.trans hClosed
  rw [List.append_assoc] at hRun
  have hBad : ∃ v ∈ ops.flatMap Operation.documents, ∃ e, v.marshal = .error e :=
    ⟨.null, by simp [ops, ask, Operation.documents], _, rfl⟩
  obtain ⟨⟨_, _, _, e, _, _, _, hQuery⟩, hRuns⟩ := refused_batch_leaves_no_trace (P := Unit) hBad
  obtain ⟨hWithout, _, _, hSilent⟩ := hRuns "db" 100 () first _ _ _ hRun
  refine ⟨pools, first, _, asked.connection, _, rfl, rfl, hRun, hWithout, ⟨e, (hQuery _).1⟩, ?_⟩
  intro h hMem
  obtain ⟨hAway, _, hNothing, hAbandoned, _⟩ := hSilent h hMem (by revert h; decide)
  exact ⟨hAway, hNothing, hAbandoned⟩

end Shared

end DocumentLink
