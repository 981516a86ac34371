import DocumentLink.Proofs.Connection.Holding
import DocumentLink.Proofs.Session.Custody

/-! Sequences of calls on one connection of a session.  Each call does to the connection what it
does to the state in place, and what is handed back comes to the pool that held the connection, so
that a pool gets back just what it had lent. -/

namespace DocumentLink

namespace Lifecycle.Call

/-- The action of making a call on connection `i`. -/
def action (i : Nat) : Call Pool → Action
  | tryAcquired pool => .tryAcquired i pool
  | acquired pool => .acquired i pool
  | reserve => .reserve i
  | release force => .release i force

/-- What the client sees of a result. -/
def answer : Call Pool → Except LifecycleError (Option Pool) → Answer
  | _, .ok _ => .done
  | acquired _, .error e => .broken e
  | _, .error e => .refused e

end Lifecycle.Call

namespace Session

variable {s s' : Session} {i : Nat} {c : Connection Pool Handler}

/-- The session remembers the pool that a call names. -/
def mentioning (s : Session) : Lifecycle.Call Pool → Session
  | .tryAcquired pool | .acquired pool => s.mention pool
  | _ => s

/-- What a call leaves of a session, before what has become loose is disposed of. -/
def called (s : Session) (i : Nat) (turn : Lifecycle.Turn Pool) : Session :=
  match turn.outcome with
  | .error _ => s.mentioning turn.call
  | .ok _ =>
    let s := (s.mentioning turn.call).setLifecycle i turn.after
    turn.handedBack?.elim s (s.takeBack i)

theorem onHeld_of_held (hHeld : s.held? i = some c) (f : Connection Pool Handler → Effect Answer) :
    s.onHeld i f = f c := by
  rw [onHeld, hHeld]

theorem claim_eq {turn : Lifecycle.Turn Pool} {pool : Pool}
    (hAsks : turn.call = .tryAcquired pool ∨ turn.call = .acquired pool)
    (hBefore : c.lifecycle = turn.before) :
    s.claim i c pool (fun e => turn.call.answer (.error e)) =
      (s.called i turn, turn.call.answer turn.outcome) := by
  have hBack : turn.handedBack? = none := by
    refine Lifecycle.Turn.handedBack?_eq_none fun force hRelease => ?_
    simp [hRelease] at hAsks
  have hMention : s.mentioning turn.call = s.mention pool := by
    rcases hAsks with hCall | hCall <;> rw [hCall] <;> rfl
  rw [claim, called, hBefore, Lifecycle.Turn.acquire_eq hAsks, hBack, hMention]
  cases turn.outcome <;> rfl

theorem reserve_eq {turn : Lifecycle.Turn Pool} (hAsks : turn.call = .reserve)
    (hBefore : c.lifecycle = turn.before) :
    s.reserve i c = (s.called i turn, turn.call.answer turn.outcome) := by
  have hBack : turn.handedBack? = none := by
    refine Lifecycle.Turn.handedBack?_eq_none fun force hRelease => ?_
    simp [hRelease] at hAsks
  rw [reserve, called, hBefore, Lifecycle.Turn.reserve_eq hAsks, hBack, hAsks]
  cases turn.outcome <;> rfl

theorem release_eq {turn : Lifecycle.Turn Pool} {force : Bool} (hAsks : turn.call = .release force)
    (hBefore : c.lifecycle = turn.before) :
    s.release i c force = (s.called i turn, turn.call.answer turn.outcome) := by
  rw [release, called, hBefore, Lifecycle.Turn.release_eq hAsks, hAsks, Lifecycle.Turn.handedBack?]
  cases turn.outcome <;> rfl

/-- A call through a handle works on the state of the connection in place. -/
theorem perform_call (turn : Lifecycle.Turn Pool) (hHeld : s.held? i = some c)
    (hBefore : c.lifecycle = turn.before) : s.perform (turn.call.action i) = some {
      session := s.called i turn
      result := turn.call.answer turn.outcome } := by
  cases hCall : turn.call with
  | tryAcquired pool =>
    have hClaim := claim_eq (s := s) (i := i) (.inl hCall) hBefore
    rw [hCall] at hClaim
    change some (s.onHeld i _) = _
    rw [onHeld_of_held hHeld]
    exact congrArg (fun r => some (quiet r)) hClaim
  | acquired pool =>
    have hClaim := claim_eq (s := s) (i := i) (.inr hCall) hBefore
    rw [hCall] at hClaim
    change some (s.onHeld i _) = _
    rw [onHeld_of_held hHeld]
    exact congrArg (fun r => some (quiet r)) hClaim
  | reserve =>
    change some (s.onHeld i _) = _
    rw [onHeld_of_held hHeld, reserve_eq hCall hBefore, hCall]
    rfl
  | release force =>
    change some (s.onHeld i _) = _
    rw [onHeld_of_held hHeld, release_eq hCall hBefore, hCall]
    rfl

/-! ### What a call leaves of a session -/

theorem slots_mentioning (s : Session) (call : Lifecycle.Call Pool) :
    (s.mentioning call).slots = s.slots := by
  cases call with
  | tryAcquired pool => rw [mentioning, mention_eq]
  | acquired pool => rw [mentioning, mention_eq]
  | _ => rfl

theorem settles_mentioning (s : Session) (call : Lifecycle.Call Pool) :
    Settles s (s.mentioning call) := by
  cases call with
  | tryAcquired pool => exact settles_mention s pool
  | acquired pool => exact settles_mention s pool
  | _ => exact .refl s

theorem slots_takeBack (s : Session) (i : Nat) (pool : Pool) :
    (s.takeBack i pool).slots = s.slots := by
  unfold takeBack
  split
  · split <;> rfl
  · dsimp only
    rw [mention_eq]

theorem held?_setLifecycle (hHeld : s.held? i = some c) (lifecycle : Lifecycle Pool) :
    (s.setLifecycle i lifecycle).held? i = some { c with lifecycle } := by
  rw [held?_eq_some_iff] at hHeld ⊢
  change (s.slots.modify i _)[i]? = _
  rw [List.getElem?_modify_eq, hHeld]
  rfl

variable {turn : Lifecycle.Turn Pool}

/-- Of the connection itself a call changes only who holds it. -/
theorem held?_called (hHeld : s.held? i = some c) (hBefore : c.lifecycle = turn.before) :
    (s.called i turn).held? i = some { c with lifecycle := turn.after } := by
  have hMentioned : (s.mentioning turn.call).held? i = some c := by
    rw [held?, slots_mentioning]
    exact hHeld
  unfold called
  split
  next e hFailed =>
    rw [hMentioned, (Lifecycle.Turn.fails hFailed).1, ← hBefore]
  next =>
    have hSet := held?_setLifecycle hMentioned turn.after
    cases turn.handedBack? with
    | none => exact hSet
    | some pool =>
      change (takeBack _ i pool).held? i = _
      rw [held?, slots_takeBack]
      exact hSet

theorem lifecycle?_called {j : Nat} (hOther : j ≠ i) :
    (s.called i turn).lifecycle? j = s.lifecycle? j := by
  have hMentioned := (s.settles_mentioning turn.call).lifecycle j
  unfold called
  split
  next => exact hMentioned
  next =>
    have hSet : ((s.mentioning turn.call).setLifecycle i turn.after).lifecycle? j =
        s.lifecycle? j := by
      rw [lifecycle?_setLifecycle, if_neg hOther.symm, hMentioned]
    cases turn.handedBack? with
    | none => exact hSet
    | some pool => exact (lifecycle?_takeBack _ i pool j).trans hSet

theorem called_of_handedBack {pool : Pool} (hBack : turn.handedBack? = some pool) :
    s.called i turn = (s.setLifecycle i .idle).takeBack i pool := by
  obtain ⟨⟨force, hRelease⟩, _, hAfter⟩ := Lifecycle.Turn.handsBack hBack
  rw [called, hRelease, hAfter, hBack]
  split
  next hFailed =>
    rw [Lifecycle.Turn.handedBack?, hFailed] at hBack
    cases hBack
  next => rfl

/-- Where nothing is handed back, pools do not change. -/
theorem called_of_not_handedBack (hBack : turn.handedBack? = none) :
    (s.called i turn).idle = s.idle ∧
      ∀ label, (s.called i turn).returned label = s.returned label := by
  have hMentioned := s.settles_mentioning turn.call
  rw [called, hBack]
  split <;> exact ⟨hMentioned.idle, hMentioned.returned⟩

/-! ### Calls as steps -/

/-- A step of a session makes the call of a turn on connection `i`, which is otherwise as in `c`.
The pool that the connection is handed back to receives it, and no other pool changes. -/
structure Entry.CarriesOut (entry : Entry) (i : Nat) (c : Connection Pool Handler)
    (turn : Lifecycle.Turn Pool) : Prop where
  asks : entry.action = turn.call.action i
  answer : entry.effect.result = turn.call.answer turn.outcome
  before : entry.before.held? i = some { c with lifecycle := turn.before }
  after : entry.after.held? i = some { c with lifecycle := turn.after }
  others : ∀ j, j ≠ i → entry.after.lifecycle? j = entry.before.lifecycle? j
  received : ∀ pool, turn.handedBack? = some pool → entry.before.Receives i pool entry.after
  unreceived : turn.handedBack? = none → (∀ k, entry.after.cached k = entry.before.cached k) ∧
    ∀ label, entry.after.returned label = entry.before.returned label

/-- Every call that a client can make is carried out. -/
theorem exists_carriesOut (turn : Lifecycle.Turn Pool)
    (hHeld : s.held? i = some { c with lifecycle := turn.before }) :
    ∃ entry : Entry, entry.before = s ∧ s.step entry.action = some entry.effect ∧
      entry.CarriesOut i c turn := by
  have hPerform := perform_call turn hHeld rfl
  have hCalled : (s.called i turn).held? i = some { c with lifecycle := turn.after } :=
    held?_called (c := { c with lifecycle := turn.before }) hHeld rfl
  have hSettles := settles_sweep (s.called i turn)
  refine ⟨⟨s, turn.call.action i, (s.called i turn).sweep.session, (s.called i turn).sweep.told,
    turn.call.answer turn.outcome⟩, rfl, ?_, rfl, rfl, hHeld, ?_, ?_, ?_, ?_⟩
  · rw [step, hPerform]
    rfl
  · exact (spares_sweep _).held hCalled
  · exact fun j hOther => (hSettles.lifecycle j).trans (lifecycle?_called hOther)
  · intro pool hBack
    change s.Receives i pool (s.called i turn).sweep.session
    rw [called_of_handedBack hBack]
    exact (settles_sweep _).receives
  · intro hBack
    obtain ⟨hIdle, hReturned⟩ := called_of_not_handedBack (s := s) (i := i) hBack
    refine ⟨fun k => (hSettles.cached k).trans ?_,
      fun label => (hSettles.returned label).trans (hReturned label)⟩
    rw [cached, cached, hIdle]

/-- A counting pool counts what is handed back to it. -/
theorem Entry.CarriesOut.returned {entry : Entry} (h : entry.CarriesOut i c turn)
    (label : String) : entry.after.returned label =
      entry.before.returned label + turn.handedBack?.toList.count (.counter label) := by
  cases hBack : turn.handedBack? with
  | none => exact (h.unreceived hBack).2 label
  | some pool =>
    have hReceived := h.received pool hBack
    by_cases hPool : pool = .counter label
    · rw [hReceived.counted label hPool, hPool, Option.toList_some, List.count_singleton_self]
    · rw [hReceived.uncounted label hPool, Option.toList_some, List.count_singleton, if_neg]
      · rfl
      · simpa using hPool

/-- A client with a handle on a connection can make any calls on it, one after the other. -/
theorem exists_run_of_calls {lifecycle : Lifecycle Pool} (calls : List (Lifecycle.Call Pool))
    (hHeld : s.held? i = some { c with lifecycle }) : ∃ entries s', Run s entries s' ∧
      entries.map Entry.action = calls.map (·.action i) ∧
      List.Forall₂ (fun turn entry => entry.CarriesOut i c turn) (lifecycle.history calls)
        entries ∧
      s'.held? i = some { c with lifecycle := lifecycle.left (lifecycle.history calls) } ∧
      ∀ label, s'.returned label = s.returned label +
        ((lifecycle.history calls).filterMap Lifecycle.Turn.handedBack?).count
          (.counter label) := by
  induction calls generalizing s lifecycle with
  | nil => exact ⟨[], s, .refl, rfl, .nil, hHeld, fun _ => rfl⟩
  | cons call calls ih =>
    obtain ⟨entry, rfl, hStep, hCarries⟩ := exists_carriesOut ⟨lifecycle, call⟩ hHeld
    obtain ⟨entries, s', hRun, hActions, hLater, hLeft, hReturned⟩ := ih hCarries.after
    have hFirst : Run entry.before ([] ++ [entry]) entry.after := .next .refl hStep
    refine ⟨entry :: entries, s', hFirst.trans hRun,
      congrArg₂ List.cons hCarries.asks hActions, .cons hCarries hLater, hLeft, ?_⟩
    intro label
    rw [hReturned, hCarries.returned, Lifecycle.history_cons, filterMap_cons_toList,
      List.count_append, Nat.add_assoc]

/-- What any calls on a connection add up to, for whatever pools: each call does what it does to
owner and pin, and a pool gets the connection back once for each of its attachments that has
ended. -/
theorem calls_keep_account (hHeld : s.held? i = some c) (calls : List (Lifecycle.Call Pool)) :
    c.lifecycle.Lawful calls ∧ ∃ entries s', Run s entries s' ∧
      entries.map Entry.action = calls.map (·.action i) ∧
      List.Forall₂ (fun turn entry => entry.CarriesOut i c turn) (c.lifecycle.history calls)
        entries ∧
      s'.held? i = some { c with lifecycle := c.lifecycle.left (c.lifecycle.history calls) } ∧
      ∀ label, s'.returned label = s.returned label +
        (Lifecycle.ended c.lifecycle.owner? (c.lifecycle.history calls)).count
          (.counter label) := by
  obtain ⟨entries, s', hRun, hActions, hCarries, hLeft, hReturned⟩ :=
    exists_run_of_calls calls hHeld
  refine ⟨c.lifecycle.lawful calls, entries, s', hRun, hActions, hCarries, hLeft, fun label => ?_⟩
  rw [hReturned, Lifecycle.handedBack_history]

/-- A pinned connection stays until it is given up by force; then another pool has it for a while,
and refuses it to a third one. -/
theorem calls_on_lent : ∃ c entries s', lent.held? 0 = some c ∧ Run lent entries s' ∧
    s'.returned "probe" = 1 ∧ s'.returned "other" = 0 ∧
    s'.held? 0 = some { c with lifecycle := .idle } := by
  let calls : List (Lifecycle.Call Pool) :=
    [.reserve, .release false, .release true, .tryAcquired (.counter "probe"),
      .acquired (.counter "other"), .release false, .release false]
  have hHeld : lent.held? 0 =
    some (.opened "server" lent.config.maxMessageSize (.cache "server")) := rfl
  obtain ⟨_, entries, s', hRun, _, _, hLeft, hReturned⟩ := calls_keep_account hHeld calls
  refine ⟨_, entries, s', hHeld, hRun, ?_, ?_, hLeft⟩
  · rw [hReturned]
    decide
  · rw [hReturned]
    decide

end Session

end DocumentLink
