import DocumentLink.Proofs.Log
import DocumentLink.Proofs.Session.Settling
import Mathlib.Data.List.TakeWhile

/-! Runs of a session.  `Dealt` lists once what an action does to the owners of the connections and
to the pools; everything said of these in runs is proved by cases on it. -/

namespace DocumentLink

namespace Session

variable {s s' t : Session} {i j : Nat}

/-! ### What an action does to owners and pools -/

/-- The ways in which an action comes out.  A quiet one changes no owner and no cache. -/
inductive Dealt (s : Session) : Action → Answer → Session → Prop
  | quiet {action : Action} {answer : Answer} {s' : Session} (same : Settles s s')
      (noSocket : ∀ i isNew, answer ≠ .socket i isNew)
      (noClaim : ∀ i pool, action = .tryAcquired i pool ∨ action = .acquired i pool →
        answer ≠ .done)
      (noAcquire : ∀ k, action ≠ .acquire k) : Dealt s action answer s'
  | opened {pool : Pool} {action : Action} {s' : Session}
      (asks : action = .connect pool ∨ action = .wrap pool) (same : Settles (s.opens pool) s') :
      Dealt s action (.socket s.slots.length true) s'
  | renewed {k : Nat} {s' : Session} (closed : ∀ i ∈ s.cached k, s.isClosedAt i = true)
      (same : Settles ((s.setCached k []).opens (.cache s.address k)) s') :
      Dealt s (.acquire k) (.socket s.slots.length true) s'
  | cleared {k : Nat} {e : TransportError} {s' : Session}
      (closed : ∀ i ∈ s.cached k, s.isClosedAt i = true) (same : Settles (s.setCached k []) s') :
      Dealt s (.acquire k) (.failed (.transport e)) s'
  | taken {k i : Nat} {dropped rest : List Nat} {s' : Session}
      (split : s.cached k = dropped ++ i :: rest) (closed : ∀ j ∈ dropped, s.isClosedAt j = true)
      (live : s.isClosedAt i = false) (free : s.lifecycle? i = some .idle)
      (same : Settles ((s.setCached k rest).setLifecycle i (.acquired (.cache s.address k))) s') :
      Dealt s (.acquire k) (.socket i false) s'
  | busy {k i : Nat} {dropped rest : List Nat} {owner : Pool} {e : LifecycleError} {s' : Session}
      (split : s.cached k = dropped ++ i :: rest) (closed : ∀ j ∈ dropped, s.isClosedAt j = true)
      (owned : s.owner? i = some owner) (same : Settles (s.setCached k rest) s') :
      Dealt s (.acquire k) (.failed (.lifecycle e)) s'
  | claimed {i : Nat} {pool : Pool} {action : Action} {s' : Session}
      (asks : action = .tryAcquired i pool ∨ action = .acquired i pool)
      (free : s.lifecycle? i = some .idle)
      (same : Settles (s.setLifecycle i (.acquired pool)) s') : Dealt s action .done s'
  | pinned {i : Nat} {owner : Pool} {s' : Session} (owned : s.owner? i = some owner)
      (same : Settles (s.setLifecycle i (.reserved owner)) s') : Dealt s (.reserve i) .done s'
  | released {i : Nat} {pool : Pool} {force : Bool} {s' : Session} (owned : s.owner? i = some pool)
      (same : Settles ((s.setLifecycle i .idle).takeBack i pool) s') :
      Dealt s (.release i force) .done s'
  | given {i : Nat} {pool : Pool} {s' : Session} (same : Settles (s.takeBack i pool) s') :
      Dealt s (.giveBack i pool) .done s'

theorem onHeld_cases {P : Effect Answer → Prop} {f : Connection Pool Handler → Effect Answer}
    (hNone : P { session := s, result := .unknown })
    (hSome : ∀ c, s.connection? i = some c → P (f c)) : P (s.onHeld i f) := by
  unfold onHeld
  split
  next => exact hNone
  next c hHeld =>
    refine hSome c ?_
    unfold held? at hHeld
    split at hHeld
    next slot hSlot =>
      split at hHeld <;> cases hHeld
      exact connection?_of_slot hSlot
    next => cases hHeld

theorem establish_cases (s : Session) (pool : Pool) :
    (∃ e, s.establish pool = (s, .failed (.transport e))) ∨
      s.establish pool = (s.opens pool, .socket s.slots.length true) := by
  unfold establish
  split
  · exact .inl ⟨_, rfl⟩
  · exact .inr rfl

theorem connect_cases (s : Session) (pool : Pool) :
    (∃ e, s.connect pool = (s, .failed (.transport e))) ∨
      s.connect pool = (s.opens pool, .socket s.slots.length true) := by
  unfold connect
  split
  · exact .inl ⟨_, rfl⟩
  · exact establish_cases s pool

/-- A connection that is not closed exists. -/
theorem exists_of_live (hLive : s.isClosedAt i = false) : ∃ slot, s.slots[i]? = some slot := by
  rw [isClosedAt] at hLive
  split at hLive
  next slot hSlot => exact ⟨slot, hSlot⟩
  next => cases hLive

/-- The ways in which it comes out to ask cache `k`, before what has become loose is disposed of. -/
inductive Acquires (s : Session) (k : Nat) : Session × Answer → Prop
  | taken {i : Nat} {dropped rest : List Nat} (split : s.cached k = dropped ++ i :: rest)
      (closed : ∀ j ∈ dropped, s.isClosedAt j = true) (live : s.isClosedAt i = false)
      (free : s.lifecycle? i = some .idle) :
      Acquires s k (((s.setCached k rest).setLifecycle i
        (.acquired (.cache s.address k))).setHeld i true, .socket i false)
  | busy {i : Nat} {dropped rest : List Nat} {owner : Pool}
      (split : s.cached k = dropped ++ i :: rest) (closed : ∀ j ∈ dropped, s.isClosedAt j = true)
      (live : s.isClosedAt i = false) (owned : s.owner? i = some owner) :
      Acquires s k (s.setCached k rest,
        .failed (.lifecycle (.alreadyAcquired (PoolEntry.address owner))))
  | exhausted (closed : ∀ i ∈ s.cached k, s.isClosedAt i = true) :
      Acquires s k ((s.setCached k []).connect (.cache s.address k))

theorem acquires_acquire (s : Session) (k : Nat) : Acquires s k (s.acquire k) := by
  have hDropped : ∀ j ∈ (s.cached k).takeWhile s.isClosedAt, s.isClosedAt j = true :=
    fun j hMem => List.mem_takeWhile_imp hMem
  have hSplit := List.takeWhile_append_dropWhile (p := s.isClosedAt) (l := s.cached k)
  unfold acquire
  dsimp only
  split
  next hNone =>
    rw [hNone, List.append_nil] at hSplit
    rw [hSplit] at hDropped
    exact .exhausted hDropped
  next i rest hSome =>
    have hLive : s.isClosedAt i = false := by
      have hHead := List.head?_dropWhile_not s.isClosedAt (s.cached k)
      rw [hSome] at hHead
      simpa using hHead
    rw [hSome] at hSplit
    obtain ⟨slot, hSlot⟩ := exists_of_live hLive
    have hLifecycle := lifecycle?_of_connection (connection?_of_slot hSlot)
    have hSlotNow : (s.setCached k rest).slots[i]? = some slot := hSlot
    have hOwner : s.owner? i = slot.connection.lifecycle.owner? := by rw [owner?, hLifecycle]; rfl
    simp only [hSlotNow, Lifecycle.acquire]
    cases hCase : slot.connection.lifecycle with
    | idle =>
      rw [hCase] at hLifecycle
      exact .taken hSplit.symm hDropped hLive hLifecycle
    | acquired owner => exact .busy hSplit.symm hDropped hLive (by rw [hOwner, hCase]; rfl)
    | reserved owner => exact .busy hSplit.symm hDropped hLive (by rw [hOwner, hCase]; rfl)

theorem dealt_acquire (s : Session) (k : Nat) (hSame : Settles (s.acquire k).1 s') :
    Dealt s (.acquire k) (s.acquire k).2 s' := by
  have hAcquires := s.acquires_acquire k
  generalize s.acquire k = r at hSame hAcquires
  cases hAcquires with
  | taken split closed live free =>
    exact .taken split closed live free ((settles_setHeld _ _ true).trans hSame)
  | busy split closed _ owned => exact .busy split closed owned hSame
  | exhausted closed =>
    rcases connect_cases (s.setCached k []) (.cache s.address k) with ⟨e, hFailed⟩ | hOpened
    · rw [hFailed] at hSame ⊢
      exact .cleared closed hSame
    · rw [hOpened] at hSame ⊢
      exact .renewed closed hSame

/-- A connection is established for a pool. -/
theorem dealt_opening {r : Session × Answer} {pool : Pool} {action : Action}
    (hAsks : action = .connect pool ∨ action = .wrap pool)
    (hCases : (∃ e, r = (s.mention pool, .failed (.transport e))) ∨
      r = ((s.mention pool).opens pool, .socket (s.mention pool).slots.length true))
    (hSame : Settles r.1 s') : Dealt s action r.2 s' := by
  have hMention := settles_mention s pool
  rcases hCases with ⟨e, rfl⟩ | rfl
  · refine .quiet (hMention.trans hSame) nofun ?_ ?_
    · rintro _ _ (rfl | rfl) <;> nofun
    · rintro _ rfl
      rcases hAsks with hNot | hNot <;> cases hNot
  · have hOpens : Settles (s.opens pool) ((s.mention pool).opens pool) := by
      refine .of_connections ?_ hMention.idle hMention.returned hMention.address
      intro i
      rw [mention_eq]
      rfl
    have hSlots : (s.mention pool).slots = s.slots := by rw [mention_eq]
    rw [hSlots]
    exact .opened hAsks (hOpens.trans hSame)

section

variable {c : Connection Pool Handler}

/-- A client claims a connection that it has a handle on. -/
theorem dealt_claim {pool : Pool} {action : Action} {refuse : LifecycleError → Answer}
    (hAsks : action = .tryAcquired i pool ∨ action = .acquired i pool)
    (hRefuse : ∀ e, (∀ j isNew, refuse e ≠ .socket j isNew) ∧ refuse e ≠ .done)
    (hHere : s.connection? i = some c) (hSame : Settles (s.claim i c pool refuse).1 s') :
    Dealt s action (s.claim i c pool refuse).2 s' := by
  have hLifecycle := lifecycle?_of_connection hHere
  have hMention := settles_mention s pool
  have hNoAcquire : ∀ k, action ≠ .acquire k := by
    rintro _ rfl
    rcases hAsks with hNot | hNot <;> cases hNot
  have hBusy {owner : Pool} (hOwned : c.lifecycle.owner? = some owner) :
      Dealt s action (s.claim i c pool refuse).2 s' := by
    simp only [claim, Lifecycle.acquire, hOwned] at hSame ⊢
    obtain ⟨hNoSocket, hNotDone⟩ := hRefuse (.alreadyAcquired (PoolEntry.address owner))
    exact .quiet (hMention.trans hSame) hNoSocket (fun _ _ _ => hNotDone) hNoAcquire
  cases hOwner : c.lifecycle with
  | idle =>
    simp only [claim, hOwner, Lifecycle.acquire, Lifecycle.owner?] at hSame ⊢
    rw [hOwner] at hLifecycle
    have hClaims : Settles (s.setLifecycle i (.acquired pool))
        ((s.mention pool).setLifecycle i (.acquired pool)) := by
      refine .of_connections ?_ hMention.idle hMention.returned hMention.address
      intro j
      rw [mention_eq]
      rfl
    exact .claimed hAsks hLifecycle (hClaims.trans hSame)
  | acquired owner => exact hBusy (by rw [hOwner]; rfl)
  | reserved owner => exact hBusy (by rw [hOwner]; rfl)

theorem dealt_reserve (hHere : s.connection? i = some c) (hSame : Settles (s.reserve i c).1 s') :
    Dealt s (.reserve i) (s.reserve i c).2 s' := by
  have hLifecycle := lifecycle?_of_connection hHere
  have hPins {owner : Pool} (hOwned : c.lifecycle.owner? = some owner) :
      Dealt s (.reserve i) (s.reserve i c).2 s' := by
    simp only [reserve, Lifecycle.reserve, hOwned] at hSame ⊢
    have hOwner : s.owner? i = some owner := by rw [owner?, hLifecycle]; exact hOwned
    exact .pinned hOwner hSame
  cases hOwner : c.lifecycle with
  | idle =>
    simp only [reserve, hOwner, Lifecycle.reserve, Lifecycle.owner?] at hSame ⊢
    exact .quiet hSame nofun (fun _ _ _ => nofun) nofun
  | acquired owner => exact hPins (by rw [hOwner]; rfl)
  | reserved owner => exact hPins (by rw [hOwner]; rfl)

theorem dealt_release (hHere : s.connection? i = some c) {force : Bool}
    (hSame : Settles (s.release i c force).1 s') :
    Dealt s (.release i force) (s.release i c force).2 s' := by
  have hLifecycle := lifecycle?_of_connection hHere
  have hOwner {owner : Pool} (hOwned : c.lifecycle.owner? = some owner) :
      s.owner? i = some owner := by rw [owner?, hLifecycle]; exact hOwned
  cases hCase : c.lifecycle with
  | idle =>
    simp only [release, hCase, Lifecycle.release] at hSame ⊢
    exact .quiet hSame nofun nofun nofun
  | acquired owner =>
    simp only [release, hCase, Lifecycle.release, Option.elim] at hSame ⊢
    exact .released (hOwner (by rw [hCase]; rfl)) hSame
  | reserved owner =>
    cases force with
    | true =>
      simp only [release, hCase, Lifecycle.release, if_true, Option.elim] at hSame ⊢
      exact .released (hOwner (by rw [hCase]; rfl)) hSame
    | false =>
      -- a pinned connection stays where it is
      simp only [release, hCase, Lifecycle.release, Bool.false_eq_true, if_false, Option.elim]
        at hSame ⊢
      have hStays : Settles s (s.setLifecycle i (.reserved owner)) := by
        refine .of_connections ?_ rfl (fun _ => rfl) rfl
        intro j
        rw [connection?_setLifecycle]
        split
        next hj =>
          rw [← hj, hHere, ← hCase]
          rfl
        next => rfl
      exact .quiet (hStays.trans hSame) nofun nofun nofun

/-- The client sends a batch. -/
theorem dealt_query {ops : List (Operation (String × HandlerKind))}
    (hHere : s.connection? i = some c) (hSame : Settles (s.query i c ops).session s') :
    Dealt s (.query i ops) (s.query i c ops).result s' := by
  have hExpects : Settles s (s.expect (numbered s.handlers ops).2) :=
    .of_connections (fun _ => rfl) rfl (fun _ => rfl) rfl
  have hHere' : (s.expect (numbered s.handlers ops).2).connection? i = some c := hHere
  have hAdopts := settles_adopt hHere' (c.keeps_query (numbered s.handlers ops).1)
  refine .quiet (hExpects.trans (hAdopts.trans hSame)) ?_ nofun nofun
  intro j isNew
  unfold query
  dsimp only
  split <;> nofun

end

/-- The client takes what has been gathered for it. -/
theorem dealt_wait (s : Session) (label : String) (hSame : Settles (s.wait label).1 s') :
    Dealt s (.wait label) (s.wait label).2 s' := by
  have hForgets : Settles s { s with waiters := s.waiters.filter fun v => v.label != label } :=
    .of_connections (fun _ => rfl) rfl (fun _ => rfl) rfl
  generalize hWait : s.wait label = r at hSame
  unfold wait at hWait
  dsimp only at hWait
  split at hWait
  · cases hWait
    exact .quiet hSame nofun nofun nofun
  · split at hWait
    · cases hWait
      exact .quiet (hForgets.trans hSame) nofun nofun nofun
    · split at hWait <;> cases hWait <;> exact .quiet (hForgets.trans hSame) nofun nofun nofun

theorem dealt_perform {action : Action} {effect : Effect Answer}
    (h : s.perform action = some effect) (hSame : Settles effect.session s') :
    Dealt s action effect.result s' := by
  have hOnHeld {action : Action} {i : Nat} {f : Connection Pool Handler → Effect Answer}
      (hNoAcquire : ∀ k, action ≠ .acquire k)
      (hSome : ∀ c, s.connection? i = some c → Settles (f c).session s' →
        Dealt s action (f c).result s') :
      Settles (s.onHeld i f).session s' → Dealt s action (s.onHeld i f).result s' := by
    refine onHeld_cases (P := fun effect => Settles effect.session s' →
      Dealt s action effect.result s') ?_ hSome
    intro hSame
    exact .quiet hSame nofun (fun _ _ _ => nofun) hNoAcquire
  cases action with
  | connect pool =>
    cases h
    exact dealt_opening (.inl rfl) (connect_cases _ pool) hSame
  | wrap pool =>
    simp only [perform, Option.ite_none_right_eq_some, Option.some.injEq] at h
    obtain ⟨_, rfl⟩ := h
    exact dealt_opening (.inr rfl) (establish_cases _ pool) hSame
  | acquire k =>
    cases h
    exact dealt_acquire s k hSame
  | query i ops =>
    cases h
    exact hOnHeld nofun (fun c hHere hSame => dealt_query hHere hSame) hSame
  | send i bytes hangup =>
    unfold perform at h
    dsimp only at h
    split at h
    · cases h
      exact .quiet hSame nofun nofun nofun
    · next slot hSlot =>
      cases h
      have hAdopts := settles_adopt (connection?_of_slot hSlot)
        (slot.connection.keeps_receive bytes (if hangup then .ended else .live))
      exact .quiet (hAdopts.trans hSame) nofun nofun nofun
  | reserve i =>
    cases h
    exact hOnHeld nofun (fun c hHere hSame => dealt_reserve hHere hSame) hSame
  | release i force =>
    cases h
    exact hOnHeld nofun (fun c hHere hSame => dealt_release hHere hSame) hSame
  | giveBack i pool =>
    cases h
    exact hOnHeld nofun (fun c hHere hSame => .given hSame) hSame
  | tryAcquired i pool =>
    cases h
    exact hOnHeld nofun
      (fun c hHere hSame => dealt_claim (.inl rfl) (fun _ => ⟨nofun, nofun⟩) hHere hSame) hSame
  | acquired i pool =>
    cases h
    exact hOnHeld nofun
      (fun c hHere hSame => dealt_claim (.inr rfl) (fun _ => ⟨nofun, nofun⟩) hHere hSame) hSame
  | close i =>
    cases h
    refine hOnHeld nofun (fun c hHere hSame => ?_) hSame
    have hAdopts : Settles s (s.adopt i c.close).session :=
      settles_adopt hHere (c.keeps_fail _)
    exact .quiet (hAdopts.trans hSame) nofun nofun nofun
  | address i =>
    cases h
    exact hOnHeld nofun (fun c _ hSame => .quiet hSame nofun nofun nofun) hSame
  | describe i =>
    cases h
    exact hOnHeld nofun (fun c _ hSame => .quiet hSame nofun nofun nofun) hSame
  | shutdownWrite i =>
    cases h
    refine hOnHeld nofun (fun c hHere hSame => ?_) hSame
    have hKeeps : c.Keeps { c with outbound := ⟨some (0, .brokenPipe)⟩ } := ⟨rfl, id⟩
    exact .quiet ((settles_setConnection hHere hKeeps).trans hSame) nofun nofun nofun
  | drop i =>
    cases h
    exact hOnHeld nofun (fun c _ hSame =>
      .quiet ((settles_setHeld s i false).trans hSame) nofun nofun nofun) hSame
  | wait label =>
    cases h
    exact dealt_wait s label hSame
  | giveUp label =>
    cases h
    have hForgets : Settles s { s with waiters := s.waiters.filter fun w => w.label != label } :=
      .of_connections (fun _ => rfl) rfl (fun _ => rfl) rfl
    exact .quiet (hForgets.trans hSame) nofun nofun nofun
  | stopListening =>
    cases h
    have hStops : Settles s
        { s with network := if s.network = .listening then .refusing else s.network } :=
      .of_connections (fun _ => rfl) rfl (fun _ => rfl) rfl
    exact .quiet (hStops.trans hSame) nofun nofun nofun

theorem dealt_step {action : Action} {effect : Effect Answer} (h : s.step action = some effect) :
    Dealt s action effect.result effect.session := by
  rw [step, Option.map_eq_some_iff] at h
  obtain ⟨performed, hPerform, hSwept⟩ := h
  have hDealt := dealt_perform hPerform (settles_sweep performed.session)
  rw [← hSwept]
  exact hDealt

/-! ### Runs -/

/-- What happened in one step of a run. -/
structure Entry where
  before : Session
  action : Action
  effect : Effect Answer

def Entry.after (entry : Entry) : Session := entry.effect.session

/-- A step came out in one of the ways in which actions do. -/
def Entry.Actual (entry : Entry) : Prop :=
  Dealt entry.before entry.action entry.effect.result entry.after

/-- A run of a session, with the log of its steps. -/
inductive Run (start : Session) : List Entry → Session → Prop
  | refl : Run start [] start
  | next {log : List Entry} {entry : Entry} (run : Run start log entry.before)
      (steps : entry.before.step entry.action = some entry.effect) :
      Run start (log ++ [entry]) entry.after

theorem Run.trans {start s s' : Session} {log log' : List Entry} (run : Run start log s)
    (later : Run s log' s') : Run start (log ++ log') s' := by
  induction later with
  | refl =>
    rw [List.append_nil]
    exact run
  | next _ hSteps ih =>
    rw [← List.append_assoc]
    exact ih.next hSteps

/-- A step of a run lies between the run before it and the run after it. -/
theorem Run.split {start s : Session} {first rest : List Entry} {entry : Entry}
    (run : Run start (first ++ entry :: rest) s) :
    Run start first entry.before ∧ entry.before.step entry.action = some entry.effect ∧
      Run entry.after rest s := by
  generalize hLog : first ++ entry :: rest = log at run
  induction run generalizing rest with
  | refl =>
    rw [List.append_eq_nil_iff] at hLog
    cases hLog.2
  | next run hSteps ih =>
    rcases eq_concat_cases hLog with ⟨rfl, rfl, rfl⟩ | ⟨rest, rfl, hFirst⟩
    · exact ⟨run, hSteps, .refl⟩
    · obtain ⟨hBefore, hStep, hAfter⟩ := ih hFirst
      exact ⟨hBefore, hStep, hAfter.next hSteps⟩

namespace Entry

/-- Connection `i` gets an owner: it was connected for a pool, a cache handed it out, or a client
claimed it for a pool. -/
inductive Attaches (entry : Entry) (i : Nat) : Pool → Prop
  | connected {pool : Pool} (asks : entry.action = .connect pool ∨ entry.action = .wrap pool)
      (answer : entry.effect.result = .socket i true) : Attaches entry i pool
  | acquired {k : Nat} {isNew : Bool} (asks : entry.action = .acquire k)
      (answer : entry.effect.result = .socket i isNew) :
      Attaches entry i (.cache entry.before.address k)
  | claimed {pool : Pool}
      (asks : entry.action = .tryAcquired i pool ∨ entry.action = .acquired i pool)
      (answer : entry.effect.result = .done) : Attaches entry i pool

/-- A release takes connection `i` from `pool`. -/
structure Detaches (entry : Entry) (i : Nat) (pool : Pool) : Prop where
  asks : ∃ force, entry.action = .release i force
  owned : entry.before.owner? i = some pool
  free : entry.after.owner? i = none

end Entry

end Session

end DocumentLink
