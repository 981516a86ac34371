import DocumentLink.Proofs.Session.Cache

/-! What it does to ask a cache for a connection, whatever the cache holds: connections in any
state, and perhaps one of them twice.  The cache loses the closed connections above the topmost open
one together with that one.  Nothing else changes but the owner of what is handed out. -/

namespace DocumentLink

namespace Session

variable {s : Session} {k : Nat}

/-- What comes of opening a connection to the server. -/
def dial (s : Session) : Except IoError Unit := do
  s.network.connect
  if s.config.writeTimeout = some 0 then throw .zeroTimeout

theorem connect_eq (s : Session) (pool : Pool) : s.connect pool = match s.dial with
    | .error e => (s, .failed (.transport (.io e)))
    | .ok () => (s.opens pool, .socket s.slots.length true) := by
  unfold connect dial establish
  cases s.network.connect with
  | error e => rfl
  | ok _ =>
    change (if _ then _ else _) = match (if _ then _ else _ : Except IoError Unit) with
      | .error e => _
      | .ok () => _
    split <;> rfl

/-- The answer of cache `k` and what becomes of the cache.  An open connection that nobody owns is
handed out; one with an owner is refused and keeps it; where all are closed a new one is opened. -/
inductive Asked (s : Session) (k : Nat) : Answer → Session → Prop
  | handedOut {i : Nat} {dropped rest : List Nat} {c : Connection Pool Handler} {s' : Session}
      (split : s.cached k = dropped ++ i :: rest) (closed : ∀ j ∈ dropped, s.isClosedAt j = true)
      (live : s.isClosedAt i = false) (here : s.connection? i = some c) (free : c.lifecycle = .idle)
      (left : s'.cached k = rest)
      (held : s'.held? i = some { c with lifecycle := .acquired (.cache s.address k) }) :
      Asked s k (.socket i false) s'
  | busy {i : Nat} {dropped rest : List Nat} {owner : Pool} {s' : Session}
      (split : s.cached k = dropped ++ i :: rest) (closed : ∀ j ∈ dropped, s.isClosedAt j = true)
      (live : s.isClosedAt i = false) (owned : s.owner? i = some owner) (left : s'.cached k = rest)
      (kept : s'.lifecycle? i = s.lifecycle? i) :
      Asked s k (.failed (.lifecycle (.alreadyAcquired (PoolEntry.address owner)))) s'
  | opened {s' : Session} (closed : ∀ i ∈ s.cached k, s.isClosedAt i = true)
      (dialled : s.dial = .ok ()) (left : s'.cached k = [])
      (held : s'.held? s.slots.length =
        some (.opened s.address s.config.maxMessageSize (.cache s.address k))) :
      Asked s k (.socket s.slots.length true) s'
  | failed {e : IoError} {s' : Session} (closed : ∀ i ∈ s.cached k, s.isClosedAt i = true)
      (dialled : s.dial = .error e) (left : s'.cached k = []) :
      Asked s k (.failed (.transport (.io e))) s'

/-- What a request to cache `k` leaves as it is: the other caches, the counts of what came back, the
owners and pins of connections but for the one that is handed out, and all else about a connection
that is still referred to. -/
structure Leaves (s : Session) (k : Nat) (answer : Answer) (s' : Session) : Prop where
  caches : ∀ k', k' ≠ k → s'.cached k' = s.cached k'
  returned : ∀ label, s'.returned label = s.returned label
  lifecycle : ∀ j lifecycle, s.lifecycle? j = some lifecycle → answer ≠ .socket j false →
    s'.lifecycle? j = some lifecycle
  inside : ∀ j c, s.connection? j = some c → s'.Refers j →
    ∃ lifecycle, s'.connection? j = some { c with lifecycle }

/-- What is disposed of after a request is not referred to any more. -/
theorem leaves_sweep {t : Session} {answer : Answer}
    (hCaches : ∀ k', k' ≠ k → t.cached k' = s.cached k')
    (hReturned : ∀ label, t.returned label = s.returned label)
    (hLifecycle : ∀ j lifecycle, s.lifecycle? j = some lifecycle → answer ≠ .socket j false →
      t.lifecycle? j = some lifecycle)
    (hInside : ∀ j c, s.connection? j = some c →
      ∃ lifecycle, t.connection? j = some { c with lifecycle }) :
    Leaves s k answer t.sweep.session := by
  have hSettles := settles_sweep t
  refine ⟨?_, ?_, ?_, ?_⟩
  · exact fun k' hOther => (hSettles.cached k').trans (hCaches k' hOther)
  · exact fun label => (hSettles.returned label).trans (hReturned label)
  · exact fun j lifecycle hHere hOther =>
      (hSettles.lifecycle j).trans (hLifecycle j lifecycle hHere hOther)
  · intro j c hHere hRefers
    obtain ⟨lifecycle, hAfter⟩ := hInside j c hHere
    exact ⟨lifecycle, (spares_sweep t).connection hAfter hRefers⟩

theorem cached_setCached_of_ne (s : Session) (k : Nat) (sockets : List Nat) {k' : Nat}
    (h : k' ≠ k) : (s.setCached k sockets).cached k' = s.cached k' := by
  rw [cached_setCached, if_neg h]

theorem cached_setCached_self (s : Session) (k : Nat) (sockets : List Nat) :
    (s.setCached k sockets).cached k = sockets := by
  rw [cached_setCached, if_pos rfl]

/-- A request that hands nothing out, or something new, touches no connection. -/
theorem leaves_setCached (s : Session) (k : Nat) (sockets : List Nat) (answer : Answer) :
    Leaves s k answer (s.setCached k sockets).sweep.session :=
  leaves_sweep (fun _ => s.cached_setCached_of_ne k sockets) (fun _ => rfl)
    (fun _ _ hHere _ => hHere) fun _ c hHere => ⟨c.lifecycle, hHere⟩

theorem lt_of_connection {s : Session} {j : Nat} {c : Connection Pool Handler}
    (h : s.connection? j = some c) : j ≠ s.slots.length := by
  rintro rfl
  rw [connection?, List.getElem?_eq_none le_rfl] at h
  cases h

theorem leaves_opens (s : Session) (k : Nat) (answer : Answer) :
    Leaves s k answer ((s.setCached k []).opens (.cache s.address k)).sweep.session := by
  have hSame {j : Nat} {c : Connection Pool Handler} (hHere : s.connection? j = some c) :
      ((s.setCached k []).opens (.cache s.address k)).connection? j = some c := by
    rw [connection?_opens]
    exact (if_neg (lt_of_connection hHere)).trans hHere
  refine leaves_sweep (fun _ => s.cached_setCached_of_ne k []) (fun _ => rfl) ?_ ?_
  · intro j lifecycle hHere _
    rw [lifecycle?, Option.map_eq_some_iff] at hHere
    obtain ⟨c, hHere, rfl⟩ := hHere
    exact lifecycle?_of_connection (hSame hHere)
  · exact fun j c hHere => ⟨c.lifecycle, hSame hHere⟩

theorem leaves_handedOut (s : Session) (k i : Nat) (rest : List Nat) (owner : Lifecycle Pool) :
    Leaves s k (.socket i false)
      (((s.setCached k rest).setLifecycle i owner).setHeld i true).sweep.session := by
  have hConnection (j : Nat) :
      (((s.setCached k rest).setLifecycle i owner).setHeld i true).connection? j =
        if i = j then (s.connection? j).map fun c => { c with lifecycle := owner }
        else s.connection? j :=
    (connection?_setHeld _ i true j).trans (connection?_setLifecycle _ i owner j)
  refine leaves_sweep (fun _ => s.cached_setCached_of_ne k rest) (fun _ => rfl) ?_ ?_
  · intro j lifecycle hHere hOther
    have hNot : i ≠ j := by
      rintro rfl
      exact hOther rfl
    rw [lifecycle?, hConnection, if_neg hNot]
    exact hHere
  · intro j c hHere
    rw [hConnection, hHere]
    split
    · exact ⟨owner, rfl⟩
    · exact ⟨c.lifecycle, rfl⟩

/-- The connection that is handed out has a new owner, and the client has a handle on it. -/
theorem held?_handedOut (s : Session) {i : Nat} {c : Connection Pool Handler}
    (hHere : s.connection? i = some c) (rest : List Nat) (owner : Lifecycle Pool) :
    (((s.setCached k rest).setLifecycle i owner).setHeld i true).held? i =
      some { c with lifecycle := owner } := by
  rw [connection?, Option.map_eq_some_iff] at hHere
  obtain ⟨slot, hSlot, rfl⟩ := hHere
  rw [held?_eq_some_iff]
  change ((s.slots.modify i _).modify i _)[i]? = _
  rw [List.getElem?_modify_eq, List.getElem?_modify_eq, hSlot]
  rfl

theorem held?_opens (s : Session) (pool : Pool) :
    (s.opens pool).held? s.slots.length =
      some (.opened s.address s.config.maxMessageSize pool) := by
  rw [held?_eq_some_iff]
  exact List.getElem?_concat_length

/-- Whatever a cache holds, it gives out the topmost open connection if nobody owns that one, says
who does if somebody does, and opens a new one where it has none.  It has then lost that connection
and the closed ones above it, and nothing else. -/
theorem acquire_takes_topmost_open (s : Session) (k : Nat) :
    ∃ effect, s.step (.acquire k) = some effect ∧ Asked s k effect.result effect.session ∧
      Leaves s k effect.result effect.session := by
  refine ⟨_, rfl, ?_⟩
  change Asked s k (s.acquire k).2 (s.acquire k).1.sweep.session ∧
    Leaves s k (s.acquire k).2 (s.acquire k).1.sweep.session
  have hAcquires := s.acquires_acquire k
  generalize s.acquire k = r at hAcquires
  have hCached (t : Session) := (settles_sweep t).cached k
  cases hAcquires with
  | @taken i dropped rest split closed live free =>
    rw [lifecycle?, Option.map_eq_some_iff] at free
    obtain ⟨c, hHere, hFree⟩ := free
    refine ⟨.handedOut split closed live hHere hFree ?_ ?_, s.leaves_handedOut k i rest _⟩
    · exact (hCached _).trans (s.cached_setCached_self k rest)
    · exact (spares_sweep _).held (s.held?_handedOut hHere rest _)
  | @busy i dropped rest owner split closed live owned =>
    refine ⟨.busy split closed live owned ?_ ?_, s.leaves_setCached k rest _⟩
    · exact (hCached _).trans (s.cached_setCached_self k rest)
    · exact (settles_sweep _).lifecycle i
  | exhausted closed =>
    have hDials : (s.setCached k []).dial = s.dial := rfl
    rw [connect_eq, hDials]
    cases hDial : s.dial with
    | error e =>
      refine ⟨.failed closed hDial ?_, s.leaves_setCached k [] _⟩
      exact (hCached _).trans (s.cached_setCached_self k [])
    | ok _ =>
      refine ⟨.opened closed hDial ?_ ?_, s.leaves_opens k _⟩
      · exact (hCached _).trans (s.cached_setCached_self k [])
      · exact (spares_sweep _).held (held?_opens (s.setCached k []) _)

/-! What a cache holds twice has an owner when it comes up for the second time. -/

example : let twice := { rested with idle := [(0, 0), (0, 0)] }
    (twice.acquire 0).2 = .socket 0 false ∧
      ((twice.acquire 0).1.acquire 0).2 = .failed (.lifecycle (.alreadyAcquired "server")) :=
  ⟨rfl, rfl⟩

end Session

end DocumentLink
