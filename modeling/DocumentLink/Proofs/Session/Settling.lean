import DocumentLink.Proofs.Connection.Run
import DocumentLink.Session.Action

/-! What there is to see of the owners of a session's connections and of its pools, and what leaves
it as it is.  What goes on inside of the connections does not touch who holds them: it can only
close them.  A sweep disposes of nothing that a handle or a cache refers to. -/

namespace DocumentLink

/-! ### What an operation keeps of a connection -/

namespace Connection

variable {P H : Type}

/-- The owner is the same, and a closed connection stays closed. -/
structure Keeps (c c' : Connection P H) : Prop where
  lifecycle : c'.lifecycle = c.lifecycle
  closed : c.isClosed = true → c'.isClosed = true

theorem Keeps.refl (c : Connection P H) : c.Keeps c := ⟨rfl, id⟩

theorem Keeps.trans {c c' c'' : Connection P H} (h : c.Keeps c') (h' : c'.Keeps c'') :
    c.Keeps c'' :=
  ⟨h'.lifecycle.trans h.lifecycle, fun hClosed => h'.closed (h.closed hClosed)⟩

theorem keeps_fail (c : Connection P H) (reason : String) : c.Keeps (c.fail reason).connection :=
  ⟨rfl, fun _ => rfl⟩

theorem keeps_query (c : Connection P H) (ops : List (Operation H)) :
    c.Keeps (c.query ops).connection := by
  generalize hQuery : c.query ops = r
  cases queried_of_query hQuery with
  | refused _ => exact .refl c
  | closed _ _ => exact .refl c
  | sent _ _ _ => exact ⟨rfl, id⟩
  | torn _ _ _ _ _ _ => exact ⟨rfl, fun _ => rfl⟩

theorem keeps_readStep {c : Connection P H} {r : Reaction P H Unit} (h : c.readStep = some r) :
    c.Keeps r.connection := by
  cases reads_of_readStep h with
  | stop inbound _ =>
    unfold stopReading
    dsimp only
    split
    · exact ⟨rfl, fun _ => rfl⟩
    · exact ⟨rfl, id⟩
  | _ => exact ⟨rfl, id⟩

theorem keeps_settle (c : Connection P H) : c.Keeps c.settle.connection := by
  induction c using Connection.settle.induct with
  | case1 c hStep =>
    rw [settle_of_none hStep]
    exact .refl c
  | case2 c r hStep ih =>
    rw [settle_of_some hStep]
    exact (keeps_readStep hStep).trans ih

theorem keeps_receive (c : Connection P H) (b : Bytes) (ending : Ending) :
    c.Keeps (c.receive b ending).connection := by
  have hArrived : c.Keeps { c with inbound := (c.inbound.append b).close ending } := ⟨rfl, id⟩
  exact hArrived.trans (keeps_settle _)

end Connection

namespace Session

/-! ### What there is to see of owners and pools -/

variable {s s' t : Session} {i j : Nat}

def connection? (s : Session) (i : Nat) : Option (Connection Pool Handler) :=
  (s.slots[i]?).map Slot.connection

def lifecycle? (s : Session) (i : Nat) : Option (Lifecycle Pool) :=
  (s.connection? i).map Connection.lifecycle

/-- The pool that a connection is attached to. -/
def owner? (s : Session) (i : Nat) : Option Pool := (s.lifecycle? i).bind Lifecycle.owner?

/-- How many connections came back to the counting pool with the given label. -/
def returned (s : Session) (label : String) : Nat := (s.recycled.lookup label).getD 0

theorem connection?_of_slot {slot : Slot} (h : s.slots[i]? = some slot) :
    s.connection? i = some slot.connection := by
  rw [connection?, h]
  rfl

theorem lifecycle?_of_connection {c : Connection Pool Handler} (h : s.connection? i = some c) :
    s.lifecycle? i = some c.lifecycle := by
  rw [lifecycle?, h]
  rfl

theorem isClosedAt_eq (s : Session) (i : Nat) :
    s.isClosedAt i = (s.connection? i).elim true Connection.isClosed := by
  rw [isClosedAt, connection?]
  cases s.slots[i]? <;> rfl

/-- A session is as another one but for what goes on inside of connections, and for connections that
have been closed. -/
structure Settles (t s : Session) : Prop where
  lifecycle : ∀ i, s.lifecycle? i = t.lifecycle? i
  closed : ∀ i, t.isClosedAt i = true → s.isClosedAt i = true
  idle : s.idle = t.idle
  returned : ∀ label, s.returned label = t.returned label
  address : s.address = t.address

theorem Settles.refl (s : Session) : Settles s s :=
  ⟨fun _ => rfl, fun _ => id, rfl, fun _ => rfl, rfl⟩

theorem Settles.trans (h : Settles t s) (h' : Settles s s') : Settles t s' :=
  ⟨fun i => (h'.lifecycle i).trans (h.lifecycle i),
    fun i hClosed => h'.closed i (h.closed i hClosed), h'.idle.trans h.idle,
    fun label => (h'.returned label).trans (h.returned label), h'.address.trans h.address⟩

theorem Settles.of_connections (hConnections : ∀ i, s.connection? i = t.connection? i)
    (hIdle : s.idle = t.idle) (hReturned : ∀ label, s.returned label = t.returned label)
    (hAddress : s.address = t.address) : Settles t s := by
  refine ⟨?_, ?_, hIdle, hReturned, hAddress⟩
  · intro i
    rw [lifecycle?, lifecycle?, hConnections]
  · intro i
    rw [isClosedAt_eq, isClosedAt_eq, hConnections]
    exact id

/-! ### Single connections -/

theorem connection?_modify {f : Slot → Slot}
    {g : Connection Pool Handler → Connection Pool Handler}
    (hSlots : s'.slots = s.slots.modify i f) (hf : ∀ slot, (f slot).connection = g slot.connection)
    (j : Nat) :
    s'.connection? j = if i = j then (s.connection? j).map g else s.connection? j := by
  rw [connection?, connection?, hSlots, List.getElem?_modify]
  cases s.slots[j]? with
  | none => split <;> rfl
  | some slot =>
    by_cases hj : i = j
    · simp only [if_pos hj, Option.map_eq_map, Option.map_some, hf]
    · simp only [if_neg hj, Option.map_eq_map, Option.map_some]

theorem connection?_setConnection (s : Session) (i : Nat) (c : Connection Pool Handler) (j : Nat) :
    (s.setConnection i c).connection? j =
      if i = j then (s.connection? j).map fun _ => c else s.connection? j :=
  connection?_modify rfl (fun _ => rfl) j

theorem connection?_setLifecycle (s : Session) (i : Nat) (lifecycle : Lifecycle Pool) (j : Nat) :
    (s.setLifecycle i lifecycle).connection? j =
      if i = j then (s.connection? j).map fun c => { c with lifecycle } else s.connection? j :=
  connection?_modify rfl (fun _ => rfl) j

theorem connection?_setHeld (s : Session) (i : Nat) (held : Bool) (j : Nat) :
    (s.setHeld i held).connection? j = s.connection? j := by
  have hModified : (s.setHeld i held).connection? j =
      if i = j then (s.connection? j).map id else s.connection? j :=
    connection?_modify rfl (fun _ => rfl) j
  rw [hModified, Option.map_id]
  exact ite_self _

theorem lifecycle?_setLifecycle (s : Session) (i : Nat) (lifecycle : Lifecycle Pool) (j : Nat) :
    (s.setLifecycle i lifecycle).lifecycle? j =
      if i = j then (s.lifecycle? j).map fun _ => lifecycle else s.lifecycle? j := by
  rw [lifecycle?, lifecycle?, connection?_setLifecycle]
  split
  · rw [Option.map_map, Option.map_map]
    rfl
  · rfl

theorem isClosedAt_setLifecycle (s : Session) (i : Nat) (lifecycle : Lifecycle Pool) (j : Nat) :
    (s.setLifecycle i lifecycle).isClosedAt j = s.isClosedAt j := by
  rw [isClosedAt_eq, isClosedAt_eq, connection?_setLifecycle]
  split
  · cases s.connection? j <;> rfl
  · rfl

theorem connection?_opens (s : Session) (pool : Pool) (j : Nat) :
    (s.opens pool).connection? j =
      if j = s.slots.length then some (.opened s.address s.config.maxMessageSize pool)
      else s.connection? j := by
  unfold connection? opens
  dsimp only
  split
  next hj =>
    rw [hj, List.getElem?_concat_length]
    rfl
  next hj =>
    rcases Nat.lt_or_gt_of_ne hj with hBelow | hAbove
    · rw [List.getElem?_append_left hBelow]
    · rw [List.getElem?_eq_none (Nat.le_of_lt hAbove), List.getElem?_eq_none]
      rw [List.length_append, List.length_singleton]
      exact hAbove

theorem lifecycle?_opens (s : Session) (pool : Pool) (j : Nat) :
    (s.opens pool).lifecycle? j =
      if j = s.slots.length then some (.acquired pool) else s.lifecycle? j := by
  rw [lifecycle?, connection?_opens]
  split <;> rfl

/-- To remember a pool changes nothing but the list of those that count. -/
theorem mention_eq (s : Session) (pool : Pool) :
    s.mention pool = { s with recycled := (s.mention pool).recycled } := by
  unfold mention
  split
  · rfl
  · split <;> rfl

theorem connection?_takeBack (s : Session) (i : Nat) (pool : Pool) (j : Nat) :
    (s.takeBack i pool).connection? j = s.connection? j := by
  unfold takeBack
  split
  · split <;> rfl
  · dsimp only
    rw [mention_eq]
    rfl

theorem lifecycle?_takeBack (s : Session) (i : Nat) (pool : Pool) (j : Nat) :
    (s.takeBack i pool).lifecycle? j = s.lifecycle? j := by
  rw [lifecycle?, connection?_takeBack]
  rfl

theorem isClosedAt_takeBack (s : Session) (i : Nat) (pool : Pool) (j : Nat) :
    (s.takeBack i pool).isClosedAt j = s.isClosedAt j := by
  rw [isClosedAt_eq, isClosedAt_eq, connection?_takeBack]

theorem isClosedAt_opens (s : Session) (pool : Pool) {j : Nat} (h : j ≠ s.slots.length) :
    (s.opens pool).isClosedAt j = s.isClosedAt j := by
  rw [isClosedAt_eq, isClosedAt_eq, connection?_opens, if_neg h]

theorem lifecycle?_eq_none_iff : s.lifecycle? i = none ↔ s.slots.length ≤ i := by
  rw [lifecycle?, connection?, Option.map_eq_none_iff, Option.map_eq_none_iff,
    List.getElem?_eq_none_iff]

/-! ### What goes on inside of connections -/

/-- Only the inside of one connection changes. -/
theorem settles_setConnection {c c' : Connection Pool Handler} (hHere : s.connection? i = some c)
    (hKeeps : c.Keeps c') : Settles s (s.setConnection i c') := by
  refine ⟨?_, ?_, rfl, fun _ => rfl, rfl⟩
  · intro j
    rw [lifecycle?, lifecycle?, connection?_setConnection]
    split
    next hj =>
      rw [← hj, hHere]
      exact congrArg some hKeeps.lifecycle
    next => rfl
  · intro j
    rw [isClosedAt_eq, isClosedAt_eq, connection?_setConnection]
    split
    next hj =>
      rw [← hj, hHere]
      exact hKeeps.closed
    next => exact id

theorem settles_setHeld (s : Session) (i : Nat) (held : Bool) : Settles s (s.setHeld i held) :=
  .of_connections (connection?_setHeld s i held) rfl (fun _ => rfl) rfl

theorem settles_deliver (s : Session) (told : List (Handler × Notice)) :
    Settles s (s.deliver told) := by
  induction told generalizing s with
  | nil => exact .refl s
  | cons call told ih =>
    have hFirst : Settles s (s.deliver [call]) :=
      .of_connections (fun _ => rfl) rfl (fun _ => rfl) rfl
    exact hFirst.trans (ih _)

theorem settles_adopt {α : Type} {c : Connection Pool Handler} {r : Reaction Pool Handler α}
    (hHere : s.connection? i = some c) (hKeeps : c.Keeps r.connection) :
    Settles s (s.adopt i r).session := by
  have hSettled : c.Keeps r.settled.connection := hKeeps.trans (Connection.keeps_settle _)
  exact (settles_setConnection hHere hSettled).trans (settles_deliver _ _)

theorem settles_dispose {slot : Slot} (hSettles : Settles s t) (hSlot : s.slots[i]? = some slot) :
    Settles s (t.adopt i slot.connection.dispose).session := by
  have hSame := hSettles.lifecycle i
  have hHere := lifecycle?_of_connection (connection?_of_slot hSlot)
  rw [hHere, lifecycle?, Option.map_eq_some_iff] at hSame
  obtain ⟨c, hConnection, hLifecycle⟩ := hSame
  have hKeeps : c.Keeps slot.connection.dispose.connection := ⟨hLifecycle.symm, fun _ => rfl⟩
  exact hSettles.trans (settles_adopt hConnection hKeeps)

/-- A sweep disposes of loose connections, one after the other, and does nothing else. -/
theorem sweep_induction {P : Session → Prop} (s : Session) (hStart : P s)
    (hDispose : ∀ (t : Session) (i : Nat) (slot : Slot), P t → s.slots[i]? = some slot →
      t.isLoose i slot = true → P (t.adopt i slot.connection.dispose).session) :
    P s.sweep.session := by
  have hSlots : ∀ entry ∈ s.slots.zipIdx, s.slots[entry.2]? = some entry.1 := by
    intro entry hMem
    obtain ⟨slot, k⟩ := entry
    exact List.mk_mem_zipIdx_iff_getElem?.mp hMem
  unfold sweep
  generalize hFirst : ({ session := s, result := () } : Effect Unit) = effect
  have hHolds : P effect.session := by
    rw [← hFirst]
    exact hStart
  clear hFirst
  generalize s.slots.zipIdx = entries at hSlots
  induction entries generalizing effect with
  | nil => exact hHolds
  | cons entry entries ih =>
    obtain ⟨hHere, hLater⟩ := List.forall_mem_cons.mp hSlots
    refine ih _ ?_ hLater
    dsimp only
    split
    next hLoose => exact hDispose _ _ _ hHolds hHere hLoose
    next => exact hHolds

theorem settles_sweep (s : Session) : Settles s s.sweep.session :=
  s.sweep_induction (.refl s) fun _ _ _ hSettles hSlot _ => settles_dispose hSettles hSlot

/-! ### What is not loose -/

/-- The client has a handle on connection `i`, or a cache holds it. -/
def Refers (s : Session) (i : Nat) : Prop :=
  (∃ c, s.held? i = some c) ∨ ∃ k, i ∈ s.cached k

theorem mem_cached_iff {k : Nat} : i ∈ s.cached k ↔ (k, i) ∈ s.idle := by
  simp [cached]

theorem held?_eq_some_iff {c : Connection Pool Handler} :
    s.held? i = some c ↔ s.slots[i]? = some { connection := c, held := true } := by
  unfold held?
  cases s.slots[i]? with
  | none => simp
  | some slot =>
    obtain ⟨connection, held⟩ := slot
    cases held <;> simp

theorem isLoose_of_held (s : Session) {slot : Slot} (h : slot.held = true) :
    s.isLoose i slot = false := by
  rw [isLoose, h, Bool.not_true, Bool.and_false, Bool.false_and]

theorem Refers.not_loose (h : s.Refers i) {slot : Slot} (hSlot : s.slots[i]? = some slot) :
    s.isLoose i slot = false := by
  rcases h with ⟨c, hHeld⟩ | ⟨k, hMem⟩
  · rw [held?_eq_some_iff, hSlot] at hHeld
    cases hHeld
    exact s.isLoose_of_held rfl
  · have hAny : (s.idle.any fun entry => entry.2 == i) = true :=
      List.any_eq_true.mpr ⟨(k, i), mem_cached_iff.mp hMem, beq_self_eq_true i⟩
    rw [isLoose, hAny, Bool.not_true, Bool.and_false]

/-- A session is as another one but for the insides of connections that were loose. -/
structure Spares (t s : Session) : Prop where
  idle : s.idle = t.idle
  slot : ∀ i slot, t.slots[i]? = some slot →
    ∃ c, s.slots[i]? = some { slot with connection := c } ∧
      (t.isLoose i slot = false → c = slot.connection)

theorem Spares.refl (s : Session) : Spares s s :=
  ⟨rfl, fun _ slot hSlot => ⟨slot.connection, hSlot, fun _ => rfl⟩⟩

theorem Spares.held (h : Spares t s) {c : Connection Pool Handler} (hHeld : t.held? i = some c) :
    s.held? i = some c := by
  rw [held?_eq_some_iff] at hHeld ⊢
  obtain ⟨c', hSlot, hSame⟩ := h.slot i _ hHeld
  rw [hSlot, hSame (t.isLoose_of_held rfl)]

/-- What is referred to was so before, and is as it was. -/
theorem Spares.connection (h : Spares t s) {c : Connection Pool Handler}
    (hHere : t.connection? i = some c) (hRefers : s.Refers i) : s.connection? i = some c := by
  rw [connection?, Option.map_eq_some_iff] at hHere
  obtain ⟨slot, hSlot, rfl⟩ := hHere
  obtain ⟨c', hSlot', hSame⟩ := h.slot i slot hSlot
  have hLoose : t.isLoose i slot = false := by
    have hBefore : t.Refers i := by
      refine hRefers.imp ?_ ?_
      · rintro ⟨c, hHeld⟩
        rw [held?_eq_some_iff, hSlot'] at hHeld
        have hFlag : slot.held = true := congrArg Slot.held (Option.some.inj hHeld)
        exact ⟨slot.connection, held?_eq_some_iff.mpr (by rw [hSlot, ← hFlag])⟩
      · rintro ⟨k, hMem⟩
        exact ⟨k, by rwa [mem_cached_iff, ← h.idle, ← mem_cached_iff]⟩
    exact hBefore.not_loose hSlot
  rw [connection?_of_slot hSlot', hSame hLoose]

/-- To hand over what was told changes nothing but the replies that are gathered. -/
theorem deliver_eq (s : Session) (told : List (Handler × Notice)) :
    s.deliver told = { s with waiters := (s.deliver told).waiters } := by
  induction told generalizing s with
  | nil => rfl
  | cons call told ih =>
    rw [show s.deliver (call :: told) = (s.deliver [call]).deliver told from rfl, ih]
    rfl

theorem spares_adopt {α : Type} (h : Spares t s) {slot : Slot} (hSlot : t.slots[i]? = some slot)
    (hLoose : t.isLoose i slot = true) (r : Reaction Pool Handler α) :
    Spares t (s.adopt i r).session := by
  unfold adopt
  dsimp only
  rw [deliver_eq]
  refine ⟨h.idle, fun j slot' hSlot' => ?_⟩
  obtain ⟨c, hSame, hKept⟩ := h.slot j slot' hSlot'
  change ∃ c, (s.slots.modify i _)[j]? = _ ∧ _
  rw [List.getElem?_modify, hSame]
  split
  next hj =>
    subst hj
    rw [hSlot] at hSlot'
    cases hSlot'
    refine ⟨_, rfl, fun hNot => ?_⟩
    rw [hLoose] at hNot
    cases hNot
  next => exact ⟨c, rfl, hKept⟩

theorem spares_sweep (s : Session) : Spares s s.sweep.session := by
  refine s.sweep_induction (.refl s) fun t i slot hSpares hSlot hLoose => ?_
  rw [isLoose, hSpares.idle] at hLoose
  exact spares_adopt hSpares hSlot hLoose _

/-! ### What comes back -/

theorem returned_mention (s : Session) (pool : Pool) (label : String) :
    (s.mention pool).returned label = s.returned label := by
  unfold mention
  split
  · rfl
  · split
    · rfl
    · rw [Session.returned, Session.returned, List.lookup_append]
      cases s.recycled.lookup label with
      | some n => rfl
      | none =>
        rw [Option.none_or, List.lookup_cons]
        split <;> rfl

theorem lookup_counted (recycled : List (String × Nat)) (label l : String) :
    (recycled.map fun (m, n) => if m = label then (m, n + 1) else (m, n)).lookup l =
      (recycled.lookup l).map fun n => if l = label then n + 1 else n := by
  induction recycled with
  | nil => rfl
  | cons entry recycled ih =>
    obtain ⟨m, n⟩ := entry
    have hCounted : (if m = label then (m, n + 1) else (m, n)) =
        (m, if m = label then n + 1 else n) := by split <;> rfl
    simp only [List.map_cons, hCounted, List.lookup_cons]
    cases hHere : l == m with
    | true =>
      obtain rfl := eq_of_beq hHere
      rfl
    | false => exact ih

theorem exists_lookup_mention (s : Session) (label : String) :
    ∃ n, (s.mention (.counter label)).recycled.lookup label = some n := by
  unfold mention
  dsimp only
  split
  next hAny =>
    rw [← Option.isSome_iff_exists, List.lookup_isSome_iff]
    obtain ⟨entry, hMem, hLabel⟩ := List.any_eq_true.mp hAny
    exact ⟨entry, hMem, by rw [beq_iff_eq] at hLabel ⊢; exact hLabel.symm⟩
  next =>
    rw [List.lookup_append]
    cases s.recycled.lookup label with
    | some n => exact ⟨n, rfl⟩
    | none => exact ⟨0, by rw [Option.none_or, List.lookup_cons_self]⟩

/-- A counting pool counts what comes back to it. -/
theorem returned_takeBack (s : Session) (i : Nat) (label l : String) :
    (s.takeBack i (.counter label)).returned l =
      if l = label then s.returned l + 1 else s.returned l := by
  rw [← returned_mention s (.counter label) l]
  unfold takeBack Session.returned
  dsimp only
  rw [lookup_counted]
  by_cases hLabel : l = label
  · subst hLabel
    obtain ⟨n, hCount⟩ := exists_lookup_mention s l
    rw [hCount, if_pos rfl, Option.map_some, if_pos rfl]
    rfl
  · simp only [if_neg hLabel, Option.map_id']

theorem settles_mention (s : Session) (pool : Pool) : Settles s (s.mention pool) := by
  refine .of_connections ?_ ?_ (returned_mention s pool) ?_
  · intro i
    rw [mention_eq]
    rfl
  · rw [mention_eq]
  · rw [mention_eq]

end Session

end DocumentLink
