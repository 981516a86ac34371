import DocumentLink.Proofs.Session.Run

/-! Who holds the connections of a session, whatever its clients do with them.  A connection gets an
owner only while it has none, and loses it only in a release, which hands it back to that owner.
This rests on the connections alone: a cache may hold what is owned, what is closed, or one
connection twice. -/

namespace DocumentLink

namespace Session

/-! ### Owners -/

section

variable {s t : Session} {i : Nat}

theorem Settles.owner (h : Settles t s) (i : Nat) : s.owner? i = t.owner? i := by
  rw [owner?, owner?, h.lifecycle]

theorem owner?_of_lifecycle {lifecycle : Lifecycle Pool} (h : s.lifecycle? i = some lifecycle) :
    s.owner? i = lifecycle.owner? := by
  rw [owner?, h]
  rfl

theorem owner?_opens (s : Session) (pool : Pool) (j : Nat) :
    (s.opens pool).owner? j = if j = s.slots.length then some pool else s.owner? j := by
  rw [owner?, lifecycle?_opens]
  split <;> rfl

theorem owner?_fresh (s : Session) : s.owner? s.slots.length = none := by
  rw [owner?, lifecycle?_eq_none_iff.mpr le_rfl]
  rfl

theorem owner?_setLifecycle_self {old : Lifecycle Pool} (h : s.lifecycle? i = some old)
    (new : Lifecycle Pool) : (s.setLifecycle i new).owner? i = new.owner? := by
  rw [owner?, lifecycle?_setLifecycle, if_pos rfl, h]
  rfl

theorem owner?_setLifecycle_of_ne (s : Session) {j : Nat} (h : i ≠ j) (new : Lifecycle Pool) :
    (s.setLifecycle i new).owner? j = s.owner? j := by
  rw [owner?, lifecycle?_setLifecycle, if_neg h]
  rfl

theorem exists_lifecycle {owner : Pool} (h : s.owner? i = some owner) :
    ∃ lifecycle, s.lifecycle? i = some lifecycle := by
  rw [owner?, Option.bind_eq_some_iff] at h
  obtain ⟨lifecycle, hLifecycle, _⟩ := h
  exact ⟨lifecycle, hLifecycle⟩

theorem owner?_takeBack (s : Session) (i : Nat) (pool : Pool) (j : Nat) :
    (s.takeBack i pool).owner? j = s.owner? j := by
  rw [owner?, lifecycle?_takeBack]
  rfl

/-- What has been released has no owner any more. -/
theorem Settles.owner_of_release {pool : Pool}
    (h : Settles ((s.setLifecycle i .idle).takeBack i pool) t) (owned : s.owner? i = some pool) :
    t.owner? i = none := by
  obtain ⟨lifecycle, hLifecycle⟩ := exists_lifecycle owned
  rw [h.owner, owner?_takeBack, owner?_setLifecycle_self hLifecycle]
  rfl

end

/-! ### Pools -/

section

variable {s t : Session} {i k : Nat}

theorem Settles.cached (h : Settles t s) (k : Nat) : s.cached k = t.cached k := by
  rw [Session.cached, Session.cached, h.idle]

/-- Pools other than counting ones count nothing. -/
theorem returned_takeBack_cache (s : Session) (i : Nat) (address : String) (k : Nat)
    (label : String) : (s.takeBack i (.cache address k)).returned label = s.returned label := by
  unfold takeBack
  dsimp only
  split <;> rfl

/-- A cache puts an open connection first. -/
theorem cached_takeBack {address : String} (hLive : s.isClosedAt i = false) (k' : Nat) :
    (s.takeBack i (.cache address k)).cached k' =
      if k' = k then i :: s.cached k' else s.cached k' := by
  rw [takeBack, if_neg (by rw [hLive]; exact Bool.false_ne_true), Session.cached, Session.cached,
    List.filter_cons]
  dsimp only
  by_cases hk : k' = k
  · rw [if_pos hk, if_pos (decide_eq_true hk.symm)]
    rfl
  · rw [if_neg hk, if_neg]
    simpa using fun h => hk h.symm

/-- A counting pool keeps nothing, and a cache nothing that is closed. -/
theorem cached_takeBack_of_closed {pool : Pool}
    (hClosed : ∀ address, pool = .cache address k → s.isClosedAt i = true) :
    (s.takeBack i pool).cached k = s.cached k := by
  cases pool with
  | counter label =>
    rw [takeBack, mention_eq]
    rfl
  | cache address k' =>
    cases hHere : s.isClosedAt i with
    | true => rw [takeBack, if_pos hHere]
    | false =>
      have hOther : k ≠ k' := by
        rintro rfl
        rw [hClosed address rfl] at hHere
        cases hHere
      rw [cached_takeBack hHere, if_neg hOther]

/-- Connection `i` comes back to `pool` and to no other: a cache puts it first if it is open, and a
counting pool counts it. -/
structure Receives (s : Session) (i : Nat) (pool : Pool) (s' : Session) : Prop where
  cached : ∀ address k, pool = .cache address k → s.isClosedAt i = false →
    s'.cached k = i :: s.cached k
  others : ∀ k, (∀ address, pool = .cache address k → s.isClosedAt i = true) →
    s'.cached k = s.cached k
  counted : ∀ label, pool = .counter label → s'.returned label = s.returned label + 1
  uncounted : ∀ label, pool ≠ .counter label → s'.returned label = s.returned label

theorem Settles.receives {pool : Pool}
    (h : Settles ((s.setLifecycle i .idle).takeBack i pool) t) : s.Receives i pool t := by
  have hClosed := isClosedAt_setLifecycle s i .idle i
  refine ⟨?_, ?_, ?_, ?_⟩
  · rintro address k rfl hLive
    rw [h.cached, cached_takeBack (hClosed.trans hLive), if_pos rfl]
    rfl
  · intro k hNot
    rw [h.cached, cached_takeBack_of_closed fun address hPool => hClosed.trans (hNot address hPool)]
    rfl
  · rintro label rfl
    rw [h.returned, returned_takeBack, if_pos rfl]
    rfl
  · intro label hNot
    rw [h.returned]
    cases pool with
    | cache address k => exact returned_takeBack_cache _ i address k label
    | counter label' =>
      rw [returned_takeBack, if_neg fun hSame => hNot (congrArg _ hSame.symm)]
      rfl

end

/-! ### What one step does to an owner -/

section

variable {entry : Entry} {i : Nat} {pool : Pool}

/-- Nobody takes a connection from its owner. -/
theorem Entry.Attaches.owner (hAttaches : entry.Attaches i pool) (dealt : entry.Actual) :
    entry.before.owner? i = none ∧ entry.after.owner? i = some pool := by
  obtain ⟨s, action, s', told, answer⟩ := entry
  change Dealt s action answer s' at dealt
  change s.owner? i = none ∧ s'.owner? i = some pool
  have hOpened {t : Session} (same : Settles (t.opens pool) s')
      (hLength : t.slots.length = s.slots.length) (hNumber : i = s.slots.length) :
      s.owner? i = none ∧ s'.owner? i = some pool := by
    subst hNumber
    refine ⟨owner?_fresh s, ?_⟩
    rw [same.owner, owner?_opens, hLength, if_pos rfl]
  cases hAttaches with
  | connected asks answered =>
    change action = .connect pool ∨ action = .wrap pool at asks
    change answer = .socket i true at answered
    cases dealt with
    | quiet _ noSocket _ _ => exact absurd answered (noSocket i true)
    | @opened pool' _ _ asked same =>
      cases answered
      have hPool : pool = pool' := by
        rcases asks with rfl | rfl <;> simpa using asked
      subst hPool
      exact hOpened same rfl rfl
    | renewed _ _ => simp at asks
    | taken _ _ _ _ _ => simp at asks
    | _ => cases answered
  | @acquired k isNew asks answered =>
    change action = .acquire k at asks
    change answer = .socket i isNew at answered
    subst asks
    cases dealt with
    | quiet _ _ _ noAcquire => exact absurd rfl (noAcquire k)
    | opened asked _ => simp at asked
    | renewed _ same =>
      cases answered
      exact hOpened same rfl rfl
    | cleared _ _ => cases answered
    | taken _ _ _ free same =>
      cases answered
      refine ⟨owner?_of_lifecycle free, ?_⟩
      rw [same.owner]
      exact owner?_setLifecycle_self free _
    | busy _ _ _ _ => cases answered
    | claimed asked _ _ => simp at asked
  | claimed asks answered =>
    change action = .tryAcquired i pool ∨ action = .acquired i pool at asks
    change answer = .done at answered
    cases dealt with
    | quiet _ _ noClaim _ => exact absurd answered (noClaim i pool asks)
    | @claimed j pool' _ _ asked free same =>
      have hSame : i = j ∧ pool = pool' := by
        rcases asks with rfl | rfl <;> simpa using asked
      obtain ⟨rfl, rfl⟩ := hSame
      refine ⟨owner?_of_lifecycle free, ?_⟩
      rw [same.owner]
      exact owner?_setLifecycle_self free _
    | _ => simp at asks answered

theorem Entry.Detaches.not_attaches (hDetaches : entry.Detaches i pool) {j : Nat} {owner : Pool} :
    ¬ entry.Attaches j owner := by
  obtain ⟨force, hRelease⟩ := hDetaches.asks
  rintro (⟨asks, _⟩ | ⟨asks, _⟩ | ⟨asks, _⟩) <;> simp [hRelease] at asks

/-- What a release does is to hand the connection to the pool that owned it. -/
theorem Entry.Detaches.settles (hDetaches : entry.Detaches i pool) (dealt : entry.Actual) :
    Settles ((entry.before.setLifecycle i .idle).takeBack i pool) entry.after := by
  obtain ⟨⟨force, asks⟩, owned, free⟩ := hDetaches
  obtain ⟨s, action, s', told, answer⟩ := entry
  change Dealt s action answer s' at dealt
  change action = .release i force at asks
  change s.owner? i = some pool at owned
  change s'.owner? i = none at free
  change Settles ((s.setLifecycle i .idle).takeBack i pool) s'
  subst asks
  cases dealt with
  | quiet same _ _ _ =>
    rw [same.owner, owned] at free
    cases free
  | opened asked _ => simp at asked
  | claimed asked _ _ => simp at asked
  | released owner same =>
    rw [owned] at owner
    cases owner
    exact same

/-- Owners change in no other way. -/
theorem Entry.owner_after (dealt : entry.Actual) (hAttaches : ∀ pool, ¬ entry.Attaches i pool)
    (hDetaches : ∀ pool, ¬ entry.Detaches i pool) :
    entry.after.owner? i = entry.before.owner? i := by
  obtain ⟨s, action, s', told, answer⟩ := entry
  change Dealt s action answer s' at dealt
  change s'.owner? i = s.owner? i
  cases dealt with
  | quiet same _ _ _ => exact same.owner i
  | @opened pool _ _ asks same =>
    have hOther : i ≠ s.slots.length := by
      rintro rfl
      exact hAttaches pool (.connected asks rfl)
    rw [same.owner, owner?_opens, if_neg hOther]
  | @renewed k _ _ same =>
    have hOther : i ≠ s.slots.length := by
      rintro rfl
      exact hAttaches _ (.acquired rfl rfl)
    rw [same.owner, owner?_opens]
    exact if_neg hOther
  | cleared _ same => exact same.owner i
  | @taken k j _ _ _ _ _ _ _ same =>
    have hOther : j ≠ i := by
      rintro rfl
      exact hAttaches _ (.acquired rfl rfl)
    rw [same.owner, owner?_setLifecycle_of_ne _ hOther]
    rfl
  | busy _ _ _ same => exact same.owner i
  | @claimed j pool _ _ asks _ same =>
    have hOther : j ≠ i := by
      rintro rfl
      exact hAttaches pool (.claimed asks rfl)
    rw [same.owner, owner?_setLifecycle_of_ne _ hOther]
  | @pinned j owner _ owned same =>
    rw [same.owner]
    by_cases hj : j = i
    · subst hj
      obtain ⟨lifecycle, hLifecycle⟩ := exists_lifecycle owned
      rw [owner?_setLifecycle_self hLifecycle]
      exact owned.symm
    · exact owner?_setLifecycle_of_ne s hj _
  | @released j pool force _ owned same =>
    have hOther : j ≠ i := by
      rintro rfl
      exact hDetaches pool ⟨⟨force, rfl⟩, owned, same.owner_of_release owned⟩
    rw [same.owner, owner?_takeBack, owner?_setLifecycle_of_ne _ hOther]
  | given same => rw [same.owner, owner?_takeBack]

/-- A connection gets an owner in the listed ways and in no other. -/
theorem Entry.attaches_iff (dealt : entry.Actual) : entry.Attaches i pool ↔
    entry.before.owner? i = none ∧ entry.after.owner? i = some pool := by
  refine ⟨fun hAttaches => hAttaches.owner dealt, fun ⟨hFree, hOwned⟩ => ?_⟩
  by_cases hAttaches : ∃ owner, entry.Attaches i owner
  · obtain ⟨owner, hAttaches⟩ := hAttaches
    have hSame := (hAttaches.owner dealt).2
    rw [hOwned] at hSame
    cases hSame
    exact hAttaches
  · rw [not_exists] at hAttaches
    have hDetaches (owner : Pool) : ¬ entry.Detaches i owner := by
      intro hDetaches
      rw [hDetaches.owned] at hFree
      cases hFree
    rw [entry.owner_after dealt hAttaches hDetaches, hFree] at hOwned
    cases hOwned

end

/-! ### Between two attachments -/

/-- A release takes connection `i` from `pool`, which gets it back. -/
structure Entry.HandsBack (entry : Entry) (i : Nat) (pool : Pool) : Prop where
  detaches : entry.Detaches i pool
  received : entry.before.Receives i pool entry.after

/-- One step of a log hands connection `i` back to `pool`, and no other step detaches it. -/
def HandedBackOnce (log : List Entry) (i : Nat) (pool : Pool) : Prop :=
  ∃ (first : List Entry) (entry : Entry) (rest : List Entry), log = first ++ entry :: rest ∧
    entry.HandsBack i pool ∧ ∀ other ∈ first ++ rest, ∀ owner, ¬ other.Detaches i owner

/-- What a cache hands out: a new connection, or one that nobody owned and that was open.  Now the
cache owns it, and it is not pinned. -/
structure Entry.HandsOut (entry : Entry) (k i : Nat) (isNew : Bool) : Prop where
  fresh : isNew = true → i = entry.before.slots.length
  free : isNew = false → entry.before.lifecycle? i = some .idle
  live : isNew = false → entry.before.isClosedAt i = false
  owned : entry.after.lifecycle? i = some (.acquired (.cache entry.before.address k))

section

variable {start s : Session} {log : List Entry} {i : Nat} {pool : Pool}

theorem Run.dealt {first rest : List Entry} {entry : Entry}
    (run : Run start (first ++ entry :: rest) s) : entry.Actual :=
  dealt_step run.split.2.1

/-- While nobody takes a connection on, its owner keeps it or gets it back once. -/
theorem Run.custody (run : Run start log s) (hOwner : start.owner? i = some pool)
    (hNone : ∀ entry ∈ log, ∀ owner, ¬ entry.Attaches i owner) :
    (s.owner? i = some pool ∧ ∀ entry ∈ log, ∀ owner, ¬ entry.Detaches i owner) ∨
      (s.owner? i = none ∧ HandedBackOnce log i pool) := by
  induction run with
  | refl => exact .inl ⟨hOwner, List.forall_mem_nil _⟩
  | @next log entry run hSteps ih =>
    have dealt : entry.Actual := dealt_step hSteps
    obtain ⟨hEarlier, hHere⟩ := List.forall_mem_append.mp hNone
    have hAttaches := hHere entry (List.mem_singleton_self entry)
    rcases ih hEarlier with ⟨hOwned, hNever⟩ | ⟨hFree, first, back, rest, rfl, hBack, hOnce⟩
    · by_cases hDetaches : ∃ owner, entry.Detaches i owner
      · obtain ⟨owner, hDetaches⟩ := hDetaches
        have hSame := hDetaches.owned
        rw [hOwned] at hSame
        cases hSame
        refine .inr ⟨hDetaches.free, log, entry, [], rfl,
          ⟨hDetaches, (hDetaches.settles dealt).receives⟩, ?_⟩
        rwa [List.append_nil]
      · rw [not_exists] at hDetaches
        refine .inl ⟨(entry.owner_after dealt hAttaches hDetaches).trans hOwned, ?_⟩
        rw [List.forall_mem_append, List.forall_mem_singleton]
        exact ⟨hNever, hDetaches⟩
    · -- what has no owner cannot be released
      have hDetaches : ∀ owner, ¬ entry.Detaches i owner := by
        intro owner hDetaches
        have hOwned := hDetaches.owned
        rw [hFree] at hOwned
        cases hOwned
      refine .inr ⟨(entry.owner_after dealt hAttaches hDetaches).trans hFree, first, back,
        rest ++ [entry], ?_, hBack, ?_⟩
      · rw [List.append_assoc, List.cons_append]
      · rw [← List.append_assoc, List.forall_mem_append, List.forall_mem_singleton]
        exact ⟨hOnce, hDetaches⟩

theorem Entry.handsOut_of_acquire {entry : Entry} {k : Nat} {isNew : Bool}
    (dealt : entry.Actual) (hAsks : entry.action = .acquire k)
    (hAnswer : entry.effect.result = .socket i isNew) : entry.HandsOut k i isNew := by
  obtain ⟨s, action, s', told, answer⟩ := entry
  change Dealt s action answer s' at dealt
  change action = .acquire k at hAsks
  change answer = .socket i isNew at hAnswer
  subst hAsks
  cases dealt with
  | quiet _ _ _ noAcquire => exact absurd rfl (noAcquire k)
  | opened asked _ => simp at asked
  | renewed _ same =>
    cases hAnswer
    refine ⟨fun _ => rfl, nofun, nofun, ?_⟩
    change s'.lifecycle? s.slots.length = _
    rw [same.lifecycle, lifecycle?_opens]
    exact if_pos rfl
  | cleared _ _ => cases hAnswer
  | @taken _ _ _ rest _ _ _ live free same =>
    cases hAnswer
    refine ⟨nofun, fun _ => free, fun _ => live, ?_⟩
    change s'.lifecycle? i = _
    have hHere : (s.setCached k rest).lifecycle? i = some .idle := free
    rw [same.lifecycle, lifecycle?_setLifecycle, if_pos rfl, hHere]
    rfl
  | busy _ _ _ _ => cases hAnswer
  | claimed asked _ _ => simp at asked

/-- Whatever clients do, a cache hands out what nobody owns, and between two attachments of a
connection it is detached once, in a release that hands it back to the pool it was attached to. -/
theorem Run.exclusive_custody (run : Run start log s) :
    (∀ entry ∈ log, ∀ k i isNew, entry.action = .acquire k →
      entry.effect.result = .socket i isNew → entry.HandsOut k i isNew) ∧
    (∀ entry ∈ log, ∀ i pool, entry.Attaches i pool ↔
      entry.before.owner? i = none ∧ entry.after.owner? i = some pool) ∧
    ∀ (i : Nat) (pool pool' : Pool) (first middle rest : List Entry) (entry entry' : Entry),
      log = first ++ entry :: (middle ++ entry' :: rest) →
      entry.Attaches i pool → entry'.Attaches i pool' →
      (∀ between ∈ middle, ∀ owner, ¬ between.Attaches i owner) → HandedBackOnce middle i pool := by
  have hActual : ∀ entry ∈ log, entry.Actual := by
    intro entry hMem
    obtain ⟨first, rest, rfl⟩ := List.append_of_mem hMem
    exact run.dealt
  refine ⟨?_, ?_, ?_⟩
  · exact fun entry hMem k i isNew => entry.handsOut_of_acquire (hActual entry hMem)
  · exact fun entry hMem i pool => entry.attaches_iff (hActual entry hMem)
  · rintro i pool pool' first middle rest entry entry' rfl hAttaches hAttaches' hBetween
    have hOwner := (hAttaches.owner run.dealt).2
    obtain ⟨_, _, later⟩ := run.split
    obtain ⟨between, _, _⟩ := later.split
    rcases between.custody hOwner hBetween with ⟨hOwned, _⟩ | ⟨_, hOnce⟩
    · have hFree := (hAttaches'.owner later.dealt).1
      rw [hOwned] at hFree
      cases hFree
    · exact hOnce

/-! A client connects, releases, and claims for another pool what the cache still holds. -/

def listening : Session := { address := "server", config := {}, network := .listening }

def lent : Session := listening.opens (.cache "server")

def rested : Session := { lent.setLifecycle 0 .idle with idle := [(0, 0)] }

theorem released_before_claimed : ∃ connecting releasing claiming : Entry,
    Run listening [connecting, releasing, claiming] claiming.after ∧
      connecting.Attaches 0 (.cache "server") ∧ claiming.Attaches 0 (.counter "probe") ∧
      HandedBackOnce [releasing] 0 (.cache "server") := by
  let probe : Pool := .counter "probe"
  let connecting : Entry := ⟨listening, .connect (.cache "server"), lent, [], .socket 0 true⟩
  let releasing : Entry := ⟨lent, .release 0 false, rested, [], .done⟩
  let claiming : Entry :=
    ⟨rested, .tryAcquired 0 probe, (rested.mention probe).setLifecycle 0 (.acquired probe), [],
      .done⟩
  have connected : Run listening ([] ++ [connecting]) lent := .next .refl rfl
  have released : Run listening ([] ++ [connecting] ++ [releasing]) rested := .next connected rfl
  have run : Run listening ([] ++ [connecting] ++ [releasing] ++ [claiming]) claiming.after :=
    .next released rfl
  have hConnects : connecting.Attaches 0 (.cache "server") := .connected (.inl rfl) rfl
  have hClaims : claiming.Attaches 0 probe := .claimed (.inl rfl) rfl
  refine ⟨connecting, releasing, claiming, run, hConnects, hClaims, ?_⟩
  refine run.exclusive_custody.2.2 0 _ probe [] [releasing] [] connecting claiming rfl hConnects
    hClaims ?_
  rw [List.forall_mem_singleton]
  rintro owner (⟨hNot | hNot, _⟩ | ⟨hNot, _⟩ | ⟨hNot | hNot, _⟩) <;> cases hNot

end

end Session

end DocumentLink
