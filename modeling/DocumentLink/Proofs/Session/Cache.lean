import DocumentLink.Proofs.Session.Custody

/-! The caches of a session whose clients attach connections only by connecting and by asking a
cache, and give them back only in releases.  A cache then holds what was released to it, each
connection once and in order, and what it hands out is the open connection that was released
last. -/

namespace DocumentLink

/-- Clients leave it to caches to attach connections that exist, and to releases to give them
back. -/
def Action.Orderly : Action → Prop
  | .giveBack .. | .tryAcquired .. | .acquired .. => False
  | _ => True

namespace Session

/-! ### Logs -/

/-- At some step of a log, with the log before it, `P` holds, and all steps after it are as `Q`
says. -/
def Since (P : List Entry → Entry → Prop) (Q : Entry → Prop) (log : List Entry) : Prop :=
  ∃ (first : List Entry) (entry : Entry) (rest : List Entry), log = first ++ entry :: rest ∧
    P first entry ∧ ∀ later ∈ rest, Q later

theorem since_concat {P : List Entry → Entry → Prop} {Q : Entry → Prop} {log : List Entry}
    {entry : Entry} : Since P Q (log ++ [entry]) ↔ P log entry ∨ Since P Q log ∧ Q entry :=
  exists_since_concat

theorem not_since_nil {P : List Entry → Entry → Prop} {Q : Entry → Prop} : ¬ Since P Q [] := by
  rintro ⟨first, entry, rest, hLog, _⟩
  exact absurd hLog.symm (List.append_ne_nil_of_right_ne_nil _ (List.cons_ne_nil _ _))

/-- A release puts connection `i` into cache `k`, which takes it because it is open. -/
structure Entry.Shelves (entry : Entry) (k i : Nat) : Prop where
  detaches : ∃ address, entry.Detaches i (.cache address k)
  live : entry.before.isClosedAt i = false

theorem Entry.Shelves.unique {entry : Entry} {k k' i j : Nat} (h : entry.Shelves k i)
    (hOther : entry.Shelves k' j) : j = i ∧ k' = k := by
  obtain ⟨_, hDetaches⟩ := h.detaches
  obtain ⟨_, hDetaches'⟩ := hOther.detaches
  obtain ⟨_, hAsks⟩ := hDetaches.asks
  obtain ⟨_, hAsks'⟩ := hDetaches'.asks
  rw [hAsks] at hAsks'
  cases hAsks'
  have hOwned := hDetaches.owned
  rw [hDetaches'.owned] at hOwned
  cases hOwned
  exact ⟨rfl, rfl⟩

theorem not_shelves {entry : Entry} {k i : Nat}
    (hAsks : ∀ i force, entry.action ≠ .release i force) : ¬ entry.Shelves k i := by
  intro hShelves
  obtain ⟨_, hDetaches⟩ := hShelves.detaches
  obtain ⟨force, hRelease⟩ := hDetaches.asks
  exact hAsks i force hRelease

/-- Connection `i` was put into cache `k` and has not been handed out since. -/
def Shelved (log : List Entry) (k i : Nat) : Prop :=
  Since (fun _ entry => entry.Shelves k i) (fun later => ∀ owner, ¬ later.Attaches i owner) log

/-- Connection `i` was put into cache `k` after connection `j` was put into it for the last time. -/
def ShelvedLater (log : List Entry) (k i j : Nat) : Prop :=
  Since (fun first entry => entry.Shelves k i ∧ ∃ earlier ∈ first, earlier.Shelves k j)
    (fun later => ¬ later.Shelves k j) log

theorem Shelved.exists {log : List Entry} {k i : Nat} (h : Shelved log k i) :
    ∃ entry ∈ log, entry.Shelves k i := by
  obtain ⟨first, entry, rest, rfl, hShelves, _⟩ := h
  exact ⟨entry, List.mem_append_right _ List.mem_cons_self, hShelves⟩

/-! ### Caches -/

section

variable {s t : Session} {i k : Nat}

theorem Settles.live (h : Settles t s) (hLive : s.isClosedAt i = false) :
    t.isClosedAt i = false := by
  cases hBefore : t.isClosedAt i with
  | false => rfl
  | true =>
    rw [h.closed i hBefore] at hLive
    exact hLive

/-- Connections that exist do not change when one is opened. -/
theorem Settles.lifecycle_of_opens {pool : Pool} (h : Settles (t.opens pool) s)
    (hOld : i ≠ t.slots.length) : s.lifecycle? i = t.lifecycle? i := by
  rw [h.lifecycle, lifecycle?_opens, if_neg hOld]

theorem Settles.live_of_opens {pool : Pool} (h : Settles (t.opens pool) s)
    (hOld : i ≠ t.slots.length) (hLive : s.isClosedAt i = false) : t.isClosedAt i = false := by
  rw [← isClosedAt_opens t pool hOld]
  exact h.live hLive

theorem cached_setCached (s : Session) (k : Nat) (sockets : List Nat) (k' : Nat) :
    (s.setCached k sockets).cached k' = if k' = k then sockets else s.cached k' := by
  unfold setCached Session.cached
  dsimp only
  rw [List.filter_append, List.map_append, List.filter_filter]
  split
  next hk =>
    subst hk
    have hMine : (sockets.map (k', ·)).filter (fun entry => entry.1 = k') = sockets.map (k', ·) :=
      List.filter_eq_self.mpr (by simp)
    have hOthers :
        s.idle.filter (fun entry => decide (entry.1 = k') && decide (entry.1 ≠ k')) = [] :=
      List.filter_eq_nil_iff.mpr (by simp)
    rw [hMine, hOthers, List.map_nil, List.append_nil, List.map_map]
    exact List.map_id _
  next hk =>
    have hMine : (sockets.map (k, ·)).filter (fun entry => entry.1 = k') = [] :=
      List.filter_eq_nil_iff.mpr (by simpa using fun _ _ h => hk h.symm)
    have hOthers : s.idle.filter (fun entry => decide (entry.1 = k') && decide (entry.1 ≠ k)) =
        s.idle.filter fun entry => entry.1 = k' := by
      refine List.filter_congr fun entry _ => ?_
      by_cases hEntry : entry.1 = k'
      · simp [hEntry, hk]
      · simp [hEntry]
    rw [hMine, hOthers, List.map_nil, List.nil_append]

end

/-- Nothing that is closed opens again. -/
theorem Entry.live_before {entry : Entry} {i : Nat} (dealt : entry.Actual)
    (hNot : ∀ owner, ¬ entry.Attaches i owner) (hLive : entry.after.isClosedAt i = false) :
    entry.before.isClosedAt i = false := by
  obtain ⟨s, action, s', told, answer⟩ := entry
  change Dealt s action answer s' at dealt
  change s.isClosedAt i = false
  cases dealt with
  | quiet same _ _ _ => exact same.live hLive
  | @opened pool _ _ asks same =>
    refine same.live_of_opens ?_ hLive
    rintro rfl
    exact hNot pool (.connected asks rfl)
  | renewed _ same =>
    refine same.live_of_opens ?_ hLive
    rintro rfl
    exact hNot _ (.acquired rfl rfl)
  | cleared _ same => exact same.live hLive
  | taken _ _ _ _ same =>
    have hBefore := same.live hLive
    rwa [isClosedAt_setLifecycle] at hBefore
  | busy _ _ _ same => exact same.live hLive
  | claimed _ _ same =>
    have hBefore := same.live hLive
    rwa [isClosedAt_setLifecycle] at hBefore
  | pinned _ same =>
    have hBefore := same.live hLive
    rwa [isClosedAt_setLifecycle] at hBefore
  | released _ same =>
    have hBefore := same.live hLive
    rwa [isClosedAt_takeBack, isClosedAt_setLifecycle] at hBefore
  | given same =>
    have hBefore := same.live hLive
    rwa [isClosedAt_takeBack] at hBefore

/-! ### What holds of the caches -/

/-- The caches hold what was released to them. -/
structure Tidy (log : List Entry) (s : Session) : Prop where
  once : ∀ k, (s.cached k).Nodup
  oneCache : ∀ i k k', i ∈ s.cached k → i ∈ s.cached k' → k = k'
  /-- Nobody owns or pins what is cached. -/
  free : ∀ k, ∀ i ∈ s.cached k, s.lifecycle? i = some .idle
  shelved : ∀ k, ∀ i ∈ s.cached k, Shelved log k i
  /-- What has been released and is still open is not lost. -/
  kept : ∀ k i, Shelved log k i → s.isClosedAt i = false → i ∈ s.cached k
  /-- What was released last comes first. -/
  order : ∀ k, (s.cached k).Pairwise (ShelvedLater log k)

section

variable {log : List Entry} {entry : Entry}

theorem tidy_start {start : Session} (hStart : start.idle = []) : Tidy [] start := by
  have hCached (k : Nat) : start.cached k = [] := by rw [Session.cached, hStart]; rfl
  have hNone {k i : Nat} : i ∉ start.cached k := by rw [hCached]; exact List.not_mem_nil
  refine ⟨?_, ?_, ?_, ?_, ?_, ?_⟩
  · intro k
    rw [hCached]
    exact List.nodup_nil
  · exact fun i k k' hMem => absurd hMem hNone
  · exact fun k i hMem => absurd hMem hNone
  · exact fun k i hMem => absurd hMem hNone
  · exact fun k i hShelved => absurd hShelved not_since_nil
  · intro k
    rw [hCached]
    exact List.Pairwise.nil

theorem Tidy.not_mem_of_owned {s : Session} (h : Tidy log s) {i : Nat} {owner : Pool}
    (hOwned : s.owner? i = some owner) (k : Nat) : i ∉ s.cached k := by
  intro hMem
  rw [owner?_of_lifecycle (h.free k i hMem)] at hOwned
  cases hOwned

/-- A step that puts nothing into a cache, and that takes nothing out but what is closed or what it
hands out. -/
theorem Tidy.keep (h : Tidy log entry.before) (dealt : entry.Actual)
    (hSub : ∀ k, (entry.after.cached k).Sublist (entry.before.cached k))
    (hSame : ∀ k, ∀ i ∈ entry.after.cached k, entry.after.lifecycle? i = entry.before.lifecycle? i)
    (hKept : ∀ k, ∀ i ∈ entry.before.cached k, entry.before.isClosedAt i = false →
      (∀ owner, ¬ entry.Attaches i owner) → i ∈ entry.after.cached k)
    (hNone : ∀ k i, ¬ entry.Shelves k i) : Tidy (log ++ [entry]) entry.after := by
  have hBefore {k i : Nat} (hMem : i ∈ entry.after.cached k) : i ∈ entry.before.cached k :=
    (hSub k).subset hMem
  have hFree (k i : Nat) (hMem : i ∈ entry.after.cached k) :
      entry.after.lifecycle? i = some .idle :=
    (hSame k i hMem).trans (h.free k i (hBefore hMem))
  refine ⟨?_, ?_, hFree, ?_, ?_, ?_⟩
  · exact fun k => (h.once k).sublist (hSub k)
  · exact fun i k k' hMem hMem' => h.oneCache i k k' (hBefore hMem) (hBefore hMem')
  · intro k i hMem
    refine since_concat.mpr (.inr ⟨h.shelved k i (hBefore hMem), ?_⟩)
    intro owner hAttaches
    have hOwner := (hAttaches.owner dealt).2
    rw [owner?_of_lifecycle (hFree k i hMem)] at hOwner
    cases hOwner
  · intro k i hShelved hOpen
    rcases since_concat.mp hShelved with hHere | ⟨hEarlier, hNot⟩
    · exact absurd hHere (hNone k i)
    · have hOpenBefore := entry.live_before dealt hNot hOpen
      exact hKept k i (h.kept k i hEarlier hOpenBefore) hOpenBefore hNot
  · intro k
    refine ((h.order k).sublist (hSub k)).imp fun hLater => ?_
    exact since_concat.mpr (.inr ⟨hLater, hNone k _⟩)

theorem Entry.Shelves.cached_after {k i : Nat} (h : entry.Shelves k i) (dealt : entry.Actual)
    (k' : Nat) : entry.after.cached k' =
      if k' = k then i :: entry.before.cached k' else entry.before.cached k' := by
  obtain ⟨address, hDetaches⟩ := h.detaches
  have hLive : (entry.before.setLifecycle i .idle).isClosedAt i = false := by
    rw [isClosedAt_setLifecycle]
    exact h.live
  rw [(hDetaches.settles dealt).cached, cached_takeBack hLive]
  rfl

theorem Entry.Shelves.mem_cached_after {k i : Nat} (h : entry.Shelves k i) (dealt : entry.Actual)
    {k' j : Nat} (hMem : j ∈ entry.after.cached k') :
    (k' = k ∧ j = i) ∨ j ∈ entry.before.cached k' := by
  rw [h.cached_after dealt] at hMem
  split at hMem
  next hk => exact (List.mem_cons.mp hMem).imp_left fun hj => ⟨hk, hj⟩
  next => exact .inr hMem

/-- A release puts an open connection on top of its cache. -/
theorem Tidy.push (h : Tidy log entry.before) {k i : Nat} (hShelves : entry.Shelves k i)
    (dealt : entry.Actual) : Tidy (log ++ [entry]) entry.after := by
  obtain ⟨address, hDetaches⟩ := hShelves.detaches
  have hBack := hDetaches.settles dealt
  have hCached := hShelves.cached_after dealt
  have hMem {k' j : Nat} (hIn : j ∈ entry.after.cached k') := hShelves.mem_cached_after dealt hIn
  have hNew := h.not_mem_of_owned hDetaches.owned
  have hOnly {k' j : Nat} (hOther : entry.Shelves k' j) : j = i ∧ k' = k := hShelves.unique hOther
  refine ⟨?_, ?_, ?_, ?_, ?_, ?_⟩
  · intro k'
    rw [hCached]
    split
    · exact List.nodup_cons.mpr ⟨hNew k', h.once k'⟩
    · exact h.once k'
  · intro j k' k'' hIn hIn'
    rcases hMem hIn with ⟨rfl, rfl⟩ | hOld
    · rcases hMem hIn' with ⟨rfl, _⟩ | hOld'
      · rfl
      · exact absurd hOld' (hNew k'')
    · rcases hMem hIn' with ⟨_, rfl⟩ | hOld'
      · exact absurd hOld (hNew k')
      · exact h.oneCache j k' k'' hOld hOld'
  · intro k' j hIn
    rw [hBack.lifecycle, lifecycle?_takeBack, lifecycle?_setLifecycle]
    rcases hMem hIn with ⟨_, rfl⟩ | hOld
    · obtain ⟨lifecycle, hLifecycle⟩ := exists_lifecycle hDetaches.owned
      rw [if_pos rfl, hLifecycle]
      rfl
    · have hOther : i ≠ j := by
        rintro rfl
        exact hNew k' hOld
      rw [if_neg hOther]
      exact h.free k' j hOld
  · intro k' j hIn
    rcases hMem hIn with ⟨rfl, rfl⟩ | hOld
    · exact since_concat.mpr (.inl hShelves)
    · exact since_concat.mpr (.inr ⟨h.shelved k' j hOld, fun _ => hDetaches.not_attaches⟩)
  · intro k' j hShelved hOpen
    rw [hCached]
    rcases since_concat.mp hShelved with hHere | ⟨hEarlier, _⟩
    · obtain ⟨rfl, rfl⟩ := hOnly hHere
      rw [if_pos rfl]
      exact List.mem_cons_self
    · have hOpenBefore := hBack.live hOpen
      rw [isClosedAt_takeBack, isClosedAt_setLifecycle] at hOpenBefore
      have hOld := h.kept k' j hEarlier hOpenBefore
      split
      · exact List.mem_cons_of_mem _ hOld
      · exact hOld
  · intro k'
    have hOrder : (entry.before.cached k').Pairwise (ShelvedLater (log ++ [entry]) k') := by
      refine (h.order k').imp_of_mem fun _ hOld hLater => ?_
      refine since_concat.mpr (.inr ⟨hLater, fun hHere => ?_⟩)
      obtain ⟨rfl, rfl⟩ := hOnly hHere
      exact hNew k' hOld
    rw [hCached]
    split
    next hk =>
      refine List.pairwise_cons.mpr ⟨fun j hOld => ?_, hOrder⟩
      rw [hk] at hOld ⊢
      exact since_concat.mpr (.inl ⟨hShelves, (h.shelved k j hOld).exists⟩)
    next => exact hOrder

/-- A step that leaves the caches as they are. -/
theorem Tidy.stay (h : Tidy log entry.before) (dealt : entry.Actual)
    (hCached : ∀ k, entry.after.cached k = entry.before.cached k)
    (hSame : ∀ k, ∀ i ∈ entry.before.cached k,
      entry.after.lifecycle? i = entry.before.lifecycle? i)
    (hNone : ∀ k i, ¬ entry.Shelves k i) : Tidy (log ++ [entry]) entry.after := by
  refine h.keep dealt ?_ ?_ ?_ hNone
  · intro k
    rw [hCached]
  · intro k i hMem
    rw [hCached] at hMem
    exact hSame k i hMem
  · intro k i hMem _ _
    rwa [hCached]

/-- What a cache leaves out when it is asked is closed, or it is what the cache hands out. -/
theorem Tidy.drop (h : Tidy log entry.before) (dealt : entry.Actual) {k : Nat}
    {dropped rest : List Nat} (hAsks : entry.action = .acquire k)
    (hSplit : entry.before.cached k = dropped ++ rest)
    (hGone : ∀ i ∈ dropped, entry.before.isClosedAt i = true ∨ ∃ owner, entry.Attaches i owner)
    (hCached : ∀ k', entry.after.cached k' = if k' = k then rest else entry.before.cached k')
    (hSame : ∀ k, ∀ i ∈ entry.after.cached k,
      entry.after.lifecycle? i = entry.before.lifecycle? i) :
    Tidy (log ++ [entry]) entry.after := by
  refine h.keep dealt ?_ hSame ?_ fun _ _ => not_shelves (by rw [hAsks]; nofun)
  · intro k'
    rw [hCached]
    split
    next hk =>
      rw [hk, hSplit]
      exact List.sublist_append_right dropped rest
    next => exact List.Sublist.refl _
  · intro k' i hMem hOpen hNot
    rw [hCached]
    split
    next hk =>
      rw [hk, hSplit, List.mem_append] at hMem
      refine hMem.resolve_left fun hDropped => ?_
      rcases hGone i hDropped with hClosed | ⟨owner, hAttaches⟩
      · rw [hOpen] at hClosed
        cases hClosed
      · exact hNot owner hAttaches
    next => exact hMem

/-- A release of a connection that comes back to a cache and is open puts it there; otherwise the
caches stay as they are. -/
theorem Tidy.release (h : Tidy log entry.before) (dealt : entry.Actual) {i : Nat} {pool : Pool}
    (hDetaches : entry.Detaches i pool) : Tidy (log ++ [entry]) entry.after := by
  by_cases hShelves : ∃ k, entry.Shelves k i
  · obtain ⟨k, hShelves⟩ := hShelves
    exact h.push hShelves dealt
  · have hBack := hDetaches.settles dealt
    refine h.stay dealt ?_ ?_ ?_
    · intro k
      refine hBack.receives.others k ?_
      rintro address rfl
      by_contra hLive
      rw [Bool.not_eq_true] at hLive
      exact hShelves ⟨k, ⟨address, hDetaches⟩, hLive⟩
    · intro k j hMem
      have hOther : i ≠ j := by
        rintro rfl
        exact h.not_mem_of_owned hDetaches.owned k hMem
      rw [hBack.lifecycle, lifecycle?_takeBack, lifecycle?_setLifecycle, if_neg hOther]
    · intro k j hOther
      obtain ⟨_, hDetaches'⟩ := hOther.detaches
      obtain ⟨_, hAsks⟩ := hDetaches.asks
      obtain ⟨_, hAsks'⟩ := hDetaches'.asks
      rw [hAsks] at hAsks'
      cases hAsks'
      exact hShelves ⟨k, hOther⟩

/-- What a cache hands out was there once, and nowhere else. -/
theorem Tidy.ne_of_mem {s : Session} (h : Tidy log s) {k i : Nat} {dropped rest : List Nat}
    (hSplit : s.cached k = dropped ++ i :: rest) {k' j : Nat}
    (hMem : j ∈ if k' = k then rest else s.cached k') : i ≠ j := by
  rintro rfl
  split at hMem
  next =>
    have hOnce := h.once k
    rw [hSplit] at hOnce
    exact (List.nodup_cons.mp (List.Nodup.of_append_right hOnce)).1 hMem
  next hk =>
    have hHere : i ∈ s.cached k := by
      rw [hSplit]
      exact List.mem_append_cons_self
    exact hk (h.oneCache i k' k hMem hHere)

theorem Tidy.next (h : Tidy log entry.before)
    (steps : entry.before.step entry.action = some entry.effect)
    (hOrderly : entry.action.Orderly) : Tidy (log ++ [entry]) entry.after := by
  have dealt : entry.Actual := dealt_step steps
  obtain ⟨s, action, s', told, answer⟩ := entry
  have dealtHere := dealt
  change Dealt s action answer s' at dealt
  change Tidy log s at h
  have hOld {k i : Nat} (hMem : i ∈ s.cached k) : i ≠ s.slots.length := by
    rintro rfl
    have hFree := h.free k _ hMem
    rw [lifecycle?_eq_none_iff.mpr le_rfl] at hFree
    cases hFree
  cases dealt with
  | quiet same _ _ _ =>
    refine h.stay dealtHere same.cached (fun _ i _ => same.lifecycle i) ?_
    intro k i hShelves
    obtain ⟨_, hDetaches⟩ := hShelves.detaches
    have hFree : s.owner? i = none := (same.owner i).symm.trans hDetaches.free
    rw [show s.owner? i = _ from hDetaches.owned] at hFree
    cases hFree
  | opened asks same =>
    refine h.stay dealtHere same.cached ?_ fun _ _ => not_shelves ?_
    · exact fun k i hMem => same.lifecycle_of_opens (hOld hMem)
    · rintro _ _ rfl
      rcases asks with hNot | hNot <;> cases hNot
  | @renewed k _ closed same =>
    have hCached (k' : Nat) : s'.cached k' = if k' = k then [] else s.cached k' :=
      (same.cached k').trans (cached_setCached s k [] k')
    refine h.drop dealtHere rfl (List.append_nil _).symm (fun i hMem => .inl (closed i hMem))
      hCached ?_
    intro k' i hMem
    change i ∈ s'.cached k' at hMem
    rw [hCached] at hMem
    split at hMem
    next => cases hMem
    next => exact same.lifecycle_of_opens (hOld hMem)
  | @cleared k _ _ closed same =>
    exact h.drop dealtHere rfl (List.append_nil _).symm (fun i hMem => .inl (closed i hMem))
      (fun k' => (same.cached k').trans (cached_setCached s k [] k'))
      (fun _ i _ => same.lifecycle i)
  | @taken k i dropped rest _ split closed live free same =>
    have hCached (k' : Nat) : s'.cached k' = if k' = k then rest else s.cached k' :=
      (same.cached k').trans (cached_setCached s k rest k')
    have hSplit : s.cached k = (dropped ++ [i]) ++ rest := by
      rw [split, List.append_assoc, List.singleton_append]
    refine h.drop dealtHere rfl hSplit ?_ hCached ?_
    · rw [List.forall_mem_append, List.forall_mem_singleton]
      exact ⟨fun j hMem => .inl (closed j hMem), .inr ⟨_, .acquired rfl rfl⟩⟩
    · intro k' j hMem
      have hOther : i ≠ j := h.ne_of_mem split (hCached k' ▸ hMem)
      exact (same.lifecycle j).trans ((lifecycle?_setLifecycle _ i _ j).trans (if_neg hOther))
  | @busy k i dropped rest owner _ _ split _ owned _ =>
    refine absurd ?_ (h.not_mem_of_owned owned k)
    rw [split]
    exact List.mem_append_cons_self
  | claimed asks _ _ => rcases asks with rfl | rfl <;> exact hOrderly.elim
  | @pinned i owner _ owned same =>
    refine h.stay dealtHere same.cached ?_ fun _ _ => not_shelves nofun
    intro k j hMem
    have hOther : i ≠ j := by
      rintro rfl
      exact h.not_mem_of_owned owned k hMem
    exact (same.lifecycle j).trans ((lifecycle?_setLifecycle s i _ j).trans (if_neg hOther))
  | released owned same =>
    exact h.release dealtHere ⟨⟨_, rfl⟩, owned, same.owner_of_release owned⟩
  | given same => exact hOrderly.elim

end

/-- What a cache gives when it is asked: the open connection that was released to it last, and only
where there is none a new one, if it can be opened. -/
inductive Served (log : List Entry) (s : Session) (k : Nat) : Answer → Prop
  | cached {i : Nat} (shelved : Shelved log k i) (live : s.isClosedAt i = false)
      (last : ∀ j, Shelved log k j → s.isClosedAt j = false → j ≠ i → ShelvedLater log k i j) :
      Served log s k (.socket i false)
  | opened (none : ∀ i, Shelved log k i → s.isClosedAt i = true) :
      Served log s k (.socket s.slots.length true)
  | failed {e : TransportError} (none : ∀ i, Shelved log k i → s.isClosedAt i = true) :
      Served log s k (.failed (.transport e))

section

variable {start s : Session} {log : List Entry}

theorem Tidy.served (h : Tidy log s) (k : Nat) :
    ∃ effect, s.step (.acquire k) = some effect ∧ Served log s k effect.result := by
  have hNone (hClosed : ∀ i ∈ s.cached k, s.isClosedAt i = true) (i : Nat)
      (hShelved : Shelved log k i) : s.isClosedAt i = true := by
    by_contra hLive
    rw [Bool.not_eq_true] at hLive
    rw [hClosed i (h.kept k i hShelved hLive)] at hLive
    cases hLive
  obtain ⟨effect, hStep⟩ : ∃ effect, s.step (.acquire k) = some effect := ⟨_, rfl⟩
  refine ⟨effect, hStep, ?_⟩
  have dealt := dealt_step hStep
  generalize effect.result = answer at dealt
  generalize effect.session = s' at dealt
  cases dealt with
  | quiet _ _ _ noAcquire => exact absurd rfl (noAcquire k)
  | opened asks _ => rcases asks with hNot | hNot <;> cases hNot
  | renewed closed _ => exact .opened (hNone closed)
  | cleared closed _ => exact .failed (hNone closed)
  | @taken _ i dropped rest _ split closed live _ _ =>
    have hHere : i ∈ s.cached k := by
      rw [split]
      exact List.mem_append_cons_self
    refine .cached (h.shelved k i hHere) live fun j hShelved hOpen hOther => ?_
    have hMem := h.kept k j hShelved hOpen
    have hOrder := h.order k
    rw [split] at hMem hOrder
    rcases List.mem_append.mp hMem with hDropped | hRest
    · rw [closed j hDropped] at hOpen
      cases hOpen
    · have hTail := (List.pairwise_append.mp hOrder).2.1
      exact (List.pairwise_cons.mp hTail).1 j ((List.mem_cons.mp hRest).resolve_left hOther)
  | @busy _ i dropped rest owner _ _ split _ owned _ =>
    refine absurd ?_ (h.not_mem_of_owned owned k)
    rw [split]
    exact List.mem_append_cons_self
  | claimed asks _ _ => rcases asks with hNot | hNot <;> cases hNot

theorem Run.tidy (run : Run start log s) (hStart : start.idle = [])
    (hOrderly : ∀ entry ∈ log, entry.action.Orderly) : Tidy log s := by
  induction run with
  | refl => exact tidy_start hStart
  | @next log entry _ hSteps ih =>
    obtain ⟨hEarlier, hHere⟩ := List.forall_mem_append.mp hOrderly
    exact (ih hEarlier).next hSteps (hHere entry (List.mem_singleton_self entry))

/-- However clients go about it, no cache loses a connection, holds one twice or hands out one that
somebody owns. -/
theorem Run.caches_stay_tidy (run : Run start log s) (hStart : start.idle = [])
    (hOrderly : ∀ entry ∈ log, entry.action.Orderly) :
    Tidy log s ∧ (∀ k i owner, s.owner? i = some owner → i ∉ s.cached k) ∧
      ∀ k, ∃ effect, s.step (.acquire k) = some effect ∧ Served log s k effect.result := by
  have hTidy := run.tidy hStart hOrderly
  exact ⟨hTidy, fun k _ _ hOwner => hTidy.not_mem_of_owned hOwner k, hTidy.served⟩

/-! Two connections are released, the second one last. -/

def bothLent : Session := lent.opens (.cache "server")

def bothRested : Session :=
  { (bothLent.setLifecycle 0 .idle).setLifecycle 1 .idle with idle := [(0, 1), (0, 0)] }

theorem two_releases_stay_tidy : ∃ log, Run listening log bothRested ∧
    bothRested.cached 0 = [1, 0] ∧ Tidy log bothRested ∧
    ∃ effect, bothRested.step (.acquire 0) = some effect ∧
      Served log bothRested 0 effect.result := by
  let oneRested : Session := { bothLent.setLifecycle 0 .idle with idle := [(0, 0)] }
  let first : Entry := ⟨listening, .connect (.cache "server"), lent, [], .socket 0 true⟩
  let second : Entry := ⟨lent, .connect (.cache "server"), bothLent, [], .socket 1 true⟩
  let third : Entry := ⟨bothLent, .release 0 false, oneRested, [], .done⟩
  let fourth : Entry := ⟨oneRested, .release 1 true, bothRested, [], .done⟩
  have connected : Run listening ([] ++ [first] ++ [second]) bothLent := .next (.next .refl rfl) rfl
  have run : Run listening ([] ++ [first] ++ [second] ++ [third] ++ [fourth]) bothRested :=
    .next (.next connected rfl) rfl
  have hOrderly : ∀ entry ∈ [first, second, third, fourth], entry.action.Orderly := by
    simp only [List.forall_mem_cons]
    exact ⟨trivial, trivial, trivial, trivial, List.forall_mem_nil _⟩
  obtain ⟨hTidy, _, hServed⟩ := run.caches_stay_tidy rfl hOrderly
  exact ⟨_, run, rfl, hTidy, hServed 0⟩

end

end Session

end DocumentLink
