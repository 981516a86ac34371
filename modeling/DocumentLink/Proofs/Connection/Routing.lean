import DocumentLink.Proofs.Connection.Dispatch

/-! Who is told of which reply.  The calls of a handler are those of the first reply to its
request, so replies that nobody waits for, and the order of replies to different requests, make
no difference to anybody. -/

namespace DocumentLink

variable {P H : Type}

/-- What a handler is told of the reply to its request, if there is one. -/
def callsFor : Option Reply → List Notice
  | none => []
  | some reply => upTo reply.header reply.documents ++ [.complete reply.header]

/-! ### Requests in flight -/

namespace Correlator

theorem take_of_mem {c : Correlator H} (hc : c.Sound) {id : UInt32} {handler : H}
    (h : (id, handler) ∈ c.pending) : (c.take id).1 = some handler := by
  obtain ⟨before, after, hSplit⟩ := List.append_of_mem h
  exact congrArg Prod.fst (take_eq_of_pending hc hSplit)

/-- Two requests do not share a handler. -/
theorem eq_of_mem_pending {c : Correlator H} (hOwn : c.waiting.Nodup) {id id' : UInt32}
    {handler : H} (h : (id, handler) ∈ c.pending) (h' : (id', handler) ∈ c.pending) : id = id' :=
  congrArg Prod.fst (List.inj_on_of_nodup_map hOwn h h' rfl)

end Correlator

/-! ### Replies in turn -/

theorem dispatch_correlator (correlator : Correlator H) (replies : List (UInt32 × Reply)) :
    (dispatch correlator replies).2 =
      { correlator with
        pending := correlator.pending.filter fun entry => entry.1 ∉ replies.map Prod.fst } := by
  induction replies generalizing correlator with
  | nil => simp [dispatch]
  | cons r replies ih =>
    rw [dispatch]
    simp only [ih, Correlator.take, List.filter_filter, List.map_cons, List.mem_cons]
    congr 2
    funext entry
    grind

section

variable [DecidableEq H] {correlator : Correlator H} {handler : H}

theorem callsOf_tellAll (taken : Option H) (notices : List Notice) :
    callsOf handler (tellAll taken notices) = if taken = some handler then notices else [] := by
  cases taken with
  | none => rfl
  | some h =>
    by_cases hSame : h = handler
    · simp [tellAll, callsOf, hSame, List.filter_map, Function.comp_def]
    · simp [tellAll, callsOf, hSame]

theorem callsOf_dispatch_of_notMem (h : handler ∉ correlator.waiting)
    (replies : List (UInt32 × Reply)) : callsOf handler (dispatch correlator replies).1 = [] := by
  induction replies generalizing correlator with
  | nil => rfl
  | cons r replies ih =>
    have hOther : (correlator.take r.1).1 ≠ some handler :=
      fun hTaken => h (List.mem_map_of_mem (Correlator.mem_of_take hTaken))
    have hLater := ih fun hMem => h ((correlator.waiting_take_sublist r.1).subset hMem)
    rw [dispatch, callsOf_append, callsOf_tellAll, if_neg hOther, hLater]
    rfl

/-- The first reply to its request is what a handler is told of. -/
theorem callsOf_dispatch (hSound : correlator.Sound) (hOwn : correlator.waiting.Nodup)
    {id : UInt32} (h : (id, handler) ∈ correlator.pending) (replies : List (UInt32 × Reply)) :
    callsOf handler (dispatch correlator replies).1 = callsFor (replies.lookup id) := by
  induction replies generalizing correlator with
  | nil => rfl
  | cons r replies ih =>
    obtain ⟨id', reply⟩ := r
    rw [dispatch, callsOf_append, callsOf_tellAll]
    by_cases hSame : id = id'
    · subst hSame
      have hTaken : (correlator.take id).1 = some handler := Correlator.take_of_mem hSound h
      -- The handler has left the requests in flight, so no later reply is told to it.
      have hGone : handler ∉ (correlator.take id).2.waiting := by
        intro hMem
        obtain ⟨⟨id', _⟩, hEntry, rfl⟩ := List.mem_map.mp hMem
        obtain ⟨hPending, hOther⟩ := List.mem_filter.mp hEntry
        exact bne_iff_ne.mp hOther (Correlator.eq_of_mem_pending hOwn hPending h)
      rw [if_pos hTaken, callsOf_dispatch_of_notMem hGone, List.append_nil, List.lookup_cons_self,
        remainder_zero]
      rfl
    · have hOther : (correlator.take id').1 ≠ some handler := by
        intro hTaken
        exact hSame (Correlator.eq_of_mem_pending hOwn h (Correlator.mem_of_take hTaken))
      have hStays : (id, handler) ∈ (correlator.take id').2.pending :=
        List.mem_filter.mpr ⟨h, bne_iff_ne.mpr hSame⟩
      rw [if_neg hOther, List.nil_append, List.lookup_cons, beq_false_of_ne hSame]
      exact ih (hSound.take id') (hOwn.sublist (correlator.waiting_take_sublist id')) hStays

end

/-! ### Replies in another order -/

/-- Replies that differ only in what makes no difference to the requests with the given ids. -/
inductive Rearranged (ids : List UInt32) : List (UInt32 × Reply) → List (UInt32 × Reply) → Prop
  | refl (replies : List (UInt32 × Reply)) : Rearranged ids replies replies
  | symm {first second : List (UInt32 × Reply)} (h : Rearranged ids first second) :
      Rearranged ids second first
  | trans {first second third : List (UInt32 × Reply)} (h : Rearranged ids first second)
      (h' : Rearranged ids second third) : Rearranged ids first third
  | swap {r r' : UInt32 × Reply} (before after : List (UInt32 × Reply)) (other : r.1 ≠ r'.1) :
      Rearranged ids (before ++ r :: r' :: after) (before ++ r' :: r :: after)
  | unheard {r : UInt32 × Reply} (before after : List (UInt32 × Reply))
      (unheard : r.1 = 0 ∨ r.1 ∉ ids ∨ r.1 ∈ before.map Prod.fst) :
      Rearranged ids (before ++ after) (before ++ r :: after)

theorem isSome_lookup_iff {α : Type} {entries : List (UInt32 × α)} {id : UInt32} :
    (entries.lookup id).isSome ↔ id ∈ entries.map Prod.fst := by
  simp only [List.lookup_isSome_iff, List.mem_map, beq_iff_eq, eq_comm (a := id)]

/-- The first replies to the requests stay the same. -/
theorem Rearranged.lookup {ids : List UInt32} {first second : List (UInt32 × Reply)}
    (h : Rearranged ids first second) (hZero : 0 ∉ ids) :
    ∀ id ∈ ids, first.lookup id = second.lookup id := by
  induction h with
  | refl replies => exact fun _ _ => rfl
  | symm _ ih => exact fun id hid => (ih id hid).symm
  | trans _ _ ih ih' => exact fun id hid => (ih id hid).trans (ih' id hid)
  | @swap r r' before after hOther =>
    intro id _
    obtain ⟨id₁, reply₁⟩ := r
    obtain ⟨id₂, reply₂⟩ := r'
    simp only [List.lookup_append, List.lookup_cons]
    congr 1
    by_cases h₁ : id = id₁
    · have h₂ : id ≠ id₂ := fun h₂ => hOther (h₁.symm.trans h₂)
      rw [h₁, beq_self_eq_true, ← h₁, beq_false_of_ne h₂]
    · rw [beq_false_of_ne h₁]
  | @unheard r before after hUnheard =>
    intro id hid
    obtain ⟨id', reply⟩ := r
    rw [List.lookup_append, List.lookup_append, List.lookup_cons]
    by_cases hSame : id = id'
    · subst hSame
      have hAnswered : id ∈ before.map Prod.fst := by
        rcases hUnheard with rfl | hUnknown | hAnswered
        · exact absurd hid hZero
        · exact absurd hid hUnknown
        · exact hAnswered
      obtain ⟨first, hFirst⟩ := Option.isSome_iff_exists.mp (isSome_lookup_iff.mpr hAnswered)
      rw [hFirst]
      rfl
    · rw [beq_false_of_ne hSame]

namespace Connection

variable {c : Connection P H}

/-- Replies are told in turn, and then reading waits for the next one. -/
theorem receive_dispatch {replies : List (UInt32 × Reply)} {b : Bytes}
    (hPhase : c.phase = .betweenReplies) (hReferenced : c.referenced = true)
    (hLive : c.inbound.ending = .live)
    (hReplies : AreReplies c.maxMessageSize replies (c.inbound.bytes ++ b)) :
    c.receive b .live = {
      connection := {
        c with inbound := ⟨[], .live⟩, correlator := (dispatch c.correlator replies).2 }
      told := (dispatch c.correlator replies).1
      result := () } := by
  have hArrived : (c.inbound.append b).close .live = ⟨c.inbound.bytes ++ b ++ [], .live⟩ := by
    simp [hLive, Source.append, Source.close]
  have hSettle := settle_replies (c := { c with inbound := ⟨c.inbound.bytes ++ b ++ [], .live⟩ })
    hPhase hReferenced hReplies rfl
  have hWaits : ({ c with
      inbound := ⟨[], .live⟩,
      correlator := (dispatch c.correlator replies).2 } : Connection P H).readStep = none := by
    simp [readStep, hPhase, ReplyFrame.read, Source.take, ReplyHeader.prefixSize]
  rw [receive, hArrived, hSettle, settle_of_none hWaits]
  simp [Reaction.after]

/-- A handler is told of the first reply to its request, document by document, and of no other.
Reading all replies leaves the connection open between two replies, with the requests in flight
that were not answered.  It makes no difference to anybody in which order the replies to different
requests come and which replies come that nobody waits for. -/
theorem receive_replies [DecidableEq H] (hc : c.Coherent) (hOpen : c.closed = none)
    (hPhase : c.phase = .betweenReplies) (hLive : c.inbound.ending = .live)
    (hOwn : c.correlator.waiting.Nodup) {replies : List (UInt32 × Reply)} {b : Bytes}
    (hReplies : AreReplies c.maxMessageSize replies (c.inbound.bytes ++ b)) :
    let r := c.receive b .live
    (∀ id handler, (id, handler) ∈ c.correlator.pending →
        callsOf handler r.told = callsFor (replies.lookup id)) ∧
      (∀ handler, handler ∉ c.correlator.waiting → callsOf handler r.told = []) ∧
      r.connection = { c with
        inbound := ⟨[], .live⟩
        correlator := { c.correlator with
          pending := c.correlator.pending.filter fun entry => entry.1 ∉ replies.map Prod.fst } } ∧
      ∀ replies' b', Rearranged c.correlator.ids replies replies' →
        AreReplies c.maxMessageSize replies' (c.inbound.bytes ++ b') →
        (c.receive b' .live).connection = r.connection ∧
          ∀ handler, callsOf handler (c.receive b' .live).told = callsOf handler r.told := by
  have hReferenced := hc.referenced hOpen
  rw [receive_dispatch hPhase hReferenced hLive hReplies]
  refine ⟨fun id handler h => callsOf_dispatch hc.sound hOwn h replies,
    fun handler h => callsOf_dispatch_of_notMem h replies, ?_, ?_⟩
  · rw [dispatch_correlator]
  · intro replies' b' hRearranged hReplies'
    have hLookup := hRearranged.lookup hc.sound.nonzero
    rw [receive_dispatch hPhase hReferenced hLive hReplies']
    refine ⟨?_, fun handler => ?_⟩
    · have hLeft : (c.correlator.pending.filter fun entry => entry.1 ∉ replies'.map Prod.fst) =
          c.correlator.pending.filter fun entry => entry.1 ∉ replies.map Prod.fst := by
        refine List.filter_congr fun entry hEntry => ?_
        have hSame : entry.1 ∈ replies'.map Prod.fst ↔ entry.1 ∈ replies.map Prod.fst := by
          rw [← isSome_lookup_iff, ← isSome_lookup_iff, hLookup _ (List.mem_map_of_mem hEntry)]
        simp only [hSame]
      rw [dispatch_correlator, dispatch_correlator, hLeft]
    · by_cases hWaits : handler ∈ c.correlator.waiting
      · obtain ⟨⟨id, _⟩, hEntry, rfl⟩ := List.mem_map.mp hWaits
        rw [callsOf_dispatch hc.sound hOwn hEntry, callsOf_dispatch hc.sound hOwn hEntry,
          hLookup id (List.mem_map_of_mem hEntry)]
      · rw [callsOf_dispatch_of_notMem hWaits, callsOf_dispatch_of_notMem hWaits]

/-- Of three requests one is answered once and one twice; a fourth reply is to none of them. -/
theorem two_requests_of_three_are_answered :
    let empty : ReplyHeader := ⟨0, 0, 0, 0⟩
    let full : ReplyHeader := ⟨0, 0, 0, 1⟩
    let document : Bytes := [5, 0, 0, 0, 0]
    let c : Connection Unit Nat := {
      address := "db", maxMessageSize := 100, lifecycle := .acquired ()
      correlator := { lastId := 3, pending := [(1, 11), (2, 12), (3, 13)] } }
    let b := full.message 9 [document] ++ (full.message 2 [document] ++ (empty.message 2 [] ++
      (empty.message 1 [] ++ [])))
    let r := c.receive b .live
    callsOf 11 r.told = [.complete empty] ∧
      callsOf 12 r.told = [.document full 0 document, .complete full] ∧
      callsOf 13 r.told = [] ∧
      r.connection = { c with correlator := { c.correlator with pending := [(3, 13)] } } := by
  intro empty full document c b r
  have hc : c.Coherent :=
    ⟨⟨by decide, by decide⟩, nofun, nofun, nofun⟩
  have hDocument : ∀ data ∈ [document], SelfDelimiting 5 data := by
    intro data hData
    rw [List.mem_singleton.mp hData]
    exact ⟨by decide, by decide⟩
  have hFull (id : UInt32) :
      IsReply c.maxMessageSize id ⟨full, [document]⟩ (full.message id [document]) := by
    have hSize : (full.message id [document]).length = 41 := rfl
    exact isReply_message id rfl hDocument (by rw [hSize]; decide) (by rw [hSize]; decide)
  have hEmpty (id : UInt32) :
      IsReply c.maxMessageSize id ⟨empty, []⟩ (empty.message id []) := by
    have hSize : (empty.message id []).length = 36 := rfl
    exact isReply_message id rfl nofun (by rw [hSize]; decide) (by rw [hSize]; decide)
  have hReplies : AreReplies c.maxMessageSize
      [(9, ⟨full, [document]⟩), (2, ⟨full, [document]⟩), (2, ⟨empty, []⟩), (1, ⟨empty, []⟩)] b :=
    .cons (hFull 9) (.cons (hFull 2) (.cons (hEmpty 2) (.cons (hEmpty 1) .nil)))
  obtain ⟨hCalls, _, hConnection, _⟩ :=
    receive_replies hc rfl rfl rfl (by decide) hReplies
  exact ⟨hCalls 1 11 (by decide), hCalls 2 12 (by decide), hCalls 3 13 (by decide), hConnection⟩

end Connection

end DocumentLink
