import DocumentLink.Proofs.Connection.Collecting
import DocumentLink.Proofs.Log
import DocumentLink.Reply.Handover

/-! What a client gets from a collector, however their steps interleave.  The first end that the
collector is told of fixes the outcome, or that it goes away without one; what comes later changes
nothing, and neither does the moment at which the client waits or goes away. -/

namespace DocumentLink

/-! ### The first end -/

/-- The calls end the reply. -/
def Notice.IsEnd : Notice → Prop
  | .document _ _ _ => False
  | .complete _ | .lost _ => True

/-- The call that hands a document over. -/
def Notice.ofDocument (d : ReplyHeader × Nat × Bytes) : Notice := .document d.1 d.2.1 d.2.2

namespace Collector

/-- The outcome that the calls of a collector fix. -/
inductive Fixed : List Notice → Except RequestError Reply → Prop
  | complete (documents : List (ReplyHeader × Nat × Bytes)) (header : ReplyHeader)
      (later : List Notice) :
      Fixed (documents.map Notice.ofDocument ++ .complete header :: later)
        (.ok ⟨header, documents.map fun d => d.2.2⟩)
  | lost (documents : List (ReplyHeader × Nat × Bytes)) (e : ConnectionLost)
      (later : List Notice) :
      Fixed (documents.map Notice.ofDocument ++ .lost e :: later) (.error (.lost e))
  | abandoned (documents : List (ReplyHeader × Nat × Bytes)) :
      Fixed (documents.map Notice.ofDocument) (.error .abandoned)

theorem foldl_tell_documents (c : Collector) (documents : List (ReplyHeader × Nat × Bytes)) :
    (documents.map Notice.ofDocument).foldl tell c =
      { c with documents := c.documents ++ documents.map fun d => d.2.2 } := by
  induction documents generalizing c with
  | nil => simp
  | cons d rest ih => simp [ih, Notice.ofDocument, tell]

/-- Once there is an outcome, later calls do not change it. -/
theorem wait_foldl_tell {c : Collector} (h : c.outcome.isSome = true) (later : List Notice) :
    (later.foldl tell c).wait = c.wait := by
  obtain ⟨outcome, hOutcome⟩ := Option.isSome_iff_exists.mp h
  induction later generalizing c with
  | nil => rfl
  | cons notice later ih =>
    have hTold : (c.tell notice).outcome = some outcome := by
      cases notice <;> simp [tell, resolve, hOutcome]
    rw [List.foldl_cons, ih (by rw [hTold]; rfl) hTold, wait, wait, hTold, hOutcome]

/-- Calls either hand over documents only, or have a first end. -/
theorem documents_or_end (calls : List Notice) :
    (∃ documents : List (ReplyHeader × Nat × Bytes), calls = documents.map Notice.ofDocument) ∨
      ∃ (documents : List (ReplyHeader × Nat × Bytes)) (final : Notice) (later : List Notice),
        final.IsEnd ∧ calls = documents.map Notice.ofDocument ++ final :: later := by
  induction calls with
  | nil => exact .inl ⟨[], rfl⟩
  | cons call rest ih =>
    cases call with
    | document header index data =>
      rcases ih with ⟨documents, rfl⟩ | ⟨documents, final, later, hEnd, rfl⟩
      · exact .inl ⟨(header, index, data) :: documents, rfl⟩
      · exact .inr ⟨(header, index, data) :: documents, final, later, hEnd, rfl⟩
    | complete header => exact .inr ⟨[], .complete header, rest, trivial, rfl⟩
    | lost e => exact .inr ⟨[], .lost e, rest, trivial, rfl⟩

theorem Fixed.wait_after {calls : List Notice} {outcome : Except RequestError Reply}
    (h : Fixed calls outcome) : (after calls).wait = outcome := by
  cases h with
  | complete documents header later =>
    rw [after, List.foldl_append, foldl_tell_documents, List.foldl_cons, wait_foldl_tell rfl]
    rfl
  | lost documents e later =>
    rw [after, List.foldl_append, foldl_tell_documents, List.foldl_cons, wait_foldl_tell rfl]
    rfl
  | abandoned documents =>
    rw [after, foldl_tell_documents]
    rfl

/-- Any calls fix one outcome, and a collector comes to it. -/
theorem fixed_iff {calls : List Notice} {outcome : Except RequestError Reply} :
    Fixed calls outcome ↔ (after calls).wait = outcome := by
  refine ⟨Fixed.wait_after, ?_⟩
  rintro rfl
  have hFixed : ∃ outcome, Fixed calls outcome := by
    rcases documents_or_end calls with ⟨documents, rfl⟩ | ⟨documents, final, later, hEnd, rfl⟩
    · exact ⟨_, .abandoned documents⟩
    · cases final with
      | document header index data => exact hEnd.elim
      | complete header => exact ⟨_, .complete documents header later⟩
      | lost e => exact ⟨_, .lost documents e later⟩
  obtain ⟨outcome, hFixed⟩ := hFixed
  rwa [hFixed.wait_after]

theorem isSome_outcome_foldl_tell (c : Collector) (calls : List Notice) :
    (calls.foldl tell c).outcome.isSome = true ↔
      c.outcome.isSome = true ∨ ∃ call ∈ calls, call.IsEnd := by
  induction calls generalizing c with
  | nil => simp
  | cons call rest ih =>
    rw [List.foldl_cons, ih]
    cases call <;> simp [tell, resolve, Notice.IsEnd]

/-- The first outcome of a collector is what its waiter is told. -/
theorem wait_resolve {c : Collector} (h : c.outcome = none)
    (outcome : Except ConnectionLost Reply) :
    (c.resolve outcome).wait = outcome.mapError .lost := by
  rw [resolve, h, wait]
  cases outcome <;> rfl

theorem after_concat (calls : List Notice) (call : Notice) :
    after (calls ++ [call]) = (after calls).tell call := by
  rw [after, List.foldl_append]
  rfl

end Collector

/-! ### Two parties -/

namespace Handover

/-- What the collector has been told in the course of events. -/
def notices (log : List Event) : List Notice :=
  log.filterMap fun
    | .tell notice => some notice
    | _ => none

/-- A run of the two parties from the moment when they are made, with the log of its events. -/
inductive Run : List Event → Handover → Prop
  | start : Run [] {}
  | next {log : List Event} {h h' : Handover} (run : Run log h) (event : Event)
      (step : h.step event = some h') : Run (log ++ [event]) h'

variable {h h' : Handover} {c : Collector} {log : List Event}

@[simp]
theorem resolve_collecting (outcome : Except RequestError Reply) :
    (h.resolve outcome).collecting = h.collecting := by
  unfold resolve
  split <;> rfl

@[simp]
theorem tell_collecting (notice : Notice) : (h.tell notice).collecting = h.collecting := by
  cases notice <;> simp [tell]

@[simp]
theorem resolve_client (outcome : Except RequestError Reply) :
    (h.resolve outcome).client = h.client := by
  unfold resolve
  split <;> rfl

@[simp]
theorem tell_client (notice : Notice) : (h.tell notice).client = h.client := by
  cases notice <;> simp [tell]

/-- What the client has got, or can get from the channel, is the outcome of the collector. -/
def Served (c : Collector) (collecting : Bool) (channel : Channel (Except RequestError Reply)) :
    Client → Prop
  | .ready | .waiting =>
    channel.receiver = true ∧ channel.queue = if c.outcome.isSome then [c.wait] else []
  | .told result =>
    channel.receiver = false ∧ result = c.wait ∧ (c.outcome.isSome = true ∨ collecting = false)
  | .gone => channel.receiver = false

/-- The two parties stand where a collector by itself stands. -/
structure Agrees (h : Handover) (c : Collector) : Prop where
  documents : h.documents = c.documents
  sender : h.channel.sender = (h.collecting && c.outcome.isNone)
  client : Served c h.collecting h.channel h.client

/-- The first outcome goes to the client, if that is still there, and any other goes nowhere. -/
theorem Agrees.resolve (hAgrees : h.Agrees c) (hCollecting : h.collecting = true)
    {outcome : Except ConnectionLost Reply} {result : Except RequestError Reply}
    (hResult : c.outcome = none → (c.resolve outcome).wait = result) :
    (h.resolve result).Agrees (c.resolve outcome) := by
  have hSender := hAgrees.sender
  have hClient := hAgrees.client
  unfold Handover.resolve
  cases hOutcome : c.outcome with
  | some decided =>
    have hSame : c.resolve outcome = c := by
      rw [Collector.resolve, hOutcome, Option.getD_some, ← hOutcome]
    rw [hOutcome, Option.isNone_some, Bool.and_false] at hSender
    rw [hSender, hSame]
    exact hAgrees
  | none =>
    rw [hOutcome, Option.isNone_none, Bool.and_true, hCollecting] at hSender
    rw [hSender, if_pos rfl]
    refine ⟨hAgrees.documents, (Bool.and_false _).symm, ?_⟩
    unfold Channel.send
    cases hWhere : h.client with
    | ready | waiting =>
      rw [hWhere, Served, hOutcome] at hClient
      rw [hClient.1, hClient.2]
      exact ⟨rfl, congrArg (fun r => [r]) (hResult hOutcome).symm⟩
    | told _ =>
      rw [hWhere, Served, hOutcome, hCollecting] at hClient
      simp at hClient
    | gone =>
      rw [hWhere, Served] at hClient
      rw [hClient]
      exact hClient

theorem Agrees.tell (hAgrees : h.Agrees c) (hCollecting : h.collecting = true) (notice : Notice) :
    (h.tell notice).Agrees (c.tell notice) := by
  cases notice with
  | document header index data =>
    exact ⟨congrArg (· ++ [data]) hAgrees.documents, hAgrees.sender, hAgrees.client⟩
  | complete header =>
    have hEmptied : Agrees { h with documents := [] } { c with documents := [] } :=
      ⟨rfl, hAgrees.sender, hAgrees.client⟩
    rw [Handover.tell, hAgrees.documents]
    exact hEmptied.resolve hCollecting fun hNone => Collector.wait_resolve hNone _
  | lost e => exact hAgrees.resolve hCollecting fun hNone => Collector.wait_resolve hNone _

/-- A client that waits goes on as soon as there is an outcome or the collector is gone. -/
theorem Agrees.step_receive (hAgrees : h.Agrees c) (hWaiting : h.client = .waiting) :
    h.step .receive =
      if c.outcome.isSome || !h.collecting then
        some { h with channel := h.channel.dropReceiver, client := .told c.wait }
      else none := by
  have hSender := hAgrees.sender
  have hClient := hAgrees.client
  rw [hWaiting, Served] at hClient
  simp only [Handover.step, hWaiting, Channel.receive?, hClient.2]
  cases hOutcome : c.outcome with
  | some _ => rfl
  | none =>
    have hAbandoned : c.wait = .error .abandoned := by rw [Collector.wait, hOutcome]
    rw [hOutcome, Option.isNone_none, Bool.and_true] at hSender
    rw [hAbandoned, ← hSender]
    cases h.channel.sender <;> rfl

/-- What a collector by itself makes of an event. -/
def Event.apply (c : Collector) : Event → Collector
  | .tell notice => c.tell notice
  | _ => c

theorem Agrees.step (hAgrees : h.Agrees c) {event : Event} (hStep : h.step event = some h') :
    h'.Agrees (event.apply c) := by
  have hClient := hAgrees.client
  cases event with
  | tell notice =>
    simp only [Handover.step, Option.ite_none_right_eq_some, Option.some.injEq] at hStep
    obtain ⟨hCollecting, rfl⟩ := hStep
    exact hAgrees.tell hCollecting notice
  | drop =>
    simp only [Handover.step, Option.ite_none_right_eq_some, Option.some.injEq] at hStep
    obtain ⟨_, rfl⟩ := hStep
    refine ⟨hAgrees.documents, rfl, ?_⟩
    cases hWhere : h.client with
    | told _ =>
      rw [hWhere] at hClient
      exact ⟨hClient.1, hClient.2.1, .inr rfl⟩
    | ready | waiting | gone =>
      rw [hWhere] at hClient
      exact hClient
  | wait =>
    cases hWhere : h.client <;> simp [Handover.step, hWhere] at hStep
    rw [hWhere] at hClient
    subst hStep
    exact ⟨hAgrees.documents, hAgrees.sender, hClient⟩
  | receive =>
    have hWaiting : h.client = .waiting := by
      cases hWhere : h.client <;> simp [Handover.step, hWhere] at hStep ⊢
    rw [hAgrees.step_receive hWaiting, Option.ite_none_right_eq_some] at hStep
    obtain ⟨hOver, hStep⟩ := hStep
    cases hStep
    rw [Bool.or_eq_true, Bool.not_eq_true'] at hOver
    exact ⟨hAgrees.documents, hAgrees.sender, rfl, rfl, hOver⟩
  | giveUp =>
    cases hWhere : h.client <;> simp [Handover.step, hWhere] at hStep
    subst hStep
    exact ⟨hAgrees.documents, hAgrees.sender, rfl⟩

theorem step_collecting {event : Event} (hStep : h.step event = some h') :
    h'.collecting = true ↔ h.collecting = true ∧ event ≠ .drop := by
  cases event with
  | tell notice =>
    simp only [step, Option.ite_none_right_eq_some, Option.some.injEq] at hStep
    simp [← hStep.2]
  | drop =>
    simp only [step, Option.ite_none_right_eq_some, Option.some.injEq] at hStep
    simp [← hStep.2]
  | wait | giveUp =>
    cases hWhere : h.client <;> simp [step, hWhere] at hStep
    simp [← hStep]
  | receive =>
    cases hWhere : h.client <;> simp only [step, hWhere, reduceCtorEq] at hStep
    obtain ⟨_, _, hStep⟩ := Option.bind_eq_some_iff.mp hStep
    simp [← Option.some.inj hStep]

theorem notices_concat (log : List Event) (event : Event) :
    Collector.after (notices (log ++ [event])) = event.apply (Collector.after (notices log)) := by
  rw [notices, List.filterMap_append, ← notices]
  cases event with
  | tell notice => exact Collector.after_concat _ notice
  | drop | wait | receive | giveUp => exact congrArg Collector.after (List.append_nil _)

/-- At every moment the two parties stand where the collector by itself would, which is there until
it goes away. -/
theorem Run.agrees (run : Run log h) :
    h.Agrees (Collector.after (notices log)) ∧ (h.collecting = true ↔ Event.drop ∉ log) := by
  induction run with
  | start => exact ⟨⟨rfl, rfl, rfl, rfl⟩, by simp⟩
  | @next log h h' _ event hStep ih =>
    rw [notices_concat, step_collecting hStep, ih.2, List.mem_append, List.mem_singleton, not_or,
      ne_comm]
    exact ⟨ih.1.step hStep, Iff.rfl⟩

/-- How two parties stand once an outcome is fixed. -/
structure Decided (log : List Event) (h : Handover) (outcome : Except RequestError Reply) :
    Prop where
  fixed : Collector.Fixed (notices log) outcome
  /-- Nothing that comes after an end makes a difference. -/
  kept : (∃ call ∈ notices log, call.IsEnd) → ∀ later other,
    Collector.Fixed (notices log ++ later) other → other = outcome
  told : ∀ result, h.client = .told result → result = outcome
  /-- A client that waits can go on once there is an end or nobody to wait for, and no sooner. -/
  receives : h.client = .waiting →
    ((∃ h', h.step .receive = some h') ↔
      (∃ call ∈ notices log, call.IsEnd) ∨ Event.drop ∈ log) ∧
    ∀ h', h.step .receive = some h' → h'.client = .told outcome
  /-- A client that has not begun to wait may begin, or go away. -/
  chooses : h.client = .ready →
    (∃ h', h.step .wait = some h' ∧ h'.client = .waiting) ∧
    ∃ h', h.step .giveUp = some h' ∧ h'.client = .gone
  /-- Wherever the client stands, the collector can be told anything, and can go away. -/
  goesOn : Event.drop ∉ log →
    (∀ notice, ∃ h', h.step (.tell notice) = some h' ∧ h'.client = h.client) ∧
    ∃ h', h.step .drop = some h' ∧ h'.client = h.client

/-- A client gets what the first end of the reply says, with the documents up to it, or that the
collector went away without an end.  It gets the same whenever it waits, it gets that as soon as it
is clear, and nothing that it does gets in the way of the collector. -/
theorem Run.first_end_decides (run : Run log h) : ∃ outcome, Decided log h outcome := by
  obtain ⟨hAgrees, hCollecting⟩ := run.agrees
  have hEnds : (Collector.after (notices log)).outcome.isSome = true ↔
      ∃ call ∈ notices log, call.IsEnd := by
    rw [Collector.after, Collector.isSome_outcome_foldl_tell]
    simp
  have hClient := hAgrees.client
  refine ⟨(Collector.after (notices log)).wait, Collector.fixed_iff.mpr rfl, ?kept, ?told,
    ?receives, ?chooses, ?goesOn⟩
  case kept =>
    intro hEnd later other hFixed
    rw [← hFixed.wait_after, Collector.after, List.foldl_append]
    exact Collector.wait_foldl_tell (hEnds.mpr hEnd) later
  case told =>
    intro result hTold
    rw [hTold] at hClient
    exact hClient.2.1
  case receives =>
    intro hWaiting
    rw [← hEnds, ← not_not (a := Event.drop ∈ log), ← hCollecting, Bool.not_eq_true,
      hAgrees.step_receive hWaiting]
    constructor
    · simp
    · intro h' hStep
      rw [Option.ite_none_right_eq_some] at hStep
      rw [← Option.some.inj hStep.2]
  case chooses =>
    intro hReady
    simp [step, hReady]
  case goesOn =>
    intro hDrop
    simp [step, hCollecting.mpr hDrop]

/-- The connection is lost while a client waits; that the reply ends after all comes too late. -/
theorem lost_before_complete :
    let e : ConnectionLost := ⟨"db", "reset"⟩
    let header : ReplyHeader := ⟨0, 0, 0, 1⟩
    let log : List Event := [.tell (.document header 0 [5, 0, 0, 0, 0]), .wait, .tell (.lost e),
      .receive, .tell (.complete header), .drop]
    ∃ h, Run log h ∧ h.client = .told (.error (.lost e)) ∧ ∃ outcome, Decided log h outcome := by
  intro e header log
  have began := Run.start.next (.tell (.document header 0 [5, 0, 0, 0, 0])) rfl
  have lost := (began.next .wait rfl).next (.tell (.lost e)) rfl
  have run := ((lost.next .receive rfl).next (.tell (.complete header)) rfl).next .drop rfl
  exact ⟨_, run, rfl, run.first_end_decides⟩

end Handover

end DocumentLink
