import DocumentLink.Proofs.Connection.Correlator
import DocumentLink.Proofs.Log

/-! Handlers in the keeping of a correlator, over any sequence of calls.  A handler is kept under
the id that was given out for it until that id, or all of them, are asked for.  No other handler
gets the id in between, so a map with one place for each id holds them all: none is lost and none
comes out twice. -/

namespace DocumentLink.Correlator

variable {H : Type}

/-- Keeps a handler in a map that has one place for each id.  A handler that was there before comes
out of it. -/
def keep (entries : List (UInt32 × H)) (id : UInt32) (handler : H) :
    Option H × List (UInt32 × H) :=
  (entries.lookup id, (entries.filter fun entry => entry.1 != id) ++ [(id, handler)])

theorem keep_of_notMem {c : Correlator H} {id : UInt32} (h : id ∉ c.ids) (handler : H) :
    keep c.pending id handler = (none, c.pending ++ [(id, handler)]) := by
  have hTake := take_eq_of_notMem h
  rw [take, Prod.mk.injEq] at hTake
  rw [keep, hTake.1]
  exact congrArg (fun c : Correlator H => (none, c.pending ++ [(id, handler)])) hTake.2

/-- An id in flight has a place of its own. -/
theorem Sound.split {c : Correlator H} (hc : c.Sound) {id : UInt32} {handler : H}
    (h : (id, handler) ∈ c.pending) : ∃ front back,
      c.pending = front ++ (id, handler) :: back ∧ id ∉ (front ++ back).map Prod.fst := by
  obtain ⟨front, back, hSplit⟩ := List.append_of_mem h
  refine ⟨front, back, hSplit, ?_⟩
  have hDistinct := hc.distinct
  rw [ids, hSplit, List.map_append, List.map_cons, List.nodup_middle, List.nodup_cons,
    ← List.map_append] at hDistinct
  exact hDistinct.1

/-! ### Calls -/

inductive Call (H : Type) where
  | register (handler : H)
  | take (id : UInt32)
  | drain

/-- A call, with the correlator that it finds. -/
structure Turn (H : Type) where
  before : Correlator H
  call : Call H

namespace Turn

def after (turn : Turn H) : Correlator H :=
  match turn.call with
  | .register handler => (turn.before.register handler).2
  | .take id => (turn.before.take id).2
  | .drain => turn.before.drain.2

/-- The id that the call returns for a handler, and the handler. -/
def registered? (turn : Turn H) : Option (UInt32 × H) :=
  match turn.call with
  | .register handler => some ((turn.before.register handler).1, handler)
  | .take _ | .drain => none

/-- The handlers that the call gives out, each with its id. -/
def givenOut (turn : Turn H) : List (UInt32 × H) :=
  match turn.call with
  | .register _ => []
  | .take id => (turn.before.take id).1.toList.map (id, ·)
  | .drain => turn.before.drain.1

/-- Where a handler is registered there are ids for more handlers than wait. -/
def HasRoom (turn : Turn H) : Prop :=
  ∀ handler, turn.call = .register handler → turn.before.pending.length < UInt32.size - 1

/-- The call comes back.  Only the search for an id could keep it, and it ends exactly if one is
free. -/
def Returns (turn : Turn H) : Prop :=
  ∀ handler, turn.call = .register handler → ∃ id, turn.before.isFree id = true

variable {turn : Turn H} {id : UInt32} {handler : H}

theorem HasRoom.returns (h : turn.HasRoom) : turn.Returns := by
  intro handler hCall
  have hRoom := h handler hCall
  obtain ⟨_, _, hFree⟩ :=
    exists_free_of_room (c := turn.before) (by simp only [UInt32.size] at *; omega)
  exact ⟨_, hFree⟩

theorem registered?_eq_some_iff :
    turn.registered? = some (id, handler) ↔
      turn.call = .register handler ∧ turn.before.nextId = id := by
  obtain ⟨before, call⟩ := turn
  cases call with
  | register handler' =>
    simp only [registered?, register, Option.some.injEq, Prod.mk.injEq, Call.register.injEq]
    exact and_comm
  | take id' => simp [registered?]
  | drain => simp [registered?]

/-- What a registration does: the id is a new one, and the handler is put under it without another
one being replaced. -/
theorem after_of_registered (hReturns : turn.Returns)
    (h : turn.registered? = some (id, handler)) :
    id ≠ 0 ∧ id ∉ turn.before.ids ∧
      turn.after = ⟨id, turn.before.pending ++ [(id, handler)]⟩ := by
  obtain ⟨hCall, rfl⟩ := registered?_eq_some_iff.mp h
  obtain ⟨hNonzero, hFresh⟩ := isFree_iff.mp (isFree_nextId (hReturns handler hCall))
  refine ⟨hNonzero, hFresh, ?_⟩
  rw [after, hCall]
  rfl

theorem sound_after (hSound : turn.before.Sound) (hReturns : turn.Returns) : turn.after.Sound := by
  unfold after
  split
  next handler hCall => exact hSound.register (hReturns handler hCall) handler
  next id _ => exact hSound.take id
  next => exact .drain

/-- What comes in joins what is kept, and what is given out leaves it. -/
theorem balanced (hSound : turn.before.Sound) :
    (turn.before.pending ++ turn.registered?.toList).Perm
      (turn.givenOut ++ turn.after.pending) := by
  obtain ⟨before, call⟩ := turn
  cases call with
  | register handler => exact .refl _
  | take id =>
    show (before.pending ++ []).Perm
      ((before.take id).1.toList.map (id, ·) ++ (before.take id).2.pending)
    rw [List.append_nil]
    rcases take_cases hSound id with ⟨_, hTake⟩ | ⟨handler, front, back, hSplit, hTake⟩
    · rw [hTake]
      exact .refl _
    · rw [hTake, hSplit]
      exact List.perm_middle
  | drain => exact .refl _

/-- A handler that is kept stays where it is, unless the call gives out its id. -/
theorem kept_or_given (hSound : turn.before.Sound) (hKept : (id, handler) ∈ turn.before.pending) :
    (id, handler) ∈ turn.after.pending ∧ id ∉ turn.givenOut.map Prod.fst ∨
      (turn.call = .take id ∨ turn.call = .drain) ∧
        (∃ front back, turn.givenOut = front ++ (id, handler) :: back ∧
          id ∉ (front ++ back).map Prod.fst) ∧
        id ∉ turn.after.ids := by
  obtain ⟨before, call⟩ := turn
  obtain ⟨front, back, hSplit, hOnce⟩ := hSound.split hKept
  cases call with
  | register handler' => exact .inl ⟨List.mem_append_left _ hKept, List.not_mem_nil⟩
  | take id' =>
    by_cases hId : id' = id
    · subst hId
      have hTake := take_eq_of_pending hSound hSplit
      refine .inr ⟨.inl rfl, ⟨[], [], ?_, List.not_mem_nil⟩, ?_⟩
      · exact congrArg (fun r => r.1.toList.map (id', ·)) hTake
      · show id' ∉ (before.take id').2.ids
        rw [hTake]
        exact hOnce
    · refine .inl ⟨?_, ?_⟩
      · exact List.mem_filter.mpr ⟨hKept, bne_iff_ne.mpr (Ne.symm hId)⟩
      · simp only [givenOut, List.map_map, List.mem_map, Function.comp_apply, not_exists, not_and]
        exact fun _ _ => hId
  | drain => exact .inr ⟨.inr rfl, ⟨front, back, hSplit, hOnce⟩, List.not_mem_nil⟩

end Turn

/-! ### Runs -/

/-- A run that leads from the correlator `start` to another, with the log of its turns. -/
inductive Run (start : Correlator H) : List (Turn H) → Correlator H → Prop
  | refl : Run start [] start
  | next {log : List (Turn H)} {c : Correlator H} (run : Run start log c) (call : Call H) :
      Run start (log ++ [⟨c, call⟩]) (Turn.mk c call).after

/-- What becomes of a handler in the course of turns that find it kept under `id`: it waits, or the
first turn that gives out that id gives out this handler, once, and the id is free again. -/
inductive Fate (id : UInt32) (handler : H) (log : List (Turn H)) (c : Correlator H) : Prop
  | waits (kept : (id, handler) ∈ c.pending)
      (unasked : ∀ turn ∈ log, id ∉ turn.givenOut.map Prod.fst)
  | given {middle later : List (Turn H)} {turn : Turn H} {front back : List (UInt32 × H)}
      (parts : log = middle ++ turn :: later)
      (unasked : ∀ between ∈ middle, id ∉ between.givenOut.map Prod.fst)
      (asks : turn.call = .take id ∨ turn.call = .drain)
      (gives : turn.givenOut = front ++ (id, handler) :: back)
      (once : id ∉ (front ++ back).map Prod.fst)
      (free : id ∉ turn.after.ids)

/-- What a run makes of the handlers that are registered in it, when nobody waits at its start. -/
structure Accounted (log : List (Turn H)) (c : Correlator H) : Prop where
  /-- Every call comes back. -/
  returns : ∀ turn ∈ log, turn.Returns
  /-- An id that is given out is not in flight, so that no handler is replaced. -/
  fresh : ∀ turn ∈ log, ∀ id handler, turn.registered? = some (id, handler) →
    id ≠ 0 ∧ id ∉ turn.before.ids ∧
      keep turn.before.pending id handler = (none, turn.after.pending)
  /-- Every handler waits under the id of its registration or has been given out by that id. -/
  fate : ∀ (first : List (Turn H)) (turn : Turn H) (rest : List (Turn H)) (id : UInt32)
    (handler : H), log = first ++ turn :: rest → turn.registered? = some (id, handler) →
    Fate id handler rest c
  /-- Nothing is given out or waits that was not registered, or more often than that. -/
  balanced : (log.filterMap Turn.registered?).Perm (log.flatMap Turn.givenOut ++ c.pending)
  /-- Asking for an id in flight gives out the handler that waits under it and leaves the others as
  they are; the id is free again. -/
  met : ∀ id handler, (id, handler) ∈ c.pending → ∃ front back,
    c.pending = front ++ (id, handler) :: back ∧
      c.take id = (some handler, { c with pending := front ++ back }) ∧
      id ∉ (front ++ back).map Prod.fst
  /-- Asking for an id that is not in flight changes nothing. -/
  missed : ∀ id, id = 0 ∨ id ∉ c.ids → c.take id = (none, c)
  count : c.pending.length + (log.flatMap Turn.givenOut).length =
    (log.filterMap Turn.registered?).length

variable {start c : Correlator H} {log : List (Turn H)}

theorem Run.sound (run : Run start log c) (hStart : start.Sound)
    (hReturns : ∀ turn ∈ log, turn.Returns) : c.Sound := by
  induction run with
  | refl => exact hStart
  | next run call ih =>
    rw [List.forall_mem_append, List.forall_mem_singleton] at hReturns
    exact Turn.sound_after (ih hReturns.1) hReturns.2

/-- A run up to one of its turns, and from there on. -/
theorem Run.split {first rest : List (Turn H)} {turn : Turn H}
    (run : Run start (first ++ turn :: rest) c) :
    Run start first turn.before ∧ Run turn.after rest c := by
  generalize hLog : first ++ turn :: rest = log at run
  induction run generalizing rest with
  | refl => simp at hLog
  | next run call ih =>
    rcases eq_concat_cases hLog with ⟨rfl, rfl, rfl⟩ | ⟨earlier, rfl, hEarlier⟩
    · exact ⟨run, .refl⟩
    · obtain ⟨hFirst, hRest⟩ := ih hEarlier
      exact ⟨hFirst, hRest.next call⟩

theorem Run.balanced (run : Run start log c) (hStart : start.Sound)
    (hReturns : ∀ turn ∈ log, turn.Returns) :
    (start.pending ++ log.filterMap Turn.registered?).Perm
      (log.flatMap Turn.givenOut ++ c.pending) := by
  induction run with
  | refl => simp
  | @next log c run call ih =>
    rw [List.forall_mem_append, List.forall_mem_singleton] at hReturns
    have hSound : (Turn.mk c call).before.Sound := run.sound hStart hReturns.1
    have hTurn := Turn.balanced hSound
    rw [List.filterMap_append, List.flatMap_append, List.flatMap_singleton, ← List.append_assoc,
      List.append_assoc (log.flatMap Turn.givenOut), filterMap_cons_toList, List.filterMap_nil,
      List.append_nil]
    have hEarlier := (ih hReturns.1).append_right (Turn.mk c call).registered?.toList
    rw [List.append_assoc (log.flatMap Turn.givenOut)] at hEarlier
    exact hEarlier.trans (hTurn.append_left _)

theorem Run.fate (run : Run start log c) (hStart : start.Sound)
    (hReturns : ∀ turn ∈ log, turn.Returns) {id : UInt32} {handler : H}
    (hKept : (id, handler) ∈ start.pending) : Fate id handler log c := by
  induction run with
  | refl => exact .waits hKept nofun
  | @next log c run call ih =>
    rw [List.forall_mem_append, List.forall_mem_singleton] at hReturns
    cases ih hReturns.1 with
    | waits hKept hUnasked =>
      have hSound : (Turn.mk c call).before.Sound := run.sound hStart hReturns.1
      rcases Turn.kept_or_given hSound hKept with
        ⟨hStays, hHere⟩ | ⟨hAsks, ⟨front, back, hGives, hOnce⟩, hFree⟩
      · refine .waits hStays ?_
        rw [List.forall_mem_append, List.forall_mem_singleton]
        exact ⟨hUnasked, hHere⟩
      · exact .given rfl hUnasked hAsks hGives hOnce hFree
    | @given middle later turn front back hParts hUnasked hAsks hGives hOnce hFree =>
      have hLonger : log ++ [⟨c, call⟩] = middle ++ turn :: (later ++ [⟨c, call⟩]) := by
        rw [hParts, List.append_assoc, List.cons_append]
      exact .given hLonger hUnasked hAsks hGives hOnce hFree

/-- Every handler that is registered is kept under an id of its own until it is given out by that
id, and it is given out once, as long as there are more ids than handlers that wait. -/
theorem Run.keeps_every_handler {lastId : UInt32} (run : Run { lastId } log c)
    (hRoom : ∀ turn ∈ log, turn.HasRoom) : Accounted log c := by
  have hStart : ({ lastId } : Correlator H).Sound := .empty lastId
  have hReturns : ∀ turn ∈ log, turn.Returns := fun turn hTurn => (hRoom turn hTurn).returns
  have hSound := run.sound hStart hReturns
  have hBalanced := run.balanced hStart hReturns
  rw [List.nil_append] at hBalanced
  refine ⟨hReturns, ?_, ?_, hBalanced, ?_, ?_, ?_⟩
  · intro turn hTurn id handler hGets
    obtain ⟨hNonzero, hFresh, hAfter⟩ := Turn.after_of_registered (hReturns turn hTurn) hGets
    exact ⟨hNonzero, hFresh, by rw [keep_of_notMem hFresh, hAfter]⟩
  · rintro first turn rest id handler rfl hGets
    obtain ⟨hFirst, hRest⟩ := run.split
    rw [List.forall_mem_append, List.forall_mem_cons] at hReturns
    obtain ⟨hEarlier, hHere, hLater⟩ := hReturns
    have hKept : (id, handler) ∈ turn.after.pending := by
      rw [(Turn.after_of_registered hHere hGets).2.2]
      exact List.mem_append_right _ List.mem_cons_self
    exact hRest.fate (Turn.sound_after (hFirst.sound hStart hEarlier) hHere) hLater hKept
  · intro id handler hKept
    obtain ⟨front, back, hSplit, hFree⟩ := hSound.split hKept
    exact ⟨front, back, hSplit, take_eq_of_pending hSound hSplit, hFree⟩
  · rintro id (rfl | hid)
    · exact take_eq_of_notMem hSound.nonzero
    · exact take_eq_of_notMem hid
  · have hLength := hBalanced.length_eq
    rw [List.length_append] at hLength
    omega

/-- The counter wraps around past zero; one handler is taken out and the others go all at once. -/
theorem handlers_kept_past_zero : ∃ (log : List (Turn Nat)) (c : Correlator Nat),
    Run { lastId := 4294967294 } log c ∧ (∀ turn ∈ log, turn.HasRoom) ∧ Accounted log c ∧
      log.filterMap Turn.registered? = [(4294967295, 7), (1, 8), (2, 9)] ∧
      log.map Turn.givenOut = [[], [], [(4294967295, 7)], [], [], [(1, 8), (2, 9)]] := by
  have start : Run ({ lastId := 4294967294 } : Correlator Nat) [] _ := .refl
  have run := (((((start.next (.register 7)).next (.register 8)).next (.take 4294967295)).next
    (.take 0)).next (.register 9)).next .drain
  refine ⟨_, _, run, ?hRoom, run.keeps_every_handler ?hRoom, by decide, by decide⟩
  simp only [List.nil_append, List.cons_append, List.forall_mem_cons]
  refine ⟨?_, ?_, ?_, ?_, ?_, ?_, List.forall_mem_nil _⟩
  · intro _ _
    decide
  · intro _ _
    decide
  · nofun
  · nofun
  · intro _ _
    decide
  · nofun

end DocumentLink.Correlator
