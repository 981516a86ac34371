import DocumentLink.Connection.Call
import DocumentLink.Proofs.Log
import Mathlib.Data.List.Induction

/-! Who holds a connection, over any sequence of calls.  The state of a connection stands for a
pair: its owner, if it has one, and whether it is pinned, which takes an owner.  An attachment to a
pool ends when the connection goes back to that pool, once, and in no other way; calls that fail
change nothing. -/

namespace DocumentLink

/-- Who holds a connection, and whether it is pinned.  Nothing is pinned that nobody holds. -/
structure Holding (P : Type) where
  owner : Option P := none
  pinned : Bool := false
  held : pinned = true → owner.isSome = true := by simp

namespace Holding

variable {P : Type} [PoolEntry P]

/-- What a call does to owner and pin, and to whom the connection goes back. -/
def perform (h : Holding P) : Lifecycle.Call P → Except LifecycleError (Option P) × Holding P
  | .tryAcquired pool | .acquired pool =>
    match h.owner with
    | none => (.ok none, { owner := some pool })
    | some owner => (.error (.alreadyAcquired (PoolEntry.address owner)), h)
  | .reserve =>
    match h.owner with
    | none => (.error .notAcquired, h)
    | some owner => (.ok none, { owner := some owner, pinned := true })
  | .release force =>
    match h.owner with
    | none => (.error .notAcquired, h)
    | some owner => if h.pinned && !force then (.ok none, h) else (.ok (some owner), {})

/-- The results of several calls, and what they leave. -/
def performAll (h : Holding P) :
    List (Lifecycle.Call P) → List (Except LifecycleError (Option P)) × Holding P
  | [] => ([], h)
  | call :: calls =>
    let (outcome, h) := h.perform call
    let (outcomes, h) := h.performAll calls
    (outcome :: outcomes, h)

end Holding

namespace Lifecycle

variable {P : Type}

/-! ### Owner and pin -/

def holding : Lifecycle P → Holding P
  | idle => {}
  | acquired owner => { owner := some owner }
  | reserved owner => { owner := some owner, pinned := true }

theorem owner_holding (l : Lifecycle P) : l.holding.owner = l.owner? := by
  cases l <;> rfl

variable [PoolEntry P]

/-- A call does to the state what it does to owner and pin. -/
theorem perform_holding (l : Lifecycle P) (call : Call P) :
    l.holding.perform call = ((call.perform.run l).1, (call.perform.run l).2.holding) := by
  cases call with
  | release force => cases l <;> cases force <;> rfl
  | _ => cases l <;> rfl

/-! ### Turns -/

/-- A call, with the state it finds. -/
structure Turn (P : Type) where
  before : Lifecycle P
  call : Call P

namespace Turn

def outcome (turn : Turn P) : Except LifecycleError (Option P) :=
  (turn.call.perform.run turn.before).1

def after (turn : Turn P) : Lifecycle P := (turn.call.perform.run turn.before).2

/-- The pool that the connection goes back to. -/
def handedBack? (turn : Turn P) : Option P :=
  match turn.outcome with
  | .ok pool => pool
  | .error _ => none

/-- The pool that the connection is attached to from now on. -/
def attached? (turn : Turn P) : Option P :=
  match turn.call, turn.outcome with
  | .tryAcquired pool, .ok _ | .acquired pool, .ok _ => some pool
  | _, _ => none

/-! The calls in place come out as the functions on states say. -/

theorem acquire_eq {turn : Turn P} {pool : P}
    (h : turn.call = .tryAcquired pool ∨ turn.call = .acquired pool) :
    turn.before.acquire pool = turn.outcome.map fun _ => turn.after := by
  obtain ⟨before, call⟩ := turn
  rcases h with h | h <;> cases h <;> cases before <;> rfl

theorem reserve_eq {turn : Turn P} (h : turn.call = .reserve) :
    turn.before.reserve = turn.outcome.map fun _ => turn.after := by
  obtain ⟨before, call⟩ := turn
  cases h
  cases before <;> rfl

theorem release_eq {turn : Turn P} {force : Bool} (h : turn.call = .release force) :
    turn.before.release force = turn.outcome.map fun pool => (pool, turn.after) := by
  obtain ⟨before, call⟩ := turn
  cases h
  cases before with
  | reserved owner => cases force <;> rfl
  | _ => rfl

/-- The ways in which a call comes out. -/
inductive Dealt (turn : Turn P) : Prop
  | attached {pool : P} (asks : turn.call = .tryAcquired pool ∨ turn.call = .acquired pool)
      (free : turn.before = .idle) (outcome : turn.outcome = .ok none)
      (after : turn.after = .acquired pool) (gets : turn.attached? = some pool)
      (back : turn.handedBack? = none)
  | refused {pool owner : P} (asks : turn.call = .tryAcquired pool ∨ turn.call = .acquired pool)
      (owned : turn.before.owner? = some owner)
      (outcome : turn.outcome = .error (.alreadyAcquired (PoolEntry.address owner)))
      (after : turn.after = turn.before) (gets : turn.attached? = none)
      (back : turn.handedBack? = none)
  | unowned (asks : turn.call = .reserve ∨ ∃ force, turn.call = .release force)
      (free : turn.before = .idle) (outcome : turn.outcome = .error .notAcquired)
      (after : turn.after = turn.before) (gets : turn.attached? = none)
      (back : turn.handedBack? = none)
  | pinned {owner : P} (asks : turn.call = .reserve) (owned : turn.before.owner? = some owner)
      (outcome : turn.outcome = .ok none) (after : turn.after = .reserved owner)
      (gets : turn.attached? = none) (back : turn.handedBack? = none)
  | kept {owner : P} (asks : turn.call = .release false) (owned : turn.before = .reserved owner)
      (outcome : turn.outcome = .ok none) (after : turn.after = turn.before)
      (gets : turn.attached? = none) (back : turn.handedBack? = none)
  | returned {owner : P} {force : Bool} (asks : turn.call = .release force)
      (owned : turn.before.owner? = some owner)
      (leaves : force = true ∨ turn.before.isReserved = false)
      (outcome : turn.outcome = .ok (some owner)) (after : turn.after = .idle)
      (gets : turn.attached? = none) (back : turn.handedBack? = some owner)

theorem dealt (turn : Turn P) : turn.Dealt := by
  obtain ⟨before, call⟩ := turn
  cases call with
  | tryAcquired pool =>
    cases before with
    | idle => exact .attached (.inl rfl) rfl rfl rfl rfl rfl
    | _ => exact .refused (.inl rfl) rfl rfl rfl rfl rfl
  | acquired pool =>
    cases before with
    | idle => exact .attached (.inr rfl) rfl rfl rfl rfl rfl
    | _ => exact .refused (.inr rfl) rfl rfl rfl rfl rfl
  | reserve =>
    cases before with
    | idle => exact .unowned (.inl rfl) rfl rfl rfl rfl rfl
    | _ => exact .pinned rfl rfl rfl rfl rfl rfl
  | release force =>
    cases before with
    | idle => exact .unowned (.inr ⟨force, rfl⟩) rfl rfl rfl rfl rfl
    | acquired owner => exact .returned rfl rfl (.inr rfl) rfl rfl rfl rfl
    | reserved owner =>
      cases force with
      | false => exact .kept rfl rfl rfl rfl rfl rfl
      | true => exact .returned rfl rfl (.inl rfl) rfl rfl rfl rfl

/-- What one call does by itself.  It hands the connection back only in a release and to its owner,
it attaches only what nobody holds, and where it fails it changes nothing. -/
structure Lawful (turn : Turn P) : Prop where
  handsBack : ∀ pool, turn.handedBack? = some pool →
    (∃ force, turn.call = .release force) ∧ turn.before.owner? = some pool ∧ turn.after = .idle
  recycles : turn.call = .release true → turn.handedBack? = turn.before.owner?
  attaches : ∀ pool, turn.attached? = some pool →
    turn.before.holding = {} ∧ turn.after.holding = { owner := some pool }
  fails : ∀ e, turn.outcome = .error e → turn.after = turn.before ∧
    (turn.before.owner? = none ∧ e = .notAcquired ∨
      ∃ owner, turn.before.owner? = some owner ∧ e = .alreadyAcquired (PoolEntry.address owner))
  keeps : turn.call = .release false → turn.before.isReserved = true →
    turn.outcome = .ok none ∧ turn.after = turn.before

variable {turn : Turn P}

theorem handsBack {pool : P} (h : turn.handedBack? = some pool) :
    (∃ force, turn.call = .release force) ∧ turn.before.owner? = some pool ∧
      turn.after = .idle := by
  cases turn.dealt with
  | returned asks owned _ _ after _ back =>
    rw [h] at back
    cases back
    exact ⟨⟨_, asks⟩, owned, after⟩
  | _ => simp_all

theorem handedBack?_eq_none (h : ∀ force, turn.call ≠ .release force) :
    turn.handedBack? = none := by
  rw [Option.eq_none_iff_forall_not_mem]
  intro pool hBack
  obtain ⟨⟨force, hRelease⟩, _⟩ := handsBack hBack
  exact h force hRelease

/-- A release hands the connection back to its owner, unless it is pinned and there is no force. -/
theorem handedBack?_of_release {force : Bool} (hAsks : turn.call = .release force) :
    turn.handedBack? =
      if force = true ∨ turn.before.isReserved = false then turn.before.owner? else none := by
  cases turn.dealt with
  | attached asks _ _ _ _ _ => simp [hAsks] at asks
  | refused asks _ _ _ _ _ => simp [hAsks] at asks
  | unowned _ free _ _ _ back =>
    rw [back, free]
    exact (ite_self _).symm
  | pinned asks _ _ _ _ _ => simp [hAsks] at asks
  | kept asks owned _ _ _ back =>
    rw [hAsks] at asks
    cases asks
    rw [back, owned]
    rfl
  | returned asks owned leaves _ _ _ back =>
    rw [hAsks] at asks
    cases asks
    rw [back, if_pos leaves, owned]

theorem attaches {pool : P} (h : turn.attached? = some pool) :
    turn.before.holding = {} ∧ turn.after.holding = { owner := some pool } := by
  cases turn.dealt with
  | attached _ free _ after gets _ =>
    rw [h] at gets
    cases gets
    rw [free, after]
    exact ⟨rfl, rfl⟩
  | _ => simp_all

theorem fails {e : LifecycleError} (h : turn.outcome = .error e) : turn.after = turn.before ∧
    (turn.before.owner? = none ∧ e = .notAcquired ∨
      ∃ owner, turn.before.owner? = some owner ∧
        e = .alreadyAcquired (PoolEntry.address owner)) := by
  cases turn.dealt with
  | refused _ owned outcome after _ _ =>
    rw [h] at outcome
    cases outcome
    exact ⟨after, .inr ⟨_, owned, rfl⟩⟩
  | unowned _ free outcome after _ _ =>
    rw [h] at outcome
    cases outcome
    exact ⟨after, .inl ⟨by rw [free]; rfl, rfl⟩⟩
  | _ => simp_all

theorem keeps (hAsks : turn.call = .release false) (hPinned : turn.before.isReserved = true) :
    turn.outcome = .ok none ∧ turn.after = turn.before := by
  cases turn.dealt with
  | kept _ _ outcome after _ _ => exact ⟨outcome, after⟩
  | unowned _ free _ _ _ _ => simp [free, isReserved] at hPinned
  | returned asks _ leaves _ _ _ _ =>
    rw [hAsks] at asks
    cases asks
    simp [hPinned] at leaves
  | _ => simp_all

theorem lawful (turn : Turn P) : turn.Lawful where
  handsBack _ := handsBack
  recycles hAsks := (handedBack?_of_release hAsks).trans (if_pos (.inl rfl))
  attaches _ := attaches
  fails _ := fails
  keeps := keeps

/-- What is attached joins what was held, and what goes back leaves it. -/
theorem balanced (turn : Turn P) : turn.before.owner?.toList ++ turn.attached?.toList =
    turn.handedBack?.toList ++ turn.after.owner?.toList := by
  cases turn.dealt with
  | attached _ free _ after gets back =>
    rw [free, after, gets, back]
    rfl
  | pinned _ owned _ after gets back =>
    rw [owned, after, gets, back]
    rfl
  | returned _ owned _ _ after gets back =>
    rw [owned, after, gets, back]
    rfl
  | refused _ _ _ after gets back => simp [after, gets, back]
  | unowned _ _ _ after gets back => simp [after, gets, back]
  | kept _ _ _ after gets back => simp [after, gets, back]

theorem owner?_before {owner : P} (hOwned : turn.after.owner? = some owner)
    (hNone : turn.attached? = none) : turn.before.owner? = some owner := by
  cases turn.dealt with
  | attached _ _ _ _ gets _ =>
    rw [hNone] at gets
    cases gets
  | pinned _ owned _ after _ _ => rw [owned, ← hOwned, after, owner?]
  | returned _ _ _ _ after _ _ =>
    rw [after] at hOwned
    cases hOwned
  | refused _ _ _ after _ _ => rwa [after] at hOwned
  | unowned _ _ _ after _ _ => rwa [after] at hOwned
  | kept _ _ _ after _ _ => rwa [after] at hOwned

/-- A pin is set by a reservation and stays until the connection goes back. -/
theorem isReserved_after_iff {owner : P} (hOwned : turn.after.owner? = some owner) :
    turn.after.isReserved = true ↔
      turn.call = .reserve ∨ turn.before.isReserved = true ∧ turn.attached? = none := by
  cases turn.dealt with
  | attached asks _ _ after gets _ =>
    rcases asks with hCall | hCall <;> simp [hCall, after, gets, isReserved]
  | refused asks _ _ after gets _ =>
    rcases asks with hCall | hCall <;> simp [hCall, after, gets]
  | unowned _ free _ after _ _ =>
    rw [after, free] at hOwned
    cases hOwned
  | pinned asks _ _ after _ _ => simp [asks, after, isReserved]
  | kept asks _ _ after gets _ => simp [asks, after, gets]
  | returned _ _ _ _ after _ _ =>
    rw [after] at hOwned
    cases hOwned

end Turn

/-! ### Sequences of calls -/

/-- The turns of several calls, the first of which finds `l`. -/
def history (l : Lifecycle P) : List (Call P) → List (Turn P)
  | [] => []
  | call :: calls =>
    let turn : Turn P := ⟨l, call⟩
    turn :: history turn.after calls

/-- The state that turns leave behind. -/
def left (l : Lifecycle P) : List (Turn P) → Lifecycle P
  | [] => l
  | turn :: log => left turn.after log

/-- The pools whose attachments have ended, in order: at some later time the connection is with
nobody.  One attachment is to `owner` and was there before the turns. -/
def ended : Option P → List (Turn P) → List P
  | _, [] => []
  | owner, turn :: log =>
    (if (turn :: log).any fun turn => turn.after.owner?.isNone then owner.toList else []) ++
      ended turn.attached? log

/-- There has been a reservation since the last attachment.  If there has been no attachment, it
counts whether the connection was pinned at the start. -/
def ReservedSince (start : Lifecycle P) (log : List (Turn P)) : Prop :=
  (∃ (first : List (Turn P)) (turn : Turn P) (rest : List (Turn P)), log = first ++ turn :: rest ∧
      turn.call = .reserve ∧ ∀ later ∈ rest, later.attached? = none) ∨
    start.isReserved = true ∧ ∀ turn ∈ log, turn.attached? = none

section

variable {start : Lifecycle P} {calls : List (Call P)}

theorem history_cons (l : Lifecycle P) (call : Call P) (calls : List (Call P)) :
    l.history (call :: calls) = ⟨l, call⟩ :: (Turn.mk l call).after.history calls := rfl

theorem left_append (start : Lifecycle P) (log log' : List (Turn P)) :
    start.left (log ++ log') = (start.left log).left log' := by
  induction log generalizing start with
  | nil => rfl
  | cons turn log ih => exact ih turn.after

theorem history_append (start : Lifecycle P) (calls calls' : List (Call P)) :
    start.history (calls ++ calls') =
      start.history calls ++ (start.left (start.history calls)).history calls' := by
  induction calls generalizing start with
  | nil => rfl
  | cons call calls ih => exact congrArg (⟨start, call⟩ :: ·) (ih _)

/-- The turns up to some point are those of the calls up to there, and so are those after it. -/
theorem history_eq_append {first rest : List (Turn P)} (h : start.history calls = first ++ rest) :
    (∃ calls', first = start.history calls') ∧
      ∃ calls', rest = (start.left first).history calls' := by
  induction first generalizing start calls with
  | nil => exact ⟨⟨[], rfl⟩, calls, h.symm⟩
  | cons turn first ih =>
    cases calls with
    | nil => cases h
    | cons call calls =>
      obtain ⟨rfl, hRest⟩ := List.cons.inj h
      obtain ⟨⟨calls', hFirst⟩, hLater⟩ := ih hRest
      exact ⟨⟨call :: calls', congrArg (_ :: ·) hFirst⟩, hLater⟩

/-- A turn finds what the turns before it have left. -/
theorem history_split {first rest : List (Turn P)} {turn : Turn P}
    (h : start.history calls = first ++ turn :: rest) :
    turn.before = start.left first ∧ ∃ calls', rest = turn.after.history calls' := by
  obtain ⟨_, calls', hRest⟩ := history_eq_append h
  cases calls' with
  | nil => cases hRest
  | cons call calls' =>
    obtain ⟨rfl, rfl⟩ := List.cons.inj hRest
    exact ⟨rfl, calls', rfl⟩

/-- Owner and pin do the same over all the calls. -/
theorem performAll_holding (start : Lifecycle P) (calls : List (Call P)) :
    start.holding.performAll calls = ((start.history calls).map Turn.outcome,
      (start.left (start.history calls)).holding) := by
  induction calls generalizing start with
  | nil => rfl
  | cons call calls ih =>
    rw [Holding.performAll, perform_holding]
    dsimp only
    rw [ih]
    rfl

/-- What has been attached has gone back, but for what is still attached. -/
theorem balanced_history (start : Lifecycle P) (calls : List (Call P)) :
    start.owner?.toList ++ (start.history calls).filterMap Turn.attached? =
      (start.history calls).filterMap Turn.handedBack? ++
        (start.left (start.history calls)).owner?.toList := by
  induction calls generalizing start with
  | nil => exact List.append_nil _
  | cons call calls ih =>
    have hHere : start.owner?.toList ++ _ = _ := (Turn.mk start call).balanced
    rw [history_cons, filterMap_cons_toList, filterMap_cons_toList, ← List.append_assoc, hHere,
      List.append_assoc, ih, ← List.append_assoc]
    rfl

/-- An attachment is over once the connection goes back to its pool, and not before. -/
theorem handedBack_between {first middle rest : List (Turn P)} {turn : Turn P} {pool : P}
    (h : start.history calls = first ++ turn :: (middle ++ rest))
    (hAttached : turn.attached? = some pool)
    (hNone : ∀ between ∈ middle, between.attached? = none) :
    middle.filterMap Turn.handedBack? ++ (turn.after.left middle).owner?.toList = [pool] := by
  obtain ⟨_, calls', hLater⟩ := history_split h
  obtain ⟨⟨between, rfl⟩, _⟩ := history_eq_append hLater.symm
  have hOwned : turn.after.owner? = some pool := by
    rw [← owner_holding, (Turn.attaches hAttached).2]
  rw [← balanced_history, List.filterMap_eq_nil_iff.mpr hNone, List.append_nil, hOwned]
  rfl

theorem ended_eq (owner : Option P) (log : List (Turn P)) : ended owner log =
    (if log.any fun turn => turn.after.owner?.isNone then owner.toList else []) ++
      ended none log := by
  cases log with
  | nil => rfl
  | cons turn log =>
    rw [ended, ended, Option.toList_none, ite_self, List.nil_append]

/-- The connection goes back once for each attachment that ends, to the pool it was attached to. -/
theorem handedBack_history (start : Lifecycle P) (calls : List (Call P)) :
    (start.history calls).filterMap Turn.handedBack? =
      ended start.owner? (start.history calls) := by
  induction calls generalizing start with
  | nil => rfl
  | cons call calls ih =>
    obtain ⟨turn, hTurn⟩ : ∃ turn, turn = Turn.mk start call := ⟨_, rfl⟩
    have hBefore : start = turn.before := by rw [hTurn]
    rw [history_cons, ← hTurn, filterMap_cons_toList, ih, ended, hBefore, List.any_cons]
    cases turn.dealt with
    | attached _ free _ after gets back =>
      rw [free, after, gets, back]
      simp [owner?]
    | returned _ owned _ _ after gets back =>
      rw [owned, after, gets, back]
      rfl
    | pinned _ owned _ after gets back =>
      rw [owned, after, gets, back, ended_eq]
      rfl
    | refused _ owned _ after gets back =>
      rw [after, owned, gets, back, ended_eq]
      rfl
    | unowned _ free _ after gets back =>
      rw [after, free, gets, back]
      rfl
    | kept _ owned _ after gets back =>
      rw [after, owned, gets, back, ended_eq]
      rfl

theorem reservedSince_concat {log : List (Turn P)} {turn : Turn P} :
    ReservedSince start (log ++ [turn]) ↔
      turn.call = .reserve ∨ ReservedSince start log ∧ turn.attached? = none := by
  unfold ReservedSince
  rw [exists_since_concat (P := fun _ (turn : Turn P) => turn.call = .reserve)
    (Q := fun later => later.attached? = none), List.forall_mem_append, List.forall_mem_singleton,
    ← and_assoc, or_assoc, ← or_and_right]

/-- A connection that somebody holds is pinned if it has been reserved since it was attached. -/
theorem isReserved_left_iff (start : Lifecycle P) (calls : List (Call P)) {owner : P}
    (hOwned : (start.left (start.history calls)).owner? = some owner) :
    (start.left (start.history calls)).isReserved = true ↔
      ReservedSince start (start.history calls) := by
  induction calls using List.reverseRecOn generalizing owner with
  | nil =>
    refine ⟨fun hPinned => .inr ⟨hPinned, List.forall_mem_nil _⟩, ?_⟩
    rintro (⟨first, turn, rest, hLog, _⟩ | ⟨hPinned, _⟩)
    · exact absurd hLog.symm (List.append_ne_nil_of_right_ne_nil _ (List.cons_ne_nil _ _))
    · exact hPinned
  | append_singleton calls call ih =>
    obtain ⟨turn, hTurn⟩ : ∃ turn, turn = Turn.mk (start.left (start.history calls)) call :=
      ⟨_, rfl⟩
    have hHistory : start.history (calls ++ [call]) = start.history calls ++ [turn] := by
      rw [hTurn]
      exact history_append start calls [call]
    have hBefore : start.left (start.history calls) = turn.before := by rw [hTurn]
    rw [hHistory, left_append] at hOwned ⊢
    rw [hBefore] at ih
    change turn.after.isReserved = true ↔ _
    rw [Turn.isReserved_after_iff hOwned, reservedSince_concat]
    exact or_congr_right (and_congr_left fun hNone => ih (Turn.owner?_before hOwned hNone))

/-- Who is done with a connection hands it back if it is attached, unless it has been reserved since
then. -/
theorem handedBack_of_done {first rest : List (Turn P)} {turn : Turn P}
    (h : start.history calls = first ++ turn :: rest) (hDone : turn.call = .release false)
    (pool : P) : turn.handedBack? = some pool ↔
      turn.before.owner? = some pool ∧ ¬ ReservedSince start first := by
  obtain ⟨hBefore, _⟩ := history_split h
  obtain ⟨⟨calls', rfl⟩, _⟩ := history_eq_append h
  have hPinned {owner : P} (hOwned : turn.before.owner? = some owner) :
      turn.before.isReserved = true ↔ ReservedSince start (start.history calls') := by
    rw [hBefore] at hOwned ⊢
    exact start.isReserved_left_iff calls' hOwned
  rw [Turn.handedBack?_of_release hDone]
  constructor
  · intro hBack
    split at hBack
    next hLeaves =>
      refine ⟨hBack, ?_⟩
      rw [← hPinned hBack, hLeaves.resolve_left Bool.false_ne_true]
      exact Bool.false_ne_true
    next => cases hBack
  · rintro ⟨hOwned, hFree⟩
    rw [← hPinned hOwned, Bool.not_eq_true] at hFree
    rw [if_pos (.inr hFree), hOwned]

end

/-- What calls on a connection add up to, whoever makes them and for whatever pools. -/
structure Lawful (start : Lifecycle P) (calls : List (Call P)) : Prop where
  /-- The results, and what is left, are those of the pair of owner and pin. -/
  simulated : start.holding.performAll calls = ((start.history calls).map Turn.outcome,
    (start.left (start.history calls)).holding)
  turns : ∀ turn ∈ start.history calls, turn.Lawful
  /-- While nothing is attached anew, the connection stays with its pool, or it goes back to that
  pool once. -/
  once : ∀ (first middle rest : List (Turn P)) (turn : Turn P) (pool : P),
    start.history calls = first ++ turn :: (middle ++ rest) → turn.attached? = some pool →
    (∀ between ∈ middle, between.attached? = none) →
    middle.filterMap Turn.handedBack? ++ (turn.after.left middle).owner?.toList = [pool]
  /-- Who is done with the connection hands it back if it is attached, unless it has been reserved
  since then. -/
  done : ∀ (first rest : List (Turn P)) (turn : Turn P),
    start.history calls = first ++ turn :: rest → turn.call = .release false →
    ∀ pool, turn.handedBack? = some pool ↔
      turn.before.owner? = some pool ∧ ¬ ReservedSince start first
  /-- The pools that it was attached to are those that it went back to, in order, and perhaps one
  more, which still has it. -/
  balanced : start.owner?.toList ++ (start.history calls).filterMap Turn.attached? =
    (start.history calls).filterMap Turn.handedBack? ++
      (start.left (start.history calls)).owner?.toList
  /-- The connection goes back once for each attachment that has ended. -/
  ended : (start.history calls).filterMap Turn.handedBack? =
    ended start.owner? (start.history calls)

theorem lawful (start : Lifecycle P) (calls : List (Call P)) : start.Lawful calls where
  simulated := start.performAll_holding calls
  turns turn _ := turn.lawful
  once _ _ _ _ _ := handedBack_between
  done _ _ _ := handedBack_of_done
  balanced := start.balanced_history calls
  ended := start.handedBack_history calls

end Lifecycle

end DocumentLink
