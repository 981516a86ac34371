import Mathlib.Data.List.Basic

/-! Lists that grow at their end, as the logs of runs do. -/

namespace DocumentLink

variable {α β : Type} {log first rest : List α} {item last : α}

/-- An item of a log that has grown is the last one, or the log had it before. -/
theorem eq_concat_cases (h : first ++ item :: rest = log ++ [last]) :
    (first = log ∧ item = last ∧ rest = []) ∨
      ∃ rest', rest = rest' ++ [last] ∧ first ++ item :: rest' = log := by
  rcases List.eq_nil_or_concat rest with rfl | ⟨rest, newest, rfl⟩
  · obtain ⟨rfl, hLast⟩ := List.append_inj' h rfl
    cases hLast
    exact .inl ⟨rfl, rfl, rfl⟩
  · rw [List.concat_eq_append, ← List.cons_append, ← List.append_assoc] at h
    obtain ⟨rfl, hLast⟩ := List.append_inj' h rfl
    cases hLast
    exact .inr ⟨rest, List.concat_eq_append, rfl⟩

/-- That `P` holds at some item, and `Q` of all later ones, when a log has grown. -/
theorem exists_since_concat {P : List α → α → Prop} {Q : α → Prop} :
    (∃ (first : List α) (item : α) (rest : List α), log ++ [last] = first ++ item :: rest ∧
      P first item ∧ ∀ later ∈ rest, Q later) ↔
    P log last ∨ (∃ (first : List α) (item : α) (rest : List α), log = first ++ item :: rest ∧
      P first item ∧ ∀ later ∈ rest, Q later) ∧ Q last := by
  constructor
  · rintro ⟨first, item, rest, hLog, hHeld, hLater⟩
    rcases eq_concat_cases hLog.symm with ⟨rfl, rfl, _⟩ | ⟨rest, rfl, rfl⟩
    · exact .inl hHeld
    · rw [List.forall_mem_append, List.forall_mem_singleton] at hLater
      exact .inr ⟨⟨first, item, rest, rfl, hHeld, hLater.1⟩, hLater.2⟩
  · rintro (hHeld | ⟨⟨first, item, rest, rfl, hHeld, hLater⟩, hHere⟩)
    · exact ⟨log, last, [], rfl, hHeld, List.forall_mem_nil _⟩
    · refine ⟨first, item, rest ++ [last], ?_, hHeld, ?_⟩
      · rw [List.append_assoc, List.cons_append]
      · rw [List.forall_mem_append, List.forall_mem_singleton]
        exact ⟨hLater, hHere⟩

theorem filterMap_cons_toList (f : α → Option β) (a : α) (l : List α) :
    (a :: l).filterMap f = (f a).toList ++ l.filterMap f := by
  rw [List.filterMap_cons]
  cases f a <;> rfl

end DocumentLink
