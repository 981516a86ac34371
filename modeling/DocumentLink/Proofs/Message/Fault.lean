import DocumentLink.Proofs.Bson.Fault
import DocumentLink.Proofs.Message.Layout

/-! How a batch fails: for the first document of its operations that is refused, in the order in
which they would be sent, and that one for the first fault in it. -/

namespace DocumentLink.Batch

variable {H : Type}

theorem exists_encode_eq_error_iff (start : Bytes) (ops : List (Operation H)) :
    (∃ e, encode start ops = .error e) ↔
      ∃ v ∈ ops.flatMap Operation.documents, ∃ e, v.marshal = .error e := by
  simp only [encode_eq_error_iff, exists_mapM_eq_error_iff]

/-- A batch fails if and only if one of its documents does.  The first that does decides how, and it
fails for what comes first in it: keys before their values, and each element with all that stands in
it before the next. -/
theorem encode_fails_at_first_fault (start : Bytes) (ops : List (Operation H)) :
    ((∃ e, encode start ops = .error e) ↔
      ∃ v ∈ ops.flatMap Operation.documents, ∃ e, v.marshal = .error e) ∧
    (∀ e, encode start ops = .error e ↔
      ∃ before v after, ops.flatMap Operation.documents = before ++ v :: after ∧
        (∀ u ∈ before, ∃ b, u.marshal = .ok b) ∧ v.marshal = .error e) ∧
    ∀ (v : Bson.Value) (e : Bson.EncodeError), v.marshal = .error e ↔ v.Refused e := by
  refine ⟨exists_encode_eq_error_iff start ops, ?_, Bson.Value.marshal_eq_error_iff⟩
  intro e
  rw [encode_eq_error_iff, mapM_eq_error_iff]

end DocumentLink.Batch
