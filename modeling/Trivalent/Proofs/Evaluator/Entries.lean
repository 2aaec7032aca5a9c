import Trivalent.Proofs.Evaluator.Execution

/-!
What is written into the journal. Entries are only ever added, and `Writes` says of which kind they
are, whether the action succeeds or fails. The notes of a check announce the timestep from which it
evaluates a model next; an evaluation announces none (`evaluate_writes`).
-/

set_option autoImplicit false

namespace Trivalent

variable {σ : Type}

namespace EvalM

variable {α β : Type} {allowed : Entry → Prop}

/-- The entries that the action adds are allowed. -/
def Writes (allowed : Entry → Prop) (action : EvalM σ α) (session : Session σ) : Prop :=
  ∃ written, (action.final session).journal = session.journal ++ written ∧
    ∀ entry ∈ written, allowed entry

theorem writes_of_keeps {action : EvalM σ α} {session : Session σ}
    (keeps : (action.final session).journal = session.journal) : action.Writes allowed session :=
  ⟨[], keeps.trans (List.append_nil _).symm, List.forall_mem_nil _⟩

theorem writes_pure (value : α) (session : Session σ) :
    (pure value : EvalM σ α).Writes allowed session :=
  writes_of_keeps rfl

theorem writes_throw (problem : CheckError) (session : Session σ) :
    (throw problem : EvalM σ α).Writes allowed session :=
  writes_of_keeps rfl

theorem writes_record {entry : Entry} (lawful : allowed entry) (session : Session σ) :
    (record entry).Writes allowed session :=
  ⟨[entry], rfl, List.forall_mem_singleton.mpr lawful⟩

theorem Writes.mono {action : EvalM σ α} {session : Session σ} {wider : Entry → Prop}
    (writes : action.Writes allowed session) (weaken : ∀ entry, allowed entry → wider entry) :
    action.Writes wider session := by
  obtain ⟨written, journal, lawful⟩ := writes
  exact ⟨written, journal, fun entry member => weaken entry (lawful entry member)⟩

theorem Writes.bind {action : EvalM σ α} {next : α → EvalM σ β} {session : Session σ}
    (first : action.Writes allowed session)
    (second : ∀ value middle, action.run session = .ok value middle →
      (next value).Writes allowed middle) :
    (action >>= next).Writes allowed session := by
  obtain ⟨written, journal, lawful⟩ := first
  cases ran : action.run session with
  | error problem after =>
      have stops : (action >>= next).final session = action.final session := by
        simp only [final, EStateM.run_bind, ran]
      rw [Writes, stops]
      exact ⟨written, journal, lawful⟩
  | ok value middle =>
      obtain ⟨more, later, lawfulToo⟩ := second value middle ran
      have reached : action.final session = middle := by simp only [final, ran]
      have goes : (action >>= next).final session = (next value).final middle := by
        simp only [final, EStateM.run_bind, ran]
      rw [Writes, goes]
      refine ⟨written ++ more, ?_, List.forall_mem_append.mpr ⟨lawful, lawfulToo⟩⟩
      rw [later, ← reached, journal, List.append_assoc]

end EvalM

theorem Evaluator.evaluate_writes (evaluator : Evaluator σ) (bound start : Nat)
    (constraint : Option Formula) (session : Session σ) :
    (evaluator.evaluate bound start constraint).Writes (·.start? = none) session := by
  by_cases window : start ≤ bound
  · obtain ⟨_, _, _, _, follows⟩ := evaluator.evaluate_course window constraint session
    obtain ⟨written, journal, _, unannounced⟩ := follows.proceeds.adds
    exact ⟨written, journal, unannounced⟩
  · rw [evaluate_of_lt (Nat.lt_of_not_le window)]
    exact EvalM.writes_throw _ session

end Trivalent
