import Trivalent.Evaluator
import Trivalent.Proofs.Oracle.Calls
import Trivalent.Proofs.Task.Unrolling

/-!
The queries of an evaluation, in the order in which it may ask them. A transcript tells what came of
every query; a lawful one has a second query at its last timestep exactly if the first led to a model,
and nothing in it goes on after a query that ends an evaluation (`Lawful.unfinished`).
-/

set_option autoImplicit false

namespace Trivalent

variable {σ : Type}

/-! ### Blocks of calls -/

/-- The formula of a query, written out. -/
def Task.question (task : Task) (constraint : Option Formula) (timestep : Nat) (phase : Phase) :
    Formula :=
  .and [Formula.conj
      (task.initial :: (constraint.toList ++ (List.range timestep).map task.transition)),
    task.violation timestep, .lit ⟨"unknown", phase.polarity⟩]

theorem Task.conj_query (task : Task) (constraint : Option Formula) (timestep : Nat)
    (phase : Phase) :
    Formula.conj (task.query constraint timestep phase) = task.question constraint timestep phase :=
  rfl

/-- The oracle failed, could not tell, or owes a model. -/
def Exchange.Halts : Exchange → Prop
  | .answered .unsat _ => False
  | .answered .sat offered => offered = none
  | _ => True

theorem Exchange.halts_of_error {exchange : Exchange} {message : String}
    (failed : exchange.answer = .error message) : exchange.Halts := by
  cases exchange with
  | answered result offered => cases failed
  | resetFailed _ => trivial
  | assertFailed _ => trivial
  | checkFailed _ _ => trivial

/-- A query of an evaluation and what came of it. -/
structure Block where
  timestep : Nat
  phase : Phase
  exchange : Exchange

def Block.calls (task : Task) (constraint : Option Formula) (block : Block) : List Call :=
  block.exchange.calls (task.question constraint block.timestep block.phase)

/-- The block that clears a timestep. An oracle may offer a model even then. -/
def Block.cleared (timestep : Nat) (offered : Option Model) : Block :=
  ⟨timestep, .possible, .answered .unsat offered⟩

/-- The budget is used up after so much time. -/
def Evaluator.OutOfTime (evaluator : Evaluator σ) (elapsed : Nanoseconds) : Prop :=
  ∃ seconds ∈ evaluator.budget, .ofSeconds seconds ≤ elapsed

/-- The queries of an evaluation that asks any: every timestep before the last one is cleared, with
the model offered there if any; what came of the query at the last timestep, and of the query for a
definite violation if it was asked. -/
structure Transcript where
  last : Nat
  offered : Nat → Option Model
  exchange : Exchange
  definite : Option Exchange

namespace Transcript

def blocks (start : Nat) (transcript : Transcript) : List Block :=
  (List.range' start (transcript.last - start)).map
      (fun timestep => .cleared timestep (transcript.offered timestep)) ++
    ⟨transcript.last, .possible, transcript.exchange⟩ ::
      transcript.definite.toList.map fun exchange => ⟨transcript.last, .definite, exchange⟩

/-- The transcript of an evaluation that took the time `final`. The second query is asked exactly if
the first was satisfiable and came with a model, and an evaluation that ends on a cleared timestep has
come to the bound or run out of time. -/
structure Lawful (evaluator : Evaluator σ) (bound start : Nat) (final : Nanoseconds)
    (transcript : Transcript) : Prop where
  start_le : start ≤ transcript.last
  le_bound : transcript.last ≤ bound
  definite_iff :
    transcript.definite.isSome ↔ ∃ model, transcript.exchange = .answered .sat (some model)
  cut : ∀ offered, transcript.exchange = .answered .unsat offered → transcript.last < bound →
    evaluator.OutOfTime final

section Lawful

variable {evaluator : Evaluator σ} {bound start : Nat} {final : Nanoseconds}
  {transcript : Transcript} (start_le : start ≤ transcript.last)
  (le_bound : transcript.last ≤ bound)

include start_le le_bound

theorem lawful_of_denied {offered : Option Model}
    (denied : transcript.exchange = .answered .unsat offered) (once : transcript.definite = none)
    (cut : transcript.last < bound → evaluator.OutOfTime final) :
    transcript.Lawful evaluator bound start final := by
  refine ⟨start_le, le_bound, ?_, fun _ _ => cut⟩
  rw [denied, once]
  constructor
  · intro absent
    cases absent
  · rintro ⟨_, contrary⟩
    cases contrary

theorem lawful_of_halts (halts : transcript.exchange.Halts) (once : transcript.definite = none) :
    transcript.Lawful evaluator bound start final := by
  refine ⟨start_le, le_bound, ?_, ?_⟩
  · rw [once]
    constructor
    · intro absent
      cases absent
    · rintro ⟨_, granted⟩
      rw [granted] at halts
      cases halts
  · intro _ denied
    rw [denied] at halts
    cases halts

theorem lawful_of_granted {model : Model}
    (granted : transcript.exchange = .answered .sat (some model)) (twice : transcript.definite.isSome) :
    transcript.Lawful evaluator bound start final := by
  refine ⟨start_le, le_bound, iff_of_true twice ⟨model, granted⟩, ?_⟩
  intro _ denied
  cases granted.symm.trans denied

end Lawful

theorem Lawful.unfinished {evaluator : Evaluator σ} {bound start : Nat} {final : Nanoseconds}
    {transcript : Transcript} (lawful : transcript.Lawful evaluator bound start final) :
    ∀ block ∈ (transcript.blocks start).dropLast,
      block.phase = .possible ∧ ¬block.exchange.Halts := by
  have cleared : ∀ block ∈ (List.range' start (transcript.last - start)).map
      (fun timestep => Block.cleared timestep (transcript.offered timestep)),
      block.phase = .possible ∧ ¬block.exchange.Halts := by
    rw [List.forall_mem_map]
    intro timestep _
    exact ⟨rfl, id⟩
  unfold blocks
  cases second : transcript.definite with
  | none =>
      rw [Option.toList_none, List.map_nil, List.dropLast_concat]
      exact cleared
  | some exchange =>
      obtain ⟨model, granted⟩ := lawful.definite_iff.mp (Option.isSome_of_eq_some second)
      rw [Option.toList_some, List.map_singleton, List.append_cons, List.dropLast_concat,
        List.forall_mem_append]
      refine ⟨cleared, List.forall_mem_singleton.mpr ⟨rfl, ?_⟩⟩
      rw [granted]
      intro halts
      cases halts

end Transcript

end Trivalent
