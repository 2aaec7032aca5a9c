import Trivalent.Oracle.Basic
import Trivalent.Proofs.Formula.Dependence

/-!
What a check may rely on when it asks an oracle. Every query is one formula, asserted alone after a
reset; `checkAll` of several parts is the query of their conjunction. The state that a query starts
from is arbitrary throughout.
-/

set_option autoImplicit false

namespace Trivalent

namespace Model

/-- The model holds each variable of the formula in exactly one sign and makes the formula true. -/
structure Settles (model : Model) (formula : Formula) : Prop where
  decided : ∀ name ∈ formula.names, model.isTrue name = !model.isFalse name
  holds : formula.eval model.value = true

/-- A model as location digits are read from it: a variable is false exactly if the model holds its
negative literal. -/
def reading (model : Model) : Assignment := fun name => some !model.isFalse name

theorem read_reading (model : Model) (name : String) :
    model.reading.read name = !model.isFalse name :=
  rfl

theorem read_value (model : Model) (name : String) :
    model.value.read name = model.isTrue name := by
  unfold Assignment.read value
  cases model.isTrue name with
  | true => rfl
  | false => cases model.isFalse name <;> rfl

/-- The two readings of a model differ only on variables that it omits or holds in both signs, so the
formula that it settles cannot tell them apart. -/
theorem Settles.eval_reading {model : Model} {formula : Formula} (settles : model.Settles formula) :
    formula.eval model.reading = true := by
  rw [← settles.holds]
  apply Formula.eval_congr
  intro name found
  rw [read_reading, read_value, settles.decided name found]

end Model

namespace Oracle

variable {σ τ : Type}

/-- A satisfiable formula is never called unsatisfiable. -/
def Sound (oracle : Oracle σ) : Prop :=
  ∀ (formula : Formula) (state : σ),
    (oracle.checkAll [formula] state).answer = .ok .unsat → ¬formula.Satisfiable

/-- After the answer that a formula is satisfiable there is a model that settles it. -/
def OffersModels (oracle : Oracle σ) : Prop :=
  ∀ (formula : Formula) (state : σ), (oracle.checkAll [formula] state).answer = .ok .sat →
    ∃ model, oracle.model (oracle.checkAll [formula] state).state = some model ∧
      model.Settles formula

/-- The oracle decides every formula, without failing or giving up, and offers models. -/
structure Correct (oracle : Oracle σ) : Prop where
  sat_iff : ∀ (formula : Formula) (state : σ),
    (oracle.checkAll [formula] state).answer = .ok .sat ↔ formula.Satisfiable
  decides : ∀ (formula : Formula) (state : σ),
    (oracle.checkAll [formula] state).answer = .ok .sat ∨
      (oracle.checkAll [formula] state).answer = .ok .unsat
  offersModels : oracle.OffersModels

theorem Correct.sound {oracle : Oracle σ} (correct : oracle.Correct) : oracle.Sound := by
  intro formula state denied satisfiable
  have granted := (correct.sat_iff formula state).mpr satisfiable
  rw [granted] at denied
  cases denied

/-- No query fails, and after the answer that a formula is satisfiable there is a model. -/
structure Reliable (oracle : Oracle σ) : Prop where
  answers : ∀ (formula : Formula) (state : σ),
    ∃ result, (oracle.checkAll [formula] state).answer = .ok result
  offers : ∀ (formula : Formula) (state : σ),
    (oracle.checkAll [formula] state).answer = .ok .sat →
      ∃ model, oracle.model (oracle.checkAll [formula] state).state = some model

theorem Correct.reliable {oracle : Oracle σ} (correct : oracle.Correct) : oracle.Reliable where
  answers formula state := by
    rcases correct.decides formula state with granted | denied
    · exact ⟨.sat, granted⟩
    · exact ⟨.unsat, denied⟩
  offers formula state granted := by
    obtain ⟨model, offered, _⟩ := correct.offersModels formula state granted
    exact ⟨model, offered⟩

theorem checkAll_eq_single (oracle : Oracle σ) (parts : List Formula) (state : σ) :
    oracle.checkAll parts state = oracle.checkAll [Formula.conj parts] state :=
  rfl

end Oracle

end Trivalent
