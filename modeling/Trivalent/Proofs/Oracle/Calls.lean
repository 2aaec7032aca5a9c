import Trivalent.Oracle.Basic

/-!
The calls that an oracle receives. A recording oracle keeps a list of all calls that can change its
state, with what came of them, and otherwise answers as before. A query of several parts is one
exchange: a reset, one assertion and a check, cut short by a call that fails.
-/

set_option autoImplicit false

namespace Trivalent

/-- A call with its answer. A check comes with the model that the oracle offers after it. -/
inductive Call where
  | reset (answer : Except String Unit)
  | assert (formula : Formula) (answer : Except String Unit)
  | check (answer : Except String SatResult) (offered : Option Model)

/-- What came of a query. -/
inductive Exchange where
  | resetFailed (message : String)
  | assertFailed (message : String)
  | checkFailed (message : String) (offered : Option Model)
  | answered (result : SatResult) (offered : Option Model)

namespace Exchange

def calls (formula : Formula) : Exchange → List Call
  | .resetFailed message => [.reset (.error message)]
  | .assertFailed message => [.reset (.ok ()), .assert formula (.error message)]
  | .checkFailed message offered =>
      [.reset (.ok ()), .assert formula (.ok ()), .check (.error message) offered]
  | .answered result offered =>
      [.reset (.ok ()), .assert formula (.ok ()), .check (.ok result) offered]

def answer : Exchange → Except String SatResult
  | .resetFailed message => .error message
  | .assertFailed message => .error message
  | .checkFailed message _ => .error message
  | .answered result _ => .ok result

end Exchange

namespace Oracle

variable {σ : Type} (oracle : Oracle σ)

/-- The oracle with a list of its calls beside its state. -/
def recording : Oracle (σ × List Call) where
  reset whole :=
    let reply := oracle.reset whole.1
    ⟨reply.answer, (reply.state, whole.2 ++ [.reset reply.answer]), reply.took⟩
  assert formula whole :=
    let reply := oracle.assert formula whole.1
    ⟨reply.answer, (reply.state, whole.2 ++ [.assert formula reply.answer]), reply.took⟩
  check whole :=
    let reply := oracle.check whole.1
    ⟨reply.answer, (reply.state, whole.2 ++ [.check reply.answer (oracle.model reply.state)]),
      reply.took⟩
  model whole := oracle.model whole.1

/-- What comes of the query of a formula in a state. -/
def exchange (formula : Formula) (state : σ) : Exchange :=
  let ready := oracle.reset state
  match ready.answer with
  | .error message => .resetFailed message
  | .ok () =>
      let asserted := oracle.assert formula ready.state
      match asserted.answer with
      | .error message => .assertFailed message
      | .ok () =>
          let checked := oracle.check asserted.state
          match checked.answer with
          | .error message => .checkFailed message (oracle.model checked.state)
          | .ok result => .answered result (oracle.model checked.state)

theorem checkAll_recording (parts : List Formula) (state : σ) (log : List Call) :
    oracle.recording.checkAll parts (state, log) =
      ⟨(oracle.checkAll parts state).answer,
        ((oracle.checkAll parts state).state,
          log ++ (oracle.exchange (Formula.conj parts) state).calls (Formula.conj parts)),
        (oracle.checkAll parts state).took⟩ := by
  unfold checkAll exchange recording Reply.andThen
  cases ready : (oracle.reset state).answer with
  | error message => simp [ready, Exchange.calls]
  | ok _ =>
      cases asserted :
          (oracle.assert (Formula.conj parts) (oracle.reset state).state).answer with
      | error message => simp [ready, asserted, Exchange.calls]
      | ok _ =>
          cases checked : (oracle.check
              (oracle.assert (Formula.conj parts) (oracle.reset state).state).state).answer with
          | error message => simp [ready, asserted, checked, Exchange.calls]
          | ok result => simp [ready, asserted, checked, Exchange.calls]

/-- A query is either answered, by an exchange that ends with the model at hand, or it fails. -/
theorem exchange_cases (parts : List Formula) (state : σ) :
    (∃ result, (oracle.checkAll parts state).answer = .ok result ∧
      oracle.exchange (Formula.conj parts) state =
        .answered result (oracle.model (oracle.checkAll parts state).state)) ∨
    ∃ message, (oracle.checkAll parts state).answer = .error message ∧
      (oracle.exchange (Formula.conj parts) state).answer = .error message := by
  unfold checkAll exchange Reply.andThen
  cases ready : (oracle.reset state).answer with
  | error message =>
      refine Or.inr ⟨message, ?_⟩
      simp [ready, Exchange.answer]
  | ok _ =>
      cases asserted :
          (oracle.assert (Formula.conj parts) (oracle.reset state).state).answer with
      | error message =>
          refine Or.inr ⟨message, ?_⟩
          simp [ready, asserted, Exchange.answer]
      | ok _ =>
          cases checked : (oracle.check
              (oracle.assert (Formula.conj parts) (oracle.reset state).state).state).answer with
          | error message =>
              refine Or.inr ⟨message, ?_⟩
              simp [ready, asserted, checked, Exchange.answer]
          | ok result =>
              refine Or.inl ⟨result, ?_⟩
              simp [ready, asserted, checked]

end Oracle

end Trivalent
