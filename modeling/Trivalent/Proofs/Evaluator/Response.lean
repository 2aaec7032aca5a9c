import Trivalent.Evaluator

/-!
What an evaluation makes of the oracle's responses, as computations without a session. A response is
heard once the files of its query are written (`hear`), the model after it is read as a trace
(`traceOf`), and the response to the query for a definite violation settles a timestep (`settle`).
-/

set_option autoImplicit false

namespace Trivalent

variable {σ : Type}

/-- What came of a query: the answer with the model at hand after it, or the reason of a failure. -/
abbrev Response := Except String (SatResult × Option Model)

def Oracle.response (oracle : Oracle σ) (parts : List Formula) (state : σ) : Response :=
  (oracle.checkAll parts state).answer.map fun result =>
    (result, oracle.model (oracle.checkAll parts state).state)

theorem Oracle.response_eq_ok_iff {oracle : Oracle σ} {parts : List Formula} {state : σ}
    {result : SatResult} {offered : Option Model} :
    oracle.response parts state = .ok (result, offered) ↔
      (oracle.checkAll parts state).answer = .ok result ∧
        oracle.model (oracle.checkAll parts state).state = offered := by
  unfold response
  cases (oracle.checkAll parts state).answer with
  | error message => simp only [Except.map, reduceCtorEq, false_and]
  | ok found => simp only [Except.map, Except.ok.injEq, Prod.mk.injEq]

/-! ### Answers of actions -/

namespace EvalM

variable {α β : Type} {action : EvalM σ α} {next : α → EvalM σ β} {session middle : Session σ}

/-- The value or the error that an action comes to. -/
def answer (action : EvalM σ α) (session : Session σ) : Except CheckError α :=
  match action.run session with
  | .ok value _ => .ok value
  | .error problem _ => .error problem

/-- The session in which an action ends, by a value or by an error. -/
def final (action : EvalM σ α) (session : Session σ) : Session σ :=
  match action.run session with
  | .ok _ after => after
  | .error _ after => after

theorem answer_eq_ok_iff {value : α} :
    action.answer session = .ok value ↔ ∃ after, action.run session = .ok value after := by
  unfold answer
  cases action.run session with
  | ok found after =>
      constructor
      · rintro ⟨⟩
        exact ⟨after, rfl⟩
      · rintro ⟨_, ⟨⟩⟩
        rfl
  | error problem after =>
      constructor
      · nofun
      · nofun

theorem run_bind_of_ok {value : α} (ran : action.run session = .ok value middle) :
    (action >>= next).run session = (next value).run middle := by
  rw [EStateM.run_bind, ran]

theorem answer_bind_ok {value : α} (ran : action.run session = .ok value middle) :
    (action >>= next).answer session = (next value).answer middle := by
  unfold answer
  rw [run_bind_of_ok ran]

theorem answer_bind_error {problem : CheckError} (ran : action.run session = .error problem middle) :
    (action >>= next).answer session = .error problem := by
  unfold answer
  rw [EStateM.run_bind, ran]

end EvalM

/-! ### Responses heard -/

namespace Evaluator

section Plans

variable (evaluator : Evaluator σ)

/-- Whether a file of this name can be written. -/
def storing (folder : Folder) (name : String) : Except CheckError Unit := do
  let _ ← (folder.locate name).mapError .file

/-- Whether the files of a query can be written. -/
def filing (phase : Phase) (timestep : Nat) (result : SatResult) : Except CheckError Unit :=
  match evaluator.dump with
  | none => pure ()
  | some folder => do
      folder.create.mapError .file
      let stem := evaluator.label ++ "_t" ++ timestep.repr ++ "_" ++ phase.letter
      storing folder (stem ++ ".smt2")
      if result.isSat then storing folder (stem ++ ".model.json")

/-- What is left of a response after the files of its query. -/
def hear (phase : Phase) (timestep : Nat) : Response → Except CheckError (SatResult × Option Model)
  | .error message => .error (.oracle timestep message)
  | .ok (result, offered) => do
      evaluator.filing phase timestep result
      return (result, offered)

def traceOf (timestep : Nat) : Option Model → Except CheckError Trace
  | none => .error (.missingModel timestep)
  | some model =>
      (model.decode evaluator.program evaluator.property timestep).mapError (.decode timestep)

/-- The finding at a timestep with this trace of a possible violation. -/
def settle (timestep : Nat) (trace : Trace)
    (heard : Except CheckError (SatResult × Option Model)) : Except CheckError Finding := do
  let (result, offered) ← heard
  match result with
  | .sat =>
      let trace ← evaluator.traceOf timestep offered
      return ⟨.satisfiable, some trace⟩
  | .unsat => return ⟨.unknown, some trace⟩
  | .unknown reason => return ⟨.inconclusive reason, some trace⟩

end Plans

theorem bind_eq_ok_iff {α β : Type} {first : Except CheckError α} {next : α → Except CheckError β}
    {result : β} :
    (first >>= next) = .ok result ↔ ∃ value, first = .ok value ∧ next value = .ok result := by
  cases first with
  | error problem =>
      constructor
      · intro impossible
        cases impossible
      · rintro ⟨_, impossible, _⟩
        cases impossible
  | ok value =>
      constructor
      · intro rest
        exact ⟨value, rfl, rest⟩
      · rintro ⟨_, same, rest⟩
        cases same
        exact rest

variable {evaluator : Evaluator σ} {timestep : Nat}

theorem hear_eq_ok_iff {phase : Phase} {response : Response} {heard : SatResult × Option Model} :
    evaluator.hear phase timestep response = .ok heard ↔
      response = .ok heard ∧ evaluator.filing phase timestep heard.1 = .ok () := by
  cases response with
  | error message => simp only [hear, reduceCtorEq, false_and]
  | ok given =>
      obtain ⟨result, offered⟩ := given
      rw [hear, bind_eq_ok_iff]
      constructor
      · rintro ⟨_, filed, same⟩
        cases same
        exact ⟨rfl, filed⟩
      · rintro ⟨same, filed⟩
        cases same
        exact ⟨(), filed, rfl⟩

theorem hear_of_filed {phase : Phase} {result : SatResult}
    (filed : evaluator.filing phase timestep result = .ok ()) (offered : Option Model) :
    evaluator.hear phase timestep (.ok (result, offered)) = .ok (result, offered) :=
  hear_eq_ok_iff.mpr ⟨rfl, filed⟩

theorem traceOf_eq_ok_iff {offered : Option Model} {trace : Trace} :
    evaluator.traceOf timestep offered = .ok trace ↔
      ∃ model, offered = some model ∧
        model.decode evaluator.program evaluator.property timestep = .ok trace := by
  cases offered with
  | none => simp only [traceOf, reduceCtorEq, false_and, exists_false]
  | some model =>
      simp only [traceOf, Option.some.injEq, exists_eq_left']
      cases model.decode evaluator.program evaluator.property timestep with
      | ok found =>
          constructor
          · intro same
            cases same
            rfl
          · intro same
            cases same
            rfl
      | error source => constructor <;> intro same <;> cases same

theorem settle_granted {trace shown : Trace} {model : Model}
    (decoded : model.decode evaluator.program evaluator.property timestep = .ok shown) :
    evaluator.settle timestep trace (.ok (.sat, some model)) =
      .ok ⟨.satisfiable, some shown⟩ := by
  change (evaluator.traceOf timestep (some model) >>= fun trace =>
    pure (⟨.satisfiable, some trace⟩ : Finding)) = _
  rw [traceOf_eq_ok_iff.mpr ⟨model, rfl, decoded⟩]
  rfl

end Evaluator

end Trivalent
