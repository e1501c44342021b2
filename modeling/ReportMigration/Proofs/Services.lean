import ReportMigration.Proofs.Execution
/-!
Calls of services.

* `scripted script name`: what a service does when it is called, `Quiet script name`: it does not raise;
* `Op.exec_call`: a call is noted, and answers or fails as the service does;
* `Deployment.answer d name args`: what a service answers;
* `Op.Answers x d r`: the operation `x` answers `r` and only notes calls.
-/
namespace ReportMigration

/-- What a service does when it is called: what the script has for its name, or else for all names. -/
def scripted (script : List (String × Outcome)) (name : String) : Option Outcome :=
  ((script.find? fun s => s.1 = name).orElse fun _ => script.find? fun s => s.1 = "*").map (·.2)

/-- A service that does not raise. -/
def Quiet (script : List (String × Outcome)) (name : String) : Prop :=
  ∀ f, scripted script name ≠ some (.raise f)

namespace Op

variable {d : Deployment} {name : String} {args : List Value} {named : List (String × Value)}

/-- A call is noted whatever comes of it. -/
theorem exec_call (name : String) (args : List Value) (named : List (String × Value)) (d : Deployment) :
    (call name args named).exec d = (match scripted d.script name with
      | none => .ok .null
      | some (.value v) => .ok v
      | some (.content v) =>
        .ok (.record [("choices", .list [.record [("message", .record [("content", v)])]])])
      | some (.echo i) => .ok (args.getD i .null)
      | some (.raise f) => .error f, { d with calls := ⟨name, args, named⟩ :: d.calls }) := by
  have hrecord : (record ⟨name, args, named⟩).exec d =
      (.ok (), { d with calls := ⟨name, args, named⟩ :: d.calls }) := rfl
  rw [call, exec_bind_ok hrecord, exec_bind_ok (exec_get _), scripted]
  dsimp only
  cases (d.script.find? fun s => s.1 = name).orElse fun _ => d.script.find? fun s => s.1 = "*" with
  | none => rfl
  | some o =>
    obtain ⟨n, o⟩ := o
    cases o <;> rfl

/-- A service answers exactly if it does not raise. -/
theorem exec_call_cases (name : String) (args : List Value) (named : List (String × Value))
    (d : Deployment) :
    let d' := { d with calls := ⟨name, args, named⟩ :: d.calls }
    Quiet d.script name ∧ (∃ v, (call name args named).exec d = (.ok v, d')) ∨
      ¬ Quiet d.script name ∧ ∃ e, (call name args named).exec d = (.error e, d') := by
  rw [exec_call]
  by_cases h : ∃ f, scripted d.script name = some (.raise f)
  · obtain ⟨f, hf⟩ := h
    rw [hf]
    exact .inr ⟨fun hq => hq f hf, f, rfl⟩
  · refine .inl ⟨fun f hf => h ⟨f, hf⟩, ?_⟩
    cases hs : scripted d.script name with
    | none => exact ⟨_, rfl⟩
    | some o =>
      cases o with
      | raise f => exact absurd ⟨f, hs⟩ h
      | value v => exact ⟨_, rfl⟩
      | echo i => exact ⟨_, rfl⟩
      | content v => exact ⟨_, rfl⟩

/-- A call without arguments answers a map only if the script says so. -/
theorem scripted_of_exec_call {fs : List (String × Value)} {d' : Deployment}
    (h : (call name).exec d = (.ok (.map fs), d')) : scripted d.script name = some (.value (.map fs)) := by
  rw [exec_call] at h
  cases hs : scripted d.script name with
  | none => rw [hs] at h; cases h
  | some o =>
    rw [hs] at h
    cases o <;> cases h
    rfl

end Op

/-- The deployment without the calls that were noted. -/
def Deployment.uncalled (d : Deployment) : Deployment := { d with calls := [] }

theorem Op.Keeps.call (name : String) (args : List Value) (named : List (String × Value)) :
    Op.Keeps Deployment.uncalled (Op.call name args named) := fun d => by
  rw [Op.exec_call]
  rfl

theorem Deployment.exists_of_uncalled {d d' : Deployment} (h : d'.uncalled = d.uncalled) :
    ∃ cs, d' = { d with calls := cs } :=
  ⟨d'.calls, congrArg (fun x : Deployment => { x with calls := d'.calls }) h⟩

/-! ## Answers -/

/-- What a service answers when it is called with some arguments. -/
def Deployment.answer (d : Deployment) (name : String) (args : List Value) : Except Fault Value :=
  ((Op.call name args).exec d).1

theorem Op.exec_call_eq (name : String) (args : List Value) (d : Deployment) :
    (Op.call name args).exec d = (d.answer name args, { d with calls := ⟨name, args, []⟩ :: d.calls }) := by
  rw [Deployment.answer, Op.exec_call]

/-- The calls that were noted make no difference to an answer. -/
theorem Deployment.answer_calls (d : Deployment) (cs : List Call) (name : String) (args : List Value) :
    ({ d with calls := cs } : Deployment).answer name args = d.answer name args := by
  rw [answer, answer, Op.exec_call, Op.exec_call]

theorem Deployment.answer_raise {d : Deployment} {name : String} {f : Fault}
    (h : scripted d.script name = some (.raise f)) (args : List Value) :
    d.answer name args = .error f := by
  rw [answer, Op.exec_call, h]

theorem Deployment.answer_value {d : Deployment} {name : String} {v : Value}
    (h : scripted d.script name = some (.value v)) (args : List Value) :
    d.answer name args = .ok v := by
  rw [answer, Op.exec_call, h]

/-- The operation answers `r` and only notes calls, whatever calls were noted before. -/
def Op.Answers {α : Type} (x : Op α) (d : Deployment) (r : Except Fault α) : Prop :=
  ∀ cs, ∃ cs', x.exec { d with calls := cs } = (r, { d with calls := cs' })

namespace Op.Answers

variable {α β : Type} {d : Deployment}

theorem ofExcept (r : Except Fault α) : (Op.ofExcept r).Answers d r :=
  fun cs => ⟨cs, exec_ofExcept r _⟩

theorem db : Op.db.Answers d (.ok d.db) := fun cs => ⟨cs, rfl⟩

theorem call (name : String) (args : List Value) : (Op.call name args).Answers d (d.answer name args) :=
  fun cs => ⟨_, by rw [exec_call_eq, Deployment.answer_calls]⟩

theorem bind {x : Op α} {k : α → Op β} {r : Except Fault α} {s : α → Except Fault β}
    (hx : x.Answers d r) (hk : ∀ a, (k a).Answers d (s a)) : (x >>= k).Answers d (r >>= s) := by
  intro cs
  obtain ⟨cs₁, hx⟩ := hx cs
  cases r with
  | error f => exact ⟨cs₁, exec_bind_error hx⟩
  | ok a =>
    rw [exec_bind_ok hx]
    exact hk a cs₁

end Op.Answers

end ReportMigration
