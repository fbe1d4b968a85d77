import Countersign.Service

/-!
What programs ask and hear, whatever they are answered.

A program is held to a conduct: what it may ask of the store after what it has heard, and with what it may
end (`Program.Keeps`, and `Meets` for steps that may fail). Nothing is assumed about the answers, so what is
shown of a program holds however it is run. `keeps_bind` and `meets_bind` take programs apart.
-/

namespace Countersign

/-- What a program hears from the store or the replay guard. -/
inductive Exchange where
  | store (call : StoreCall) (answer : StoreAnswer)
  | record (timestamp nonce : String) (fresh : Bool)

/-- What is heard when a call is answered; the log says nothing. -/
def Call.heard : (c : Call) → c.Answer → List Exchange
  | .store call, answer => [.store call answer]
  | .record timestamp nonce, fresh => [.record timestamp nonce fresh]
  | .log _, _ => []

/-- Which questions a program may put to the store after what it has heard. -/
abbrev Questions := List Exchange → StoreCall → Prop

/-- Whether a call may be made; only those on the store are restrained. -/
def Call.AllowedBy (asks : Questions) (h : List Exchange) : Call → Prop
  | .store call => asks h call
  | _ => True

namespace Program

variable {α β : Type} {asks : Questions}

/-- Whatever a program is answered from now on, having heard `h`: it asks what `asks` allows, and ends as
`ends` allows. -/
def Keeps (asks : Questions) (ends : List Exchange → α → Prop) : Program α → List Exchange → Prop
  | .done a, h => ends h a
  | .abort, _ => True
  | .call c next, h => c.AllowedBy asks h ∧ ∀ answer, Keeps asks ends (next answer) (h ++ c.heard answer)

theorem keeps_mono {ends others : List Exchange → α → Prop} (weaker : ∀ h a, ends h a → others h a)
    {p : Program α} {h : List Exchange} (keeps : p.Keeps asks ends h) : p.Keeps asks others h := by
  induction p generalizing h with
  | done a => exact weaker h a keeps
  | abort => trivial
  | call c next ih => exact ⟨keeps.1, fun answer => ih answer (keeps.2 answer)⟩

/-- What a program keeps to from the start it keeps to after anything heard before. -/
theorem keeps_after {more : Questions} {ends others : List Exchange → α → Prop} {before : List Exchange}
    (allowed : ∀ h call, asks h call → more (before ++ h) call)
    (weaker : ∀ h a, ends h a → others (before ++ h) a) {p : Program α} {h : List Exchange}
    (keeps : p.Keeps asks ends h) : p.Keeps more others (before ++ h) := by
  induction p generalizing h with
  | done a => exact weaker h a keeps
  | abort => trivial
  | call c next ih =>
    refine ⟨?_, fun answer => ?_⟩
    · cases c with
      | store call => exact allowed h call keeps.1
      | record timestamp nonce => trivial
      | log e => trivial
    · rw [List.append_assoc]
      exact ih answer (keeps.2 answer)

theorem keeps_bind {ends : List Exchange → β → Prop} (p : Program α) (f : α → Program β)
    (h : List Exchange) :
    (p >>= f).Keeps asks ends h ↔ p.Keeps asks (fun h a => (f a).Keeps asks ends h) h := by
  induction p generalizing h with
  | done a => rfl
  | abort => rfl
  | call c next ih =>
    show (c.AllowedBy asks h ∧ ∀ answer, (next answer >>= f).Keeps asks ends _) ↔ _
    simp only [ih, Keeps]

variable {ends : List Exchange → α → Prop} {h : List Exchange}

@[simp] theorem keeps_pure (a : α) : (pure a : Program α).Keeps asks ends h ↔ ends h a := Iff.rfl

@[simp] theorem keeps_log {ends : List Exchange → Unit → Prop} (e : Event) :
    (log e).Keeps asks ends h ↔ ends h () := by
  show (True ∧ ∀ _ : Unit, ends (h ++ []) ()) ↔ _
  simp

@[simp] theorem keeps_logAll {ends : List Exchange → Unit → Prop} (events : List Event) :
    (logAll events).Keeps asks ends h ↔ ends h () := by
  unfold logAll
  induction events with
  | nil => rfl
  | cons e events ih =>
    show (log e >>= fun _ => events.forM log).Keeps asks ends h ↔ _
    rw [keeps_bind, keeps_log]
    exact ih

@[simp] theorem keeps_store {ends : List Exchange → StoreAnswer → Prop} (c : StoreCall) :
    (store c).Keeps asks ends h ↔ asks h c ∧ ∀ answer, ends (h ++ [.store c answer]) answer :=
  Iff.rfl

@[simp] theorem keeps_record {ends : List Exchange → Bool → Prop} (timestamp nonce : String) :
    (record timestamp nonce).Keeps asks ends h ↔
      ∀ fresh, ends (h ++ [.record timestamp nonce fresh]) fresh :=
  iff_of_eq (true_and _)

@[simp] theorem keeps_ofOption (o : Option α) :
    (ofOption o).Keeps asks ends h ↔ ∀ a, o = some a → ends h a := by
  cases o <;> simp [ofOption, Keeps]

end Program

/-! ### Steps that may fail -/

section

variable {ε α β : Type} {asks : Questions} {ends : List Exchange → α → Prop}
  {fails : List Exchange → ε → Prop} {h : List Exchange}

/-- What `Program.Keeps` says of a step that may fail: it may end as `ends` allows or fail as `fails` does. -/
def Meets (asks : Questions) (ends : List Exchange → α → Prop) (fails : List Exchange → ε → Prop)
    (x : ExceptT ε Program α) (h : List Exchange) : Prop :=
  x.run.Keeps asks (fun h r => match r with | .ok a => ends h a | .error e => fails h e) h

theorem meets_bind {ends : List Exchange → β → Prop} (x : ExceptT ε Program α)
    (f : α → ExceptT ε Program β) :
    Meets asks ends fails (x >>= f) h ↔
      Meets asks (fun h a => Meets asks ends fails (f a) h) fails x h := by
  show ((x.run >>= ExceptT.bindCont f).Keeps asks _ h) ↔ _
  rw [Program.keeps_bind]
  refine ⟨Program.keeps_mono ?_, Program.keeps_mono ?_⟩ <;> rintro h (e | a) kept <;> exact kept

@[simp] theorem meets_pure (a : α) :
    Meets asks ends fails (pure a : ExceptT ε Program α) h ↔ ends h a := Iff.rfl

@[simp] theorem meets_throw (e : ε) :
    Meets asks ends fails (throw e : ExceptT ε Program α) h ↔ fails h e := Iff.rfl

@[simp] theorem meets_lift (p : Program α) :
    Meets asks ends fails (ExceptT.lift p : ExceptT ε Program α) h ↔ p.Keeps asks ends h := by
  show ((p >>= fun a => pure (Except.ok a)).Keeps asks _ h) ↔ _
  rw [Program.keeps_bind]
  rfl

@[simp] theorem meets_liftM (p : Program α) :
    Meets asks ends fails (liftM p : ExceptT ε Program α) h ↔ p.Keeps asks ends h :=
  meets_lift p

theorem meets_ite {x y : ExceptT ε Program α} {c : Prop} [Decidable c] :
    Meets asks ends fails (if c then x else y) h ↔
      (c → Meets asks ends fails x h) ∧ (¬ c → Meets asks ends fails y h) := by
  split <;> simp_all

end

end Countersign
