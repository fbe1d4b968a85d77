import Countersign.Service

/-!
What a program keeps to, whatever it is answered, and how far it is bound by an answer.

An update that is granted, and a store that is out, leave a program nothing to do but to make its notes and to end
(`Program.Settled`). `Program.Orderly` says so of all its calls at once, and that it notes one pair at most and logs no
refusal for an empty secret. Programs in order are put together as long as what follows goes on from every end
(`Program.Orderly.bind`, `Program.Orderly.bind_silent`), so one walk through an endpoint shows all of it.
-/

namespace Countersign

/-- Why an event tells that a signed request is refused, if it does. -/
@[simp] def Event.refusal? : Event → Option SignatureError
  | .signatureRejected _ _ e => some e
  | .nonceReplayed _ _ _ => some .replay
  | _ => none

/-- How a program may end: at all, once an update has been granted, and once the store is out; then in one of several
ways, whatever the detail. -/
structure Ends (ι α : Type) where
  ever : α → Prop
  granted : α → Prop
  out : ι → α → Prop

namespace Program

variable {ι κ α β : Type}

/-! ### Programs that are settled -/

/-- Nothing but notes in the log is left to do, and then the end is as `ends` allows. -/
def Settled (ends : α → Prop) : Program α → Prop
  | .done a => ends a
  | .call (.log _) next => Settled ends (next ())
  | _ => False

theorem settled_bind {ends : β → Prop} {p : Program α} {f : α → Program β}
    (settled : p.Settled fun a => (f a).Settled ends) : (p >>= f).Settled ends := by
  induction p with
  | done a => exact settled
  | abort => exact settled.elim
  | call c next ih =>
    cases c with
    | log e => exact ih () settled
    | _ => exact settled.elim

theorem settled_mono {ends others : α → Prop} (weaker : ∀ a, ends a → others a) {p : Program α}
    (settled : p.Settled ends) : p.Settled others := by
  induction p with
  | done a => exact weaker a settled
  | abort => exact settled
  | call c next ih =>
    cases c with
    | log e => exact ih () settled
    | _ => exact settled

theorem settled_logAll {ends : Unit → Prop} (events : List Event) (ended : ends ()) :
    (logAll events).Settled ends := by
  unfold logAll
  induction events with
  | nil => exact ended
  | cons e events ih => exact ih

/-! ### Programs in order -/

/-- Whatever a program is answered: it notes at most one pair, and one that `may` allows; it logs no refusal for an empty
secret; it is settled once an update has been granted, and once the store is out, then in a way `i` that is chosen before
the detail is known. -/
inductive Orderly (ends : Ends ι α) : (may : String → String → Prop) → Program α → Prop
  | done {may : String → String → Prop} {a : α} (ended : ends.ever a) : Orderly ends may (.done a)
  | abort {may : String → String → Prop} : Orderly ends may .abort
  | log {may : String → String → Prop} {e : Event} {next : (Call.log e).Answer → Program α}
      (keyed : e.refusal? ≠ some .emptySecret) (rest : Orderly ends may (next ())) :
      Orderly ends may (.call (.log e) next)
  | record {may : String → String → Prop} {timestamp nonce : String}
      {next : (Call.record timestamp nonce).Answer → Program α} (allowed : may timestamp nonce)
      (rest : ∀ fresh, Orderly ends (fun _ _ => False) (next fresh)) :
      Orderly ends may (.call (.record timestamp nonce) next)
  | store {may : String → String → Prop} {call : StoreCall} {next : (Call.store call).Answer → Program α} (i : ι)
      (out : ∀ detail, (next (.error (.unavailable detail))).Settled (ends.out i))
      (granted : ∀ user fields, call = .update user fields → ∀ saved, (next (.ok saved)).Settled ends.granted)
      (rest : ∀ answer, Orderly ends may (next answer)) : Orderly ends may (.call (.store call) next)

namespace Orderly

variable {may : String → String → Prop} {ends : Ends ι α} {others : Ends κ β} {p : Program α} {f : α → Program β}

theorem mono {more : String → String → Prop}
    (weaker : ∀ timestamp nonce, may timestamp nonce → more timestamp nonce) (orderly : p.Orderly ends may) :
    p.Orderly ends more := by
  induction orderly with
  | done ended => exact .done ended
  | abort => exact .abort
  | log keyed _ ih => exact .log keyed (ih weaker)
  | record allowed rest _ => exact .record (weaker _ _ allowed) rest
  | store i out granted _ ih => exact .store i out granted fun answer => ih answer weaker

theorem silent (orderly : p.Orderly ends fun _ _ => False) : p.Orderly ends may :=
  orderly.mono fun _ _ => False.elim

/-- What follows a program goes on in order from its ends, and is settled where the program was. -/
structure Leads (ends : Ends ι α) (others : Ends κ β) (may : String → String → Prop) (f : α → Program β) : Prop where
  rest : ∀ a, ends.ever a → (f a).Orderly others may
  granted : ∀ a, ends.granted a → (f a).Settled others.granted
  out : ∀ i, ∃ k, ∀ a, ends.out i a → (f a).Settled (others.out k)

/-- What a call on the store leaves settled stays so with what follows. -/
theorem store_bind {later : String → String → Prop} (leads : Leads ends others later f) {call : StoreCall}
    {next : (Call.store call).Answer → Program α} (i : ι)
    (out : ∀ detail, (next (.error (.unavailable detail))).Settled (ends.out i))
    (granted : ∀ user fields, call = .update user fields → ∀ saved, (next (.ok saved)).Settled ends.granted)
    (rest : ∀ answer, (next answer >>= f).Orderly others may) :
    (Program.call (.store call) next >>= f).Orderly others may := by
  obtain ⟨k, settles⟩ := leads.out i
  refine .store k (fun detail => ?_) (fun user fields update saved => ?_) rest
  · exact settled_bind (settled_mono settles (out detail))
  · exact settled_bind (settled_mono leads.granted (granted user fields update saved))

/-- A note may be made after a program that makes none. -/
theorem bind (first : p.Orderly ends fun _ _ => False) (leads : Leads ends others may f) :
    (p >>= f).Orderly others may := by
  -- The induction is on the program, because the pairs that it may note are fixed here: there are none.
  induction p with
  | done a =>
    cases first with
    | done ended => exact leads.rest a ended
  | abort => exact .abort
  | call c next ih =>
    cases first with
    | log keyed rest => exact .log keyed (ih () rest)
    | record never => exact never.elim
    | store i out granted rest => exact store_bind leads i out granted fun answer => ih answer (rest answer)

/-- No note is made after a program that may have made one. -/
theorem bind_silent (first : p.Orderly ends may) (leads : Leads ends others (fun _ _ => False) f) :
    (p >>= f).Orderly others may := by
  induction first with
  | done ended => exact (leads.rest _ ended).silent
  | abort => exact .abort
  | log keyed _ ih => exact .log keyed ih
  | record allowed _ ih => exact .record allowed ih
  | store i out granted _ ih => exact store_bind leads i out granted ih

end Orderly

end Program

/-! ### Programs that leave the store alone -/

/-- How a program may end that asks the store for nothing. -/
abbrev Ends.only {α : Type} (ever : α → Prop) : Ends Empty α := ⟨ever, fun _ => False, nofun⟩

theorem Program.orderly_logAll {may : String → String → Prop} {events : List Event}
    (keyed : ∀ e ∈ events, e.refusal? ≠ some .emptySecret) :
    (logAll events).Orderly (.only fun _ => True) may := by
  unfold logAll
  induction events with
  | nil => exact .done trivial
  | cons e events ih =>
    rw [List.forall_mem_cons] at keyed
    exact .log keyed.1 (ih keyed.2)

theorem Program.Orderly.Leads.of_only {κ α β : Type} {ever : α → Prop} {others : Ends κ β}
    {may : String → String → Prop} {f : α → Program β} (rest : ∀ a, ever a → (f a).Orderly others may) :
    Leads (.only ever) others may f :=
  ⟨rest, fun _ => False.elim, nofun⟩

/-! ### Steps that may fail -/

/-- A failure of one of some kinds. -/
def FailsAs {ε α : Type} (fails : ε → Prop) (_ : Unit) (r : Except ε α) : Prop := ∃ e, r = .error e ∧ fails e

namespace Ends

variable {ε α : Type}

/-- How a step may end: with what it yields, with what it yields once an update has been granted, and with a failure of
some kind once the store is out. -/
def step (yields granted : α → Prop) (fails : ε → Prop) : Ends Unit (Except ε α) where
  ever r := ∀ a, r = .ok a → yields a
  granted r := ∃ a, r = .ok a ∧ granted a
  out := FailsAs fails

/-- How a step may end that writes nothing. -/
abbrev lookUp (yields : α → Prop) (fails : ε → Prop) : Ends Unit (Except ε α) := .step yields (fun _ => False) fails

/-- The ends of a program as those of a step that does not fail. -/
def lifted {ι : Type} (ends : Ends ι α) : Ends ι (Except ε α) where
  ever r := ∃ a, r = .ok a ∧ ends.ever a
  granted r := ∃ a, r = .ok a ∧ ends.granted a
  out i r := ∃ a, r = .ok a ∧ ends.out i a

end Ends

section

variable {ι κ ε α β : Type} {may : String → String → Prop} {yields granted : α → Prop} {gives saves : β → Prop}
  {fails : ε → Prop} {x : ExceptT ε Program α} {f : α → ExceptT ε Program β}

theorem orderly_pure {a : α} (yielded : yields a) :
    (pure a : ExceptT ε Program α).run.Orderly (.step yields granted fails) may :=
  .done fun _ same => Except.ok.inj same ▸ yielded

/-- A step that only yields changes nothing in what follows. -/
theorem orderly_pure_bind {ends : Ends ι (Except ε β)} {a : α} (rest : (f a).run.Orderly ends may) :
    (pure a >>= f).run.Orderly ends may :=
  rest

theorem orderly_throw (e : ε) : (throw e : ExceptT ε Program α).run.Orderly (.step yields granted fails) may :=
  .done fun _ impossible => nomatch impossible

theorem leads_step (rest : ∀ a, yields a → (f a).run.Orderly (.step gives saves fails) may)
    (settled : ∀ a, granted a → (f a).run.Settled (Ends.step gives saves fails).granted) :
    Program.Orderly.Leads (.step yields granted fails) (.step gives saves fails) may (ExceptT.bindCont f) where
  rest := by
    rintro (e | a) ended
    · exact orderly_throw e
    · exact rest a (ended a rfl)
  granted := by
    rintro _ ⟨a, rfl, isGranted⟩
    exact settled a isGranted
  out _ := by
    refine ⟨(), ?_⟩
    rintro _ ⟨e, rfl, failed⟩
    exact ⟨e, rfl, failed⟩

theorem orderly_after (first : x.run.Orderly (.lookUp yields fails) fun _ _ => False)
    (rest : ∀ a, yields a → (f a).run.Orderly (.step gives saves fails) may) :
    (x >>= f).run.Orderly (.step gives saves fails) may :=
  Program.Orderly.bind (f := ExceptT.bindCont f) first (leads_step rest fun _ => False.elim)

theorem orderly_before (first : x.run.Orderly (.lookUp yields fails) may)
    (rest : ∀ a, yields a → (f a).run.Orderly (.step gives saves fails) fun _ _ => False) :
    (x >>= f).run.Orderly (.step gives saves fails) may :=
  Program.Orderly.bind_silent (f := ExceptT.bindCont f) first (leads_step rest fun _ => False.elim)

/-- A program that is no step itself begins one. -/
theorem orderly_lift {ends : Ends ι α} {others : Ends κ (Except ε β)} {p : Program α} (first : p.Orderly ends may)
    (leads : Program.Orderly.Leads ends others (fun _ _ => False) fun a => (f a).run) :
    (liftM p >>= f : ExceptT ε Program β).run.Orderly others may := by
  have begun : (liftM p : ExceptT ε Program α).run.Orderly ends.lifted may :=
    first.bind_silent (f := fun a => pure (Except.ok a)) ⟨fun a ended => .done ⟨a, rfl, ended⟩,
      fun a isGranted => ⟨a, rfl, isGranted⟩, fun i => ⟨i, fun a isOut => ⟨a, rfl, isOut⟩⟩⟩
  refine begun.bind_silent (f := ExceptT.bindCont f) ⟨?_, ?_, fun i => ?_⟩
  · rintro _ ⟨a, rfl, ended⟩
    exact leads.rest a ended
  · rintro _ ⟨a, rfl, isGranted⟩
    exact leads.granted a isGranted
  · obtain ⟨k, settles⟩ := leads.out i
    refine ⟨k, ?_⟩
    rintro _ ⟨a, rfl, isOut⟩
    exact settles a isOut

/-- Before a step fails it may tell the log why. -/
theorem orderly_refused {events : List Event} (keyed : ∀ e ∈ events, e.refusal? ≠ some .emptySecret) (e : ε) :
    (do Program.logAll events; throw e : ExceptT ε Program α).run.Orderly (.step yields granted fails) may :=
  orderly_lift (Program.orderly_logAll keyed) (.of_only fun _ _ => orderly_throw e)

theorem settled_refused {ends : Except ε α → Prop} {events : List Event} {e : ε} (ended : ends (.error e)) :
    (do Program.logAll events; throw e : ExceptT ε Program α).run.Settled ends :=
  Program.settled_bind (Program.settled_bind (Program.settled_logAll events ended))

end

end Countersign
