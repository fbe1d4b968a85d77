import Countersign.Proofs.Responses

/-!
An outage of the store is nobody's fault but the service's.

The store may be of any kind and answer as it likes (`WorldOf`). A program in order has nothing left to do, once a call
has been answered that the store is unavailable, but to note it and to come to an end that does not depend on the detail
(`Program.Orderly.out_alike`). So two outages at the same point are answered alike (`Service.outage_answered`).
-/

namespace Countersign

open Http (Request Response)
open Session (Attempt)

/-! ### Stores of any kind -/

/-- The state that programs share, with a store of another kind. What such a store answers may depend on anything that
its state tells: on the calls so far, on other callers, on answers drawn beforehand. -/
structure WorldOf (σ : Type) where
  store : σ
  replay : ReplayGuard
  log : List Event := []

namespace WorldOf

variable {σ : Type}

/-- Answers a call with the help of such a store. -/
def answer (backend : StoreCall → σ → Option StoreAnswer × σ) : (c : Call) → WorldOf σ → Option c.Answer × WorldOf σ
  | .store c, w =>
    let (a, store) := backend c w.store
    (a, { w with store })
  | .record timestamp nonce, w =>
    let (fresh, replay) := w.replay.record timestamp nonce
    (some fresh, { w with replay })
  | .log e, w => (some (), { w with log := w.log ++ [e] })

theorem answer_store (backend : StoreCall → σ → Option StoreAnswer × σ) (call : StoreCall) (w : WorldOf σ) :
    answer backend (.store call) w = ((backend call w.store).1, { w with store := (backend call w.store).2 }) := rfl

end WorldOf

/-- A world as one of those whose store may be of any kind. -/
def World.general (w : World) : WorldOf Store := ⟨w.store, w.replay, w.log⟩

/-- On a backend of the plain store both answer calls alike. -/
theorem Program.run_general {α : Type} (backend : Backend) (p : Program α) (w : World) :
    p.run (WorldOf.answer backend) w.general =
      ((p.run (World.answerWith backend) w).1, (p.run (World.answerWith backend) w).2.general) := by
  induction p generalizing w with
  | done a => rfl
  | abort => rfl
  | call c next ih =>
    cases c with
    | log e => exact ih () { w with log := w.log ++ [e] }
    | record timestamp nonce =>
      exact ih _ { w with replay := w.replay.touch (ReplayGuard.key timestamp nonce) }
    | store call =>
      rcases isAnswer : backend call w.store with ⟨answer, store⟩
      have answers : WorldOf.answer backend (.store call) w.general = (answer, { w.general with store }) := by
        rw [WorldOf.answer_store, show backend call w.general.store = (answer, store) from isAnswer]
      rw [run_store isAnswer, Program.run, answers]
      cases answer with
      | none => rfl
      | some a => exact ih a { w with store }

/-- What a program hears in a run. -/
def Program.heard {α σ : Type} (answer : (c : Call) → σ → Option c.Answer × σ) : Program α → σ → List Exchange
  | .done _, _ => []
  | .abort, _ => []
  | .call c next, s =>
    match answer c s with
    | (some a, s) => c.heard a ++ heard answer (next a) s
    | (none, _) => []

/-- The failure that a call on the store has been answered with. -/
def Exchange.failure? : Exchange → Option StoreError
  | .store _ (.error e) => some e
  | _ => none

/-! ### Settled on an end -/

namespace Program

variable {ι α σ τ : Type}

theorem Settled.ends_of {ends : α → Prop} {p : Program α} (settled : p.Settled ends)
    (backend : StoreCall → σ → Option StoreAnswer × σ) (w : WorldOf σ) :
    ∃ a, (p.run (WorldOf.answer backend) w).1 = some a ∧ ends a := by
  induction p generalizing w with
  | done a => exact ⟨a, rfl, settled⟩
  | abort => exact settled.elim
  | call c next ih =>
    cases c with
    | log e => exact ih () settled { w with log := w.log ++ [e] }
    | _ => exact settled.elim

/-- What is heard first is heard of the call made first. -/
theorem heard_call {answer : (c : Call) → σ → Option c.Answer × σ} {c : Call} {next : c.Answer → Program α} {s : σ}
    {x : Exchange} {rest : List Exchange} (single : ∀ a, ∃ y, c.heard a = [y])
    (heard : (Program.call c next).heard answer s = x :: rest) :
    ∃ a later, c.heard a = [x] ∧ (next a).heard answer later = rest ∧
      (Program.call c next).run answer s = (next a).run answer later := by
  unfold Program.heard at heard
  split at heard
  next a later answered =>
    obtain ⟨y, isFirst⟩ := single a
    rw [isFirst] at heard
    obtain ⟨rfl, isRest⟩ := List.cons.inj heard
    refine ⟨a, later, isFirst, isRest, ?_⟩
    rw [Program.run, answered]
  · cases heard

/-- Two runs that hear the same of the call made first go on alike. -/
theorem heard_both {answer : (c : Call) → σ → Option c.Answer × σ} {other : (c : Call) → τ → Option c.Answer × τ}
    {c : Call} {next : c.Answer → Program α} {s : σ} {t : τ} {x : Exchange} {rest rest' : List Exchange}
    (single : ∀ a, ∃ y, c.heard a = [y]) (told : ∀ a b, c.heard a = c.heard b → a = b)
    (heard : (Program.call c next).heard answer s = x :: rest)
    (heardToo : (Program.call c next).heard other t = x :: rest') :
    ∃ a later later', (next a).heard answer later = rest ∧ (next a).heard other later' = rest' ∧
      (Program.call c next).run answer s = (next a).run answer later ∧
      (Program.call c next).run other t = (next a).run other later' := by
  obtain ⟨a, later, isFirst, goesOn, runs⟩ := heard_call single heard
  obtain ⟨b, later', isFirstToo, goesOnToo, runsToo⟩ := heard_call single heardToo
  obtain rfl := told a b (isFirst.trans isFirstToo.symm)
  exact ⟨a, later, later', goesOn, goesOnToo, runs, runsToo⟩

/-- Two runs that hear the same until the store is out come to the same end, whatever the details. -/
theorem Orderly.out_alike {ends : Ends ι α} {may : String → String → Prop} {p : Program α}
    (orderly : p.Orderly ends may) {backend : StoreCall → σ → Option StoreAnswer × σ}
    {other : StoreCall → τ → Option StoreAnswer × τ} {w : WorldOf σ} {v : WorldOf τ} {call : StoreCall}
    {detail detail' : String} {before after after' : List Exchange} (unfailed : ∀ x ∈ before, x.failure? = none)
    (heard : p.heard (WorldOf.answer backend) w = before ++ .store call (.error (.unavailable detail)) :: after)
    (heardToo : p.heard (WorldOf.answer other) v = before ++ .store call (.error (.unavailable detail')) :: after') :
    ∃ i, (∃ a, (p.run (WorldOf.answer backend) w).1 = some a ∧ ends.out i a) ∧
      ∃ a, (p.run (WorldOf.answer other) v).1 = some a ∧ ends.out i a := by
  induction orderly generalizing w v before with
  | done | abort => simp [Program.heard] at heard
  | @log _ e next _ _ ih =>
    exact ih (w := { w with log := w.log ++ [e] }) (v := { v with log := v.log ++ [e] }) unfailed heard heardToo
  | @record _ timestamp nonce next _ _ ih =>
    cases before with
    | nil =>
      obtain ⟨_, _, isFirst, -⟩ := heard_call (fun a => ⟨_, rfl⟩) heard
      cases isFirst
    | cons x before =>
      obtain ⟨fresh, _, _, rest, restToo, runs, runsToo⟩ :=
        heard_both (fun a => ⟨_, rfl⟩) (fun a b same => by cases same; rfl) heard heardToo
      rw [runs, runsToo]
      exact ih fresh (fun x member => unfailed x (List.mem_cons_of_mem _ member)) rest restToo
  | @store _ asked next i out _ _ ih =>
    cases before with
    | nil =>
      obtain ⟨a, later, isFirst, -, runs⟩ := heard_call (fun a => ⟨_, rfl⟩) heard
      obtain ⟨b, later', isFirstToo, -, runsToo⟩ := heard_call (fun a => ⟨_, rfl⟩) heardToo
      cases isFirst
      cases isFirstToo
      rw [runs, runsToo]
      exact ⟨i, (out detail).ends_of backend _, (out detail').ends_of other _⟩
    | cons x before =>
      obtain ⟨a, _, _, rest, restToo, runs, runsToo⟩ :=
        heard_both (fun a => ⟨_, rfl⟩) (fun a b same => by cases same; rfl) heard heardToo
      rw [runs, runsToo]
      exact ih a (fun x member => unfailed x (List.mem_cons_of_mem _ member)) rest restToo

end Program

namespace Service

/-- A store's outage is answered by a status of the service's own, and by a response that does not tell the detail:
whatever the stores are, two runs that hear the same until a first call fails, and that find the store unavailable
then, are answered alike. -/
theorem outage_answered {σ τ : Type} (s : Service) (request : Request) (newId : String) (now : Instant)
    {backend : StoreCall → σ → Option StoreAnswer × σ} {other : StoreCall → τ → Option StoreAnswer × τ} {w : WorldOf σ}
    {v : WorldOf τ} {call : StoreCall} {detail detail' : String} {before after after' : List Exchange}
    (unfailed : ∀ x ∈ before, x.failure? = none)
    (heard : (s.handle request newId now).heard (WorldOf.answer backend) w =
      before ++ .store call (.error (.unavailable detail)) :: after)
    (heardToo : (s.handle request newId now).heard (WorldOf.answer other) v =
      before ++ .store call (.error (.unavailable detail')) :: after') :
    ∃ response : Response, response.status = (if s.route? request = some .ready then 503 else 500) ∧
      ((s.handle request newId now).run (WorldOf.answer backend) w).1 = some response ∧
      ((s.handle request newId now).run (WorldOf.answer other) v).1 = some response := by
  obtain ⟨response, ⟨r, ended, rfl, isStatus⟩, ⟨r', endedToo, rfl, -⟩⟩ :=
    (s.handle_orderly request newId now).out_alike unfailed heard heardToo
  exact ⟨_, isStatus, ended, endedToo⟩

end Service

/-! ### A new name while the store is out -/

/-- A store that is out; its state says why. -/
def Sample.out : StoreCall → String → Option StoreAnswer × String := fun _ detail =>
  (some (.error (.unavailable detail)), detail)

/-- Whoever presents a session finds out with the first look-up. -/
theorem Service.heard_out {s : Service} {request : Request} {now : Instant} {segment token : String} {claims : Claims}
    (notOptions : request.method ≠ .options) (small : request.body.length ≤ maxBody)
    (place : s.route? request = some (.user segment)) (presented : Session.presented? request.headers = some token)
    (parses : s.tokens.parse token now = some (.ok claims)) (newId detail : String) :
    (s.handle request newId now).heard (WorldOf.answer Sample.out) ⟨detail, .new 0, []⟩ =
      [.store (.findByEmail claims.subject) (.error (.unavailable detail))] := by
  unfold handle
  dsimp only
  rw [if_neg notOptions]
  unfold logged
  rw [if_neg (Nat.not_lt.mpr small), place]
  unfold endpoint
  dsimp only
  unfold withPrincipal principalOf
  rw [presented]
  unfold Session.resolve
  dsimp only
  rw [parses]
  rfl

theorem Sample.rename_heard (nonce detail : String) :
    (service.handle (rename nonce) "" ⟨60, 0⟩).heard (WorldOf.answer out) ⟨detail, .new 0, []⟩ =
      [.store (.findByEmail "a") (.error (.unavailable detail))] := by
  have isPatch : (rename nonce).method ≠ .options := show Http.Method.patch ≠ .options by decide
  have small : (rename nonce).body.length ≤ Service.maxBody := show newName.length ≤ _ by decide +kernel
  exact Service.heard_out isPatch small (rename_route nonce) (rename_presented nonce) token_parses "" detail

theorem Service.outage_answered_rename :
    ∃ response : Response,
      response.status = (if Sample.service.route? (Sample.rename "aaaaaaaaaaaaaaaaaaaa") = some .ready then 503 else 500) ∧
      ((Sample.service.handle (Sample.rename "aaaaaaaaaaaaaaaaaaaa") "" ⟨60, 0⟩).run (WorldOf.answer Sample.out)
        ⟨"timeout", .new 0, []⟩).1 = some response ∧
      ((Sample.service.handle (Sample.rename "aaaaaaaaaaaaaaaaaaaa") "" ⟨60, 0⟩).run (WorldOf.answer Sample.out)
        ⟨"disk full", .new 0, []⟩).1 = some response :=
  Service.outage_answered Sample.service (Sample.rename "aaaaaaaaaaaaaaaaaaaa") "" ⟨60, 0⟩
    (List.forall_mem_nil _)
    (Sample.rename_heard "aaaaaaaaaaaaaaaaaaaa" "timeout") (Sample.rename_heard "aaaaaaaaaaaaaaaaaaaa" "disk full")

end Countersign
