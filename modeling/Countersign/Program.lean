import Countersign.Event
import Countersign.Replay
import Countersign.Store.Outage

/-!
Programs over shared state.

A program is a tree of calls, each of which happens at once: on the user store, on the replay guard, on the
log. What lies between two calls depends on their answers alone. So one tree serves a run on its own
(`run`), a run among others that take turns with it, and a run against answers of any origin. A call that
is not answered ends the run.
-/

namespace Countersign

/-- What a program may ask of the state it shares with others. -/
inductive Call where
  | store (call : StoreCall)
  /-- Note a request by its instant and nonce. -/
  | record (timestamp nonce : String)
  | log (event : Event)

/-- What a call is answered with; for a request noted, whether it is new. -/
def Call.Answer : Call → Type
  | .store _ => StoreAnswer
  | .record _ _ => Bool
  | .log _ => Unit

/-- A program that gives a result of type `α`. -/
inductive Program (α : Type) where
  | done (result : α)
  /-- The end without a result: an instant is out of reach of the calendar or the clock. -/
  | abort
  | call (c : Call) (next : c.Answer → Program α)

namespace Program

variable {α β σ : Type}

def bind : Program α → (α → Program β) → Program β
  | .done a, f => f a
  | .abort, _ => .abort
  | .call c next, f => .call c fun answer => bind (next answer) f

instance : Monad Program where
  pure := .done
  bind := bind

/-- Asks the store. -/
def store (c : StoreCall) : Program StoreAnswer := .call (.store c) .done

/-- Whether a request is new; it is not from then on. -/
def record (timestamp nonce : String) : Program Bool := .call (.record timestamp nonce) .done

def log (event : Event) : Program Unit := .call (.log event) .done

def logAll (events : List Event) : Program Unit := events.forM log

/-- A result; if there is none, the end without one. -/
def ofOption : Option α → Program α
  | some a => .done a
  | none => .abort

/-- Runs a program on its own, calls being answered from a state; there is no result if a call has no answer. -/
def run (answer : (c : Call) → σ → Option c.Answer × σ) : Program α → σ → Option α × σ
  | .done a, s => (some a, s)
  | .abort, s => (none, s)
  | .call c next, s =>
    match answer c s with
    | (some a, s) => run answer (next a) s
    | (none, s) => (none, s)

end Program

/-- The state that programs share. -/
structure World where
  store : Store := .empty
  replay : ReplayGuard
  log : List Event := []

namespace World

/-- Answers a call with the help of a store's backend. -/
def answerWith (backend : Backend) : (c : Call) → World → Option c.Answer × World
  | .store c, w =>
    let (a, store) := backend c w.store
    (a, { w with store })
  | .record timestamp nonce, w =>
    let (fresh, replay) := w.replay.record timestamp nonce
    (some fresh, { w with replay })
  | .log e, w => (some (), { w with log := w.log ++ [e] })

/-- Answers a call. -/
def answer : (c : Call) → World → Option c.Answer × World :=
  answerWith fun c store => store.answer c

end World

end Countersign
