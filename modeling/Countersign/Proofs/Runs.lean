import Countersign.Proofs.Conduct
import Countersign.Proofs.Stores

/-!
What a program hears when it runs on its own.

`Memory.Hears` says which histories a store and a replay guard answer, `Memory.after` what they are then. A
program that keeps to a conduct runs through such a history and asks only what it may (`Program.Keeps.run`).
-/

namespace Countersign

/-- What programs share, the log apart. -/
structure Memory where
  store : Store
  replay : ReplayGuard

def World.memory (w : World) : Memory := ⟨w.store, w.replay⟩

@[simp] theorem World.memory_store (w : World) : w.memory.store = w.store := rfl

namespace Exchange

/-- Whether a question would be answered as it is here. -/
def Fits (backend : Backend) (m : Memory) : Exchange → Prop
  | .store call answer => (backend call m.store).1 = some answer
  | .record timestamp nonce fresh => (m.replay.record timestamp nonce).1 = fresh

/-- What is left behind by an exchange. -/
def next (backend : Backend) (m : Memory) : Exchange → Memory
  | .store call _ => { m with store := (backend call m.store).2 }
  | .record timestamp nonce _ => { m with replay := (m.replay.record timestamp nonce).2 }

end Exchange

namespace Memory

/-- Whether each question of a history would be answered as it is there. -/
def Hears (backend : Backend) : Memory → List Exchange → Prop
  | _, [] => True
  | m, x :: h => x.Fits backend m ∧ Hears backend (x.next backend m) h

def after (backend : Backend) (m : Memory) (h : List Exchange) : Memory := h.foldl (Exchange.next backend) m

variable {backend : Backend}

theorem after_append (m : Memory) (h rest : List Exchange) :
    m.after backend (h ++ rest) = (m.after backend h).after backend rest :=
  List.foldl_append

theorem hears_append (m : Memory) (h rest : List Exchange) :
    m.Hears backend (h ++ rest) ↔ m.Hears backend h ∧ (m.after backend h).Hears backend rest := by
  induction h generalizing m with
  | nil => exact (iff_of_eq (true_and _)).symm
  | cons x h ih =>
    show x.Fits backend m ∧ (x.next backend m).Hears backend (h ++ rest) ↔ _
    rw [ih, ← and_assoc]
    rfl

/-- Only an update that is granted changes the store. -/
theorem store_next (working : backend.Working) {m : Memory} {x : Exchange} (fits : x.Fits backend m)
    (ungranted : ∀ user fields saved, x ≠ .store (.update user fields) (.ok saved)) :
    (x.next backend m).store = m.store := by
  cases x with
  | record timestamp nonce fresh => rfl
  | store call answer =>
    show (backend call m.store).2 = m.store
    have isAnswer : (backend call m.store).1 = some answer := fits
    cases call with
    | update user fields =>
      rw [working.update] at isAnswer ⊢
      refine Store.update_refused fun saved granted => ungranted user fields saved ?_
      rw [isAnswer] at granted
      rw [Option.some.inj granted]
    | _ => exact working.looks (by trivial) m.store

theorem store_after (working : backend.Working) {m : Memory} {h : List Exchange}
    (hears : m.Hears backend h)
    (ungranted : ∀ user fields saved, .store (.update user fields) (.ok saved) ∉ h) :
    (m.after backend h).store = m.store := by
  induction h generalizing m with
  | nil => rfl
  | cons x h ih =>
    obtain ⟨fits, later⟩ := hears
    have first := store_next working fits fun user fields saved same =>
      ungranted user fields saved (same ▸ List.mem_cons_self)
    exact (ih later fun user fields saved member =>
      ungranted user fields saved (List.mem_cons_of_mem x member)).trans first

end Memory

/-- Every question of a history was allowed when it was put. -/
def Asked (asks : Questions) (h : List Exchange) : Prop :=
  ∀ before call answer, before ++ [.store call answer] <+: h → asks before call

theorem Asked.between {asks : Questions} {before rest : List Exchange} {call : StoreCall}
    {answer : StoreAnswer} (asked : Asked asks (before ++ .store call answer :: rest)) : asks before call :=
  asked before call answer ⟨rest, by simp⟩

theorem asked_append {asks : Questions} {h : List Exchange} (asked : Asked asks h) {c : Call}
    (allowed : c.AllowedBy asks h) (answer : c.Answer) : Asked asks (h ++ c.heard answer) := by
  cases c with
  | log e =>
    rw [Call.heard, List.append_nil]
    exact asked
  | record timestamp nonce =>
    intro before call a begins
    rcases List.prefix_concat_iff.mp begins with same | earlier
    · cases (List.append_inj' same rfl).2
    · exact asked before call a earlier
  | store c =>
    intro before call a begins
    rcases List.prefix_concat_iff.mp begins with same | earlier
    · obtain ⟨rfl, isLast⟩ := List.append_inj' same rfl
      cases isLast
      exact allowed
    · exact asked before call a earlier

theorem World.memory_answer {backend : Backend} {c : Call} {w later : World} {answer : c.Answer}
    (answered : World.answerWith backend c w = (some answer, later)) :
    w.memory.Hears backend (c.heard answer) ∧ later.memory = w.memory.after backend (c.heard answer) := by
  cases c with
  | log e =>
    cases answered
    exact ⟨trivial, rfl⟩
  | record timestamp nonce =>
    cases answered
    exact ⟨⟨rfl, trivial⟩, rfl⟩
  | store call =>
    have same : ((backend call w.store).1, { w with store := (backend call w.store).2 }) =
        (some answer, later) := answered
    obtain ⟨isAnswer, rfl⟩ := Prod.mk.inj same
    exact ⟨⟨isAnswer, trivial⟩, rfl⟩

/-- Only an update can be left without an answer, and then nothing is written. -/
theorem World.memory_unanswered {backend : Backend} (working : backend.Working) {c : Call} {w later : World}
    (unanswered : World.answerWith backend c w = (none, later)) : later.memory = w.memory := by
  cases c with
  | log e => cases unanswered
  | record timestamp nonce => cases unanswered
  | store call =>
    have same : ((backend call w.store).1, { w with store := (backend call w.store).2 }) =
        (none, later) := unanswered
    obtain ⟨isNone, rfl⟩ := Prod.mk.inj same
    have kept : (backend call w.store).2 = w.store := by
      cases call with
      | update user fields =>
        rw [working.update] at isNone ⊢
        exact Store.update_refused fun saved granted => by simp [isNone] at granted
      | _ => exact working.looks (by trivial) w.store
    show Memory.mk _ _ = Memory.mk _ _
    rw [kept]

theorem Program.run_bind {α β σ : Type} (answer : (c : Call) → σ → Option c.Answer × σ) (p : Program α)
    (f : α → Program β) (s : σ) :
    (p >>= f).run answer s =
      match p.run answer s with
      | (some a, later) => (f a).run answer later
      | (none, later) => (none, later) := by
  induction p generalizing s with
  | done a => rfl
  | abort => rfl
  | call c next ih =>
    show (Program.call c fun a => next a >>= f).run answer s = _
    rw [Program.run, Program.run]
    split
    · exact ih ..
    · rfl

theorem Program.run_bind_of_ends {α β σ : Type} {answer : (c : Call) → σ → Option c.Answer × σ} {p : Program α}
    {s later : σ} {a : α} (ran : p.run answer s = (some a, later)) (f : α → Program β) :
    (p >>= f).run answer s = (f a).run answer later := by
  rw [run_bind, ran]

theorem Program.run_store {α : Type} {backend : Backend} {call : StoreCall}
    {next : (Call.store call).Answer → Program α} {w : World} {answer : Option StoreAnswer} {store : Store}
    (answered : backend call w.store = (answer, store)) :
    (Program.call (.store call) next).run (World.answerWith backend) w =
      match answer with
      | some a => (next a).run (World.answerWith backend) { w with store }
      | none => (none, { w with store }) := by
  have answers : World.answerWith backend (.store call) w = (answer, { w with store }) := by
    show ((backend call w.store).1, { w with store := (backend call w.store).2 }) = _
    rw [answered]
  rw [Program.run, answers]
  cases answer with
  | some a => rfl
  | none => rfl

/-- A program that keeps to a conduct runs through a history that does, and leaves behind what that history
does. -/
theorem Program.Keeps.run {α : Type} {backend : Backend} (working : backend.Working) {asks : Questions}
    {ends : List Exchange → α → Prop} {start : Memory} {w : World} {h : List Exchange} {p : Program α}
    (keeps : p.Keeps asks ends h) (asked : Asked asks h) (hears : start.Hears backend h)
    (reached : w.memory = start.after backend h) :
    ∃ heard, Asked asks heard ∧ start.Hears backend heard ∧
      (p.run (World.answerWith backend) w).2.memory = start.after backend heard ∧
      ∀ a, (p.run (World.answerWith backend) w).1 = some a → ends heard a := by
  induction p generalizing w h with
  | done a =>
    refine ⟨h, asked, hears, reached, ?_⟩
    rintro _ ⟨⟩
    exact keeps
  | abort =>
    refine ⟨h, asked, hears, reached, ?_⟩
    rintro _ ⟨⟩
  | call c next ih =>
    unfold Program.run
    split
    next answer later answered =>
      obtain ⟨heard, leads⟩ := World.memory_answer answered
      refine ih answer (keeps.2 answer) (asked_append asked keeps.1 answer) ?_ ?_
      · rw [Memory.hears_append, ← reached]
        exact ⟨hears, heard⟩
      · rw [Memory.after_append, ← reached, leads]
    next later unanswered =>
      refine ⟨h, asked, hears, (World.memory_unanswered working unanswered).trans reached, ?_⟩
      rintro _ ⟨⟩

end Countersign
