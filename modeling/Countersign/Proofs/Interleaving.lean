import Countersign.Proofs.Runs

/-!
Programs that take turns.

A turn is one call with its answer (`Program.step`), so between two turns of a program the others may do
anything. `Interleaving.pool` is what a schedule of turns leads to, `Interleaving.heard` what each program has
heard by then. A program keeps to its conduct however the turns go (`Interleaving.keeps`), and all that it has
heard it has heard at some turn of its own (`Interleaving.heard_split`). A program that takes all the turns does
what it does on its own (`Interleaving.alone`).
-/

namespace Countersign

open Http (Response)

variable {ι α : Type}

/-- The next call of a program in a world: what it hears, how it goes on, and the world afterwards. -/
def Program.step (backend : Backend) : Program α → World → List Exchange × Program α × World
  | .call c next, w =>
    match World.answerWith backend c w with
    | (some answer, later) => (c.heard answer, next answer, later)
    | (none, later) => ([], .abort, later)
  | .done a, w => ([], .done a, w)
  | .abort, w => ([], .abort, w)

namespace Program

variable {backend : Backend}

/-- A run on its own takes one step after the other. -/
theorem run_step (p : Program α) (w : World) :
    (p.step backend w).2.1.run (World.answerWith backend) (p.step backend w).2.2 =
      p.run (World.answerWith backend) w := by
  cases p with
  | done a => rfl
  | abort => rfl
  | call c next =>
    rw [step, run]
    split
    next answer later answered => rw [answered]
    next later unanswered =>
      rw [unanswered]
      rfl

theorem step_keeps {asks : Questions} {ends : List Exchange → α → Prop} {p : Program α}
    {h : List Exchange} (keeps : p.Keeps asks ends h) (asked : Asked asks h) (w : World) :
    (p.step backend w).2.1.Keeps asks ends (h ++ (p.step backend w).1) ∧
      Asked asks (h ++ (p.step backend w).1) := by
  cases p with
  | done a =>
    rw [step, List.append_nil]
    exact ⟨keeps, asked⟩
  | abort =>
    rw [step, List.append_nil]
    exact ⟨keeps, asked⟩
  | call c next =>
    rw [step]
    split
    next answer later answered => exact ⟨keeps.2 answer, asked_append asked keeps.1 answer⟩
    next later unanswered =>
      rw [List.append_nil]
      exact ⟨trivial, asked⟩

/-- What is heard at a step fits the world before it, and leaves behind the world after it. -/
theorem step_heard {p : Program α} {w : World} {x : Exchange} (heard : (p.step backend w).1 = [x]) :
    x.Fits backend w.memory ∧ (p.step backend w).2.2.memory = x.next backend w.memory := by
  cases p with
  | done a => cases heard
  | abort => cases heard
  | call c next =>
    rw [step] at heard ⊢
    split at heard
    next answer later answered =>
      obtain ⟨fits, leads⟩ := World.memory_answer answered
      replace heard : c.heard answer = [x] := heard
      rw [heard] at fits leads
      exact ⟨fits.1, leads⟩
    next later unanswered => cases heard

theorem step_heard_cases (p : Program α) (w : World) :
    (p.step backend w).1 = [] ∨ ∃ x, (p.step backend w).1 = [x] := by
  cases p with
  | done a => exact .inl rfl
  | abort => exact .inl rfl
  | call c next =>
    rw [step]
    split
    next answer later answered =>
      cases c with
      | log e => exact .inl rfl
      | store call => exact .inr ⟨_, rfl⟩
      | record timestamp nonce => exact .inr ⟨_, rfl⟩
    next later unanswered => exact .inl rfl

/-- A step at which nothing is heard leaves the replay guard as it is, and a store that works too. -/
theorem step_silent {p : Program α} {w : World} (silent : (p.step backend w).1 = []) :
    (p.step backend w).2.2.replay = w.replay ∧
      (backend.Working → (p.step backend w).2.2.store = w.store) := by
  cases p with
  | done a => exact ⟨rfl, fun _ => rfl⟩
  | abort => exact ⟨rfl, fun _ => rfl⟩
  | call c next =>
    rw [step] at silent ⊢
    cases c with
    | log e => exact ⟨rfl, fun _ => rfl⟩
    | record timestamp nonce => cases silent
    | store call =>
      split at silent
      next answer later answered => cases silent
      next later unanswered =>
        refine ⟨?_, fun working => congrArg Memory.store (World.memory_unanswered working unanswered)⟩
        obtain rfl := (Prod.mk.inj unanswered).2
        rfl

end Program

/-- Programs that start from a world, and whose turn it is when. -/
structure Interleaving (ι α : Type) where
  backend : Backend
  start : World
  programs : ι → Program α
  turns : Nat → ι

namespace Interleaving

variable [DecidableEq ι] (r : Interleaving ι α)

/-- The world after a number of turns, and how the programs go on from there. -/
def pool : Nat → World × (ι → Program α)
  | 0 => (r.start, r.programs)
  | n + 1 =>
    let (w, rest) := pool n
    let (_, p, later) := (rest (r.turns n)).step r.backend w
    (later, fun i => if i = r.turns n then p else rest i)

def world (n : Nat) : World := (r.pool n).1

def rest (n : Nat) (i : ι) : Program α := (r.pool n).2 i

/-- What the program whose turn it is hears. -/
def exchange (n : Nat) : List Exchange := ((r.rest n (r.turns n)).step r.backend (r.world n)).1

/-- What a program has heard in the first turns. -/
def heard (i : ι) : Nat → List Exchange
  | 0 => []
  | n + 1 => if r.turns n = i then heard i n ++ r.exchange n else heard i n

def Hears (n : Nat) (i : ι) (x : Exchange) : Prop := r.turns n = i ∧ r.exchange n = [x]

variable {r} {n : Nat} {i : ι}

theorem world_succ : r.world (n + 1) = ((r.rest n (r.turns n)).step r.backend (r.world n)).2.2 := rfl

theorem rest_succ : r.rest (n + 1) i =
    if i = r.turns n then ((r.rest n (r.turns n)).step r.backend (r.world n)).2.1 else r.rest n i := rfl

/-- A program that has had no turn is where it was. -/
theorem rest_of_waiting (waits : ∀ t < n, r.turns t ≠ i) : r.rest n i = r.programs i := by
  induction n with
  | zero => rfl
  | succ n ih =>
    rw [rest_succ, if_neg (Ne.symm (waits n (Nat.lt_succ_self n)))]
    exact ih fun t before => waits t (Nat.lt_succ_of_lt before)

/-- A program keeps to its conduct at every turn, its own and those of others. -/
theorem keeps {asks : ι → Questions} {ends : ι → List Exchange → α → Prop}
    (kept : ∀ i, (r.programs i).Keeps (asks i) (ends i) []) (n : Nat) (i : ι) :
    (r.rest n i).Keeps (asks i) (ends i) (r.heard i n) ∧ Asked (asks i) (r.heard i n) := by
  induction n with
  | zero => exact ⟨kept i, fun before call answer begins => by simp [heard] at begins⟩
  | succ n ih =>
    rw [rest_succ, heard]
    by_cases turn : r.turns n = i
    · subst turn
      rw [if_pos rfl, if_pos rfl]
      exact Program.step_keeps ih.1 ih.2 (r.world n)
    · rw [if_neg (Ne.symm turn), if_neg turn]
      exact ih

theorem Hears.heard_succ {x : Exchange} (hears : r.Hears n i x) : r.heard i (n + 1) = r.heard i n ++ [x] := by
  obtain ⟨turn, heard⟩ := hears
  rw [Interleaving.heard, if_pos turn, heard]

/-- What is heard at a turn fits the world before it, and leaves behind the world after it. -/
theorem Hears.fits {x : Exchange} (hears : r.Hears n i x) :
    x.Fits r.backend (r.world n).memory ∧
      (r.world (n + 1)).memory = x.next r.backend (r.world n).memory := by
  rw [world_succ]
  exact Program.step_heard hears.2

/-- A program that takes all the turns from one on ends as it does when it runs on its own. -/
theorem alone (only : ∀ t, n ≤ t → r.turns t = i) : ∃ m, n ≤ m ∧
    (∀ c next, r.rest m i ≠ .call c next) ∧
    (r.rest m i).run (World.answerWith r.backend) (r.world m) =
      (r.rest n i).run (World.answerWith r.backend) (r.world n) := by
  generalize isRest : r.rest n i = p
  induction p generalizing n with
  | done a =>
    refine ⟨n, Nat.le_refl n, ?_, by rw [isRest]⟩
    intro c next same
    cases isRest.symm.trans same
  | abort =>
    refine ⟨n, Nat.le_refl n, ?_, by rw [isRest]⟩
    intro c next same
    cases isRest.symm.trans same
  | call c next ih =>
    have turn : r.turns n = i := only n (Nat.le_refl n)
    have later : ∀ t, n + 1 ≤ t → r.turns t = i := fun t after => only t (by omega)
    have isWorld : r.world (n + 1) = ((Program.call c next).step r.backend (r.world n)).2.2 := by
      rw [world_succ, turn, isRest]
    have goesOn : r.rest (n + 1) i = ((Program.call c next).step r.backend (r.world n)).2.1 := by
      rw [rest_succ, if_pos turn.symm, turn, isRest]
    rw [← Program.run_step, ← isWorld, ← goesOn]
    cases answered : World.answerWith r.backend c (r.world n) with
    | mk answer world =>
      rw [Program.step, answered] at goesOn
      cases answer with
      | some a =>
        obtain ⟨m, after, ended, same⟩ := ih a later goesOn
        exact ⟨m, by omega, ended, by rw [same, goesOn]⟩
      | none =>
        refine ⟨n + 1, by omega, ?_, rfl⟩
        intro c next same
        cases goesOn.symm.trans same

/-- All that a program has heard it has heard at a turn of its own. -/
theorem heard_split {before : List Exchange} {x : Exchange} (heard : before ++ [x] <+: r.heard i n) :
    ∃ k < n, r.Hears k i x ∧ r.heard i k = before := by
  induction n with
  | zero => simp [Interleaving.heard] at heard
  | succ n ih =>
    have earlier (heard : before ++ [x] <+: r.heard i n) :
        ∃ k < n + 1, r.Hears k i x ∧ r.heard i k = before := by
      obtain ⟨k, lower, found⟩ := ih heard
      exact ⟨k, by omega, found⟩
    rw [Interleaving.heard] at heard
    by_cases turn : r.turns n = i
    · rw [if_pos turn] at heard
      rcases Program.step_heard_cases (r.rest n (r.turns n)) (r.world n) with silent | ⟨y, single⟩
      · rw [show r.exchange n = [] from silent, List.append_nil] at heard
        exact earlier heard
      · replace single : r.exchange n = [y] := single
        rw [single] at heard
        -- It is the last thing heard, or it has been heard before.
        rcases List.prefix_concat_iff.mp heard with all | begins
        · obtain ⟨same, isLast⟩ := List.append_inj' all rfl
          cases isLast
          exact ⟨n, by omega, ⟨turn, single⟩, same.symm⟩
        · exact earlier begins
    · rw [if_neg turn] at heard
      exact earlier heard

theorem heard_of_mem {x : Exchange} (member : x ∈ r.heard i n) : ∃ k < n, r.Hears k i x := by
  obtain ⟨before, later, heard⟩ := List.append_of_mem member
  have begins : before ++ [x] <+: r.heard i n := ⟨later, by rw [heard, List.append_assoc]; rfl⟩
  obtain ⟨k, lower, hears, -⟩ := heard_split begins
  exact ⟨k, lower, hears⟩

theorem heard_grows {m n : Nat} (first : m ≤ n) (i : ι) : r.heard i m <+: r.heard i n := by
  induction n with
  | zero =>
    obtain rfl := Nat.le_zero.mp first
    exact List.prefix_rfl
  | succ n ih =>
    rcases Nat.le_succ_iff.mp first with earlier | rfl
    · refine (ih earlier).trans ?_
      rw [heard]
      split
      · exact List.prefix_append ..
      · exact List.prefix_rfl
    · exact List.prefix_rfl

/-- At a turn an update is granted, or the store stays as it is. -/
theorem store_succ (working : r.backend.Working) (n : Nat) :
    (∃ user fields saved, r.exchange n = [.store (.update user fields) (.ok saved)]) ∨
      (r.world (n + 1)).store = (r.world n).store ∧
        ∀ x ∈ r.exchange n, ∀ user fields saved, x ≠ .store (.update user fields) (.ok saved) := by
  by_cases granted : ∃ user fields saved, r.exchange n = [.store (.update user fields) (.ok saved)]
  · exact .inl granted
  · right
    rcases Program.step_heard_cases (r.rest n (r.turns n)) (r.world n) with silent | ⟨x, single⟩
    · refine ⟨(Program.step_silent silent).2 working, fun x member => ?_⟩
      rw [show r.exchange n = [] from silent] at member
      cases member
    · replace single : r.exchange n = [x] := single
      have ungranted : ∀ user fields saved, x ≠ .store (.update user fields) (.ok saved) := by
        rintro user fields saved rfl
        exact granted ⟨user, fields, saved, single⟩
      obtain ⟨fits, leads⟩ := Hears.fits (r := r) ⟨rfl, single⟩
      refine ⟨?_, fun y member => ?_⟩
      · exact (congrArg Memory.store leads).trans (Memory.store_next working fits ungranted)
      · rw [single, List.mem_singleton] at member
        rw [member]
        exact ungranted

theorem grows (working : r.backend.Working) {m n : Nat} (first : m ≤ n) :
    (r.world m).store.Grows (r.world n).store := by
  induction n with
  | zero =>
    obtain rfl := Nat.le_zero.mp first
    exact .refl _
  | succ n ih =>
    rcases Nat.le_succ_iff.mp first with earlier | rfl
    · refine (ih earlier).trans ?_
      rcases store_succ working n with ⟨user, fields, saved, single⟩ | ⟨same, -⟩
      · have hears : r.Hears n (r.turns n) _ := ⟨rfl, single⟩
        rw [show (r.world (n + 1)).store = _ from congrArg Memory.store hears.fits.2]
        exact working.grows (.update user fields) (r.world n).store
      · rw [same]
        exact .refl _
    · exact .refl _

/-- Whether a program has ended with an answer of status 200. -/
def Succeeded (r : Interleaving ι Response) (n : Nat) (i : ι) : Prop :=
  ∃ a, r.rest n i = .done a ∧ a.status = 200

end Interleaving

end Countersign
