import Countersign.Proofs.Guards
import Countersign.Proofs.Progress

/-!
One nonce, one success.

Requests that arrive at any time take turns (`Serving`). Each that is answered 200 for a signed change has been
noted once, as new, by the one guard that all of them share (`Service.Succeeds.noted`). The guard finds a pair
new again only after it has been given as many others as it has room for (`Interleaving.crowded_between`).
-/

namespace Countersign

open Http (Request Response)

/-- The pair under which an exchange notes a request, and whether it was new. -/
def Exchange.note? : Exchange → Option ((String × String) × Bool)
  | .record timestamp nonce fresh => some ((timestamp, nonce), fresh)
  | .store _ _ => none

/-- A request for a change that has to be signed: a login with a signature, a refresh, or a new name. -/
def Http.Request.Signs (r : Request) : Prop :=
  (r.method = .put ∧ (r.headers.first? Signature.signatureHeader).isSome = true) ∨ r.method = .post ∨
    r.method = .patch

namespace Http.Request.Signs

variable {r : Request}

theorem not_reads (signs : r.Signs) : ¬ r.Reads := by
  unfold Request.Reads
  rcases signs with ⟨isPut, -⟩ | isPost | isPatch
  · rw [isPut]
    decide
  · rw [isPost]
    decide
  · rw [isPatch]
    decide

theorem not_delete (signs : r.Signs) : r.method ≠ .delete := by
  rcases signs with ⟨isPut, -⟩ | isPost | isPatch
  · rw [isPut]
    decide
  · rw [isPost]
    decide
  · rw [isPatch]
    decide

theorem signed (signs : r.Signs) (isPut : r.method = .put) :
    (r.headers.first? Signature.signatureHeader).isSome = true := by
  rcases signs with ⟨-, signed⟩ | isPost | isPatch
  · exact signed
  · exact absurd (isPut.symm.trans isPost) (by decide)
  · exact absurd (isPut.symm.trans isPatch) (by decide)

end Http.Request.Signs

/-- The pair under which a request is to be noted. -/
def Http.Request.Bears (r : Request) (timestamp nonce : String) : Prop :=
  r.headers.text? Signature.timestampHeader = some timestamp ∧
    r.headers.text? Signature.nonceHeader = some nonce

theorem Stamp.Valid.bears {request : Request} {secret : Bytes} {now : Instant} {stamp : Stamp}
    (valid : stamp.Valid request.signed secret now) : request.Bears stamp.timestamp stamp.nonce :=
  Stamp.texts_of_read valid.read

/-- A signed change that is answered 200 has been noted once, and was new. -/
theorem Service.Succeeds.noted {s : Service} {request : Request} {now : Instant} {h : List Exchange}
    (succeeds : s.Succeeds request now h) (signs : request.Signs) :
    ∃ timestamp nonce, request.Bears timestamp nonce ∧
      h.filterMap Exchange.note? = [((timestamp, nonce), true)] := by
  rcases succeeds with reads | ⟨before, handler, after, reached, rfl, succeeds⟩
  · exact absurd reads signs.not_reads
  · cases succeeds with
    | key unsigned =>
      cases reached with
      | login isPut place =>
        have signed := signs.signed isPut
        rw [show request.headers.first? _ = none from unsigned] at signed
        cases signed
    | written writes =>
      cases reached with
      | login isPut place =>
        cases writes with
        | login signed isBody agreed valid verified issued => exact ⟨_, _, valid.bears, rfl⟩
      | refresh isPost place =>
        cases writes with
        | refresh isBody belongs named held valid issued => exact ⟨_, _, valid.bears, rfl⟩
      | logout isDelete place => exact absurd isDelete signs.not_delete
      | rename isPatch place named presented belongs =>
        cases writes with
        | rename passed isBody isName =>
          -- The gate lets a change pass only with a stamp.
          cases passed with
          | reading performs granted reads =>
            rw [show request.signed.method = .patch from isPatch] at reads
            cases reads
          | signed performs granted held valid => exact ⟨_, _, valid.bears, rfl⟩

namespace Interleaving

variable {ι α : Type} [DecidableEq ι] {r : Interleaving ι α} {n : Nat} {i j : ι}

/-! ### What is noted in the course of a run -/

theorem heard_done {a : α} (isDone : r.rest n i = .done a) {m : Nat} (later : n ≤ m) :
    r.rest m i = .done a ∧ r.heard i m = r.heard i n := by
  induction m with
  | zero =>
    obtain rfl := Nat.le_zero.mp later
    exact ⟨isDone, rfl⟩
  | succ m ih =>
    rcases Nat.le_succ_iff.mp later with earlier | rfl
    · obtain ⟨still, same⟩ := ih earlier
      rw [rest_succ, heard]
      by_cases turn : r.turns m = i
      · subst turn
        rw [if_pos rfl, if_pos rfl, exchange, still]
        exact ⟨rfl, (List.append_nil _).trans same⟩
      · rw [if_neg (Ne.symm turn), if_neg turn]
        exact ⟨still, same⟩
    · exact ⟨isDone, rfl⟩

theorem heard_both {k l : Nat} {x y : Exchange} (first : r.Hears k i x) (second : r.Hears l i y)
    (order : k < l) : [x, y].Sublist (r.heard i (l + 1)) := by
  rw [second.heard_succ, show [x, y] = [x] ++ [y] from rfl]
  refine List.Sublist.append ?_ (List.Sublist.refl [y])
  refine List.Sublist.trans ?_ (heard_grows order i).sublist
  rw [first.heard_succ]
  exact List.sublist_append_right _ _

/-- A program that has noted one pair when it ends has done so at one turn. -/
theorem noted_at {a : α} (isDone : r.rest n i = .done a) {timestamp nonce : String} {fresh : Bool}
    (once : (r.heard i n).filterMap Exchange.note? = [((timestamp, nonce), fresh)]) :
    ∃ k, r.Hears k i (.record timestamp nonce fresh) ∧
      ∀ t other pair new, r.Hears t i (.record other pair new) → t = k := by
  have member : ((timestamp, nonce), fresh) ∈ (r.heard i n).filterMap Exchange.note? := by
    rw [once]
    exact List.mem_singleton_self _
  obtain ⟨x, isHeard, isNote⟩ := List.mem_filterMap.mp member
  cases x with
  | store call answer => cases isNote
  | record timestamp' nonce' fresh' =>
    cases isNote
    obtain ⟨k, -, hears⟩ := heard_of_mem isHeard
    refine ⟨k, hears, fun t other pair new noted => ?_⟩
    -- Two turns would have left two notes.
    have notBoth {k l : Nat} {a b a' b' : String} {new new' : Bool}
        (first : r.Hears k i (.record a b new)) (second : r.Hears l i (.record a' b' new')) : ¬ k < l := by
      intro order
      have twice := ((heard_both first second order).filterMap Exchange.note?).trans
        ((heard_grows (Nat.le_max_right n (l + 1)) i).sublist.filterMap Exchange.note?)
      rw [(heard_done isDone (Nat.le_max_left n (l + 1))).2, once] at twice
      have length := twice.length_le
      simp [Exchange.note?] at length
    have notBefore := notBoth hears noted
    have notAfter := notBoth noted hears
    omega

/-- The pairs that are noted between two turns. -/
def NotedBetween (r : Interleaving ι α) (k l : Nat) (pair : String × String) : Prop :=
  ∃ t, k < t ∧ t < l ∧ ∃ i fresh, r.Hears t i (.record pair.1 pair.2 fresh)

theorem replay_succ (n : Nat) :
    (∃ timestamp nonce fresh, r.exchange n = [.record timestamp nonce fresh] ∧
      (r.world (n + 1)).replay = (r.world n).replay.touch (ReplayGuard.key timestamp nonce)) ∨
    (r.world (n + 1)).replay = (r.world n).replay := by
  rcases Program.step_heard_cases (r.rest n (r.turns n)) (r.world n) with silent | ⟨x, single⟩
  · exact .inr (Program.step_silent silent).1
  · have hears : r.Hears n (r.turns n) x := ⟨rfl, single⟩
    have leads := congrArg Memory.replay hears.fits.2
    cases x with
    | store call answer => exact .inr leads
    | record timestamp nonce fresh => exact .inl ⟨timestamp, nonce, fresh, single, leads⟩

theorem capacity_world (n : Nat) : (r.world n).replay.capacity = r.start.replay.capacity := by
  induction n with
  | zero => rfl
  | succ n ih =>
    rcases replay_succ (r := r) n with ⟨timestamp, nonce, fresh, -, touched⟩ | same
    · rw [touched]
      exact ih
    · rw [same]
      exact ih

/-- A pair that has been noted is remembered, the others being those noted since. -/
theorem remembers {k : Nat} {timestamp nonce : String} {fresh : Bool}
    (hears : r.Hears k i (.record timestamp nonce fresh)) (later : k < n) :
    (r.world n).replay.Remembers (ReplayGuard.key timestamp nonce) fun key =>
      ∃ pair : String × String, r.NotedBetween k n pair ∧ ReplayGuard.key pair.1 pair.2 = key := by
  induction n with
  | zero => omega
  | succ n ih =>
    rcases Nat.lt_succ_iff_lt_or_eq.mp later with earlier | rfl
    · have grown : ∀ key, (∃ pair : String × String, r.NotedBetween k n pair ∧
          ReplayGuard.key pair.1 pair.2 = key) →
          ∃ pair : String × String, r.NotedBetween k (n + 1) pair ∧ ReplayGuard.key pair.1 pair.2 = key := by
        rintro key ⟨pair, ⟨t, after, before, noted⟩, isKey⟩
        exact ⟨pair, ⟨t, after, by omega, noted⟩, isKey⟩
      rcases replay_succ (r := r) n with ⟨other, unique, new, single, touched⟩ | same
      · rw [touched]
        refine ReplayGuard.remembers_touch (ih earlier) grown fun _ => ?_
        exact ⟨(other, unique), ⟨n, earlier, by omega, r.turns n, new, rfl, single⟩, rfl⟩
      · rw [same]
        exact (ih earlier).mono grown
    · rw [show (r.world (k + 1)).replay = _ from congrArg Memory.replay hears.fits.2]
      exact ReplayGuard.remembers_touch_self ..

/-- A pair is found new again only after as many others have been noted as the guard has room for. -/
theorem crowded_between {k l : Nat} {timestamp nonce : String} {fresh : Bool}
    (first : r.Hears k i (.record timestamp nonce fresh)) (second : r.Hears l j (.record timestamp nonce true))
    (order : k < l) : ∃ others : List (String × String), others.Nodup ∧
      r.start.replay.capacity ≤ others.length ∧
      ∀ pair ∈ others, pair ≠ (timestamp, nonce) ∧ r.NotedBetween k l pair := by
  have isNew : (!(r.world l).replay.keys.contains (ReplayGuard.key timestamp nonce)) = true := second.fits.1
  have forgotten : ReplayGuard.key timestamp nonce ∉ (r.world l).replay.keys := by simpa using isNew
  have crowd := (remembers first order).crowd_pairs forgotten
  rw [capacity_world] at crowd
  exact crowd

end Interleaving

/-- Requests that arrive at a store and a guard that has seen nothing, each at an instant of its own, and that
take turns. -/
structure Serving (ι : Type) where
  service : Service
  backend : Backend
  store : Store
  capacity : Nat
  request : ι → Request
  newId : ι → String
  now : ι → Instant
  turns : Nat → ι

namespace Serving

variable {ι : Type} [DecidableEq ι]

def run (c : Serving ι) : Interleaving ι Response where
  backend := c.backend
  start := { store := c.store, replay := .new c.capacity }
  programs i := c.service.handle (c.request i) (c.newId i) (c.now i)
  turns := c.turns

/-- The one turn at which a request is noted, and found new. -/
def NotedAt (c : Serving ι) (i : ι) (timestamp nonce : String) (k : Nat) : Prop :=
  c.run.Hears k i (.record timestamp nonce true) ∧
    ∀ t other pair fresh, c.run.Hears t i (.record other pair fresh) → t = k

theorem noted_of_succeeded {c : Serving ι} {n : Nat} {i : ι} (succeeded : c.run.Succeeded n i)
    (signs : (c.request i).Signs) :
    ∃ timestamp nonce k, (c.request i).Bears timestamp nonce ∧ c.NotedAt i timestamp nonce k := by
  obtain ⟨r, isDone, ok⟩ := succeeded
  have keeps := (Interleaving.keeps (r := c.run)
    (fun i => c.service.handle_keeps (c.request i) (c.newId i) (c.now i)) n i).1
  rw [isDone] at keeps
  obtain ⟨timestamp, nonce, bears, once⟩ := Service.Succeeds.noted (keeps ok) signs
  obtain ⟨k, hears, only⟩ := Interleaving.noted_at isDone once
  exact ⟨timestamp, nonce, k, bears, hears, only⟩

/-- Two signed changes of one instant and nonce are both answered 200 only if the guard has been given as many
other pairs between them as it has room for. -/
theorem one_success (c : Serving ι) {n : Nat} {i j : ι} (different : i ≠ j)
    (signs : (c.request i).Signs) (signsToo : (c.request j).Signs) {timestamp nonce : String}
    (bears : (c.request i).Bears timestamp nonce) (bearsToo : (c.request j).Bears timestamp nonce)
    (succeeded : c.run.Succeeded n i) (succeededToo : c.run.Succeeded n j) :
    ∃ k l, c.NotedAt i timestamp nonce k ∧ c.NotedAt j timestamp nonce l ∧
      ∃ others : List (String × String), others.Nodup ∧ max c.capacity 1 ≤ others.length ∧
        ∀ pair ∈ others, pair ≠ (timestamp, nonce) ∧ c.run.NotedBetween (min k l) (max k l) pair := by
  obtain ⟨_, _, k, bears', noted⟩ := noted_of_succeeded succeeded signs
  obtain ⟨_, _, l, bearsToo', notedToo⟩ := noted_of_succeeded succeededToo signsToo
  cases Option.some.inj (bears.1.symm.trans bears'.1)
  cases Option.some.inj (bears.2.symm.trans bears'.2)
  cases Option.some.inj (bearsToo.1.symm.trans bearsToo'.1)
  cases Option.some.inj (bearsToo.2.symm.trans bearsToo'.2)
  refine ⟨k, l, noted, notedToo, ?_⟩
  rcases Nat.lt_trichotomy k l with order | rfl | order
  · rw [Nat.min_eq_left (Nat.le_of_lt order), Nat.max_eq_right (Nat.le_of_lt order)]
    exact Interleaving.crowded_between noted.1 notedToo.1 order
  · exact absurd (noted.1.1.symm.trans notedToo.1.1) different
  · rw [Nat.min_eq_right (Nat.le_of_lt order), Nat.max_eq_left (Nat.le_of_lt order)]
    exact Interleaving.crowded_between notedToo.1 noted.1 order

end Serving

namespace Sample

/-- A new name is given twice under one nonce, and once under another in between, at a guard that remembers one
pair. -/
def renames : Serving (Fin 3) where
  service := service
  backend := Store.answer
  store := world.store
  capacity := 0
  request i := if i = 1 then rename "bbbbbbbbbbbbbbbbbbbb" else rename "aaaaaaaaaaaaaaaaaaaa"
  newId _ := ""
  now _ := ⟨60, 0⟩
  turns n := if n < 6 then 0 else if n < 12 then 1 else 2

/-- The user after so many new names. -/
def renamed (version : Int64) : User := { user with version, name := "B" }

theorem rename_bears (nonce : String) (readable : Http.Header.Readable nonce) (long : 20 ≤ nonce.length) :
    (rename nonce).Bears minute nonce :=
  (rename_valid readable long).bears

theorem renamed_isUser {version : Int64} (notLast : version ≠ Int64.maxValue) : IsUser (renamed version) :=
  ⟨rfl, rfl, rfl, rfl, notLast⟩

theorem renames_succeeded : renames.run.Succeeded 18 0 ∧ renames.run.Succeeded 18 2 := by
  have readable : Http.Header.Readable "aaaaaaaaaaaaaaaaaaaa" := by decide +kernel
  have long : 20 ≤ "aaaaaaaaaaaaaaaaaaaa".length := by decide
  have turns (n : Nat) : renames.run.turns n = if n < 6 then 0 else if n < 12 then 1 else 2 := rfl
  obtain ⟨first, once⟩ := rename_turns "aaaaaaaaaaaaaaaaaaaa" (r := renames.run) (n := 0) (i := 0) readable long
    user_isUser rfl rfl rfl rfl rfl (by decide) fun t _ before => by rw [turns, if_pos (by omega)]
  have rest : renames.run.rest 6 1 = renames.run.programs 1 := Interleaving.rest_of_waiting fun t before => by
    rw [turns, if_pos before]
    decide
  obtain ⟨-, twice⟩ := rename_turns "bbbbbbbbbbbbbbbbbbbb" (i := 1) (u := renamed 1) (by decide +kernel) (by decide)
    (renamed_isUser (by decide)) rfl once rest rfl rfl (by decide +kernel) fun t after before => by
      rw [turns, if_neg (by omega), if_pos (by omega)]
  have restToo : renames.run.rest 12 2 = renames.run.programs 2 := Interleaving.rest_of_waiting fun t before => by
    rw [turns, if_pos before]
    split <;> decide
  obtain ⟨last, -⟩ := rename_turns "aaaaaaaaaaaaaaaaaaaa" (i := 2) (u := renamed 2) readable long
    (renamed_isUser (by decide)) rfl twice restToo rfl rfl (by decide +kernel) fun t after before => by
      rw [turns, if_neg (by omega), if_neg (by omega)]
  obtain ⟨r, isDone, ok⟩ := first
  exact ⟨⟨r, (Interleaving.heard_done isDone (by decide)).1, ok⟩, last⟩

end Sample

theorem Serving.one_success_renames :
    ∃ k l, Sample.renames.NotedAt 0 Sample.minute "aaaaaaaaaaaaaaaaaaaa" k ∧
      Sample.renames.NotedAt 2 Sample.minute "aaaaaaaaaaaaaaaaaaaa" l ∧
      ∃ others : List (String × String), others.Nodup ∧ max 0 1 ≤ others.length ∧
        ∀ pair ∈ others, pair ≠ (Sample.minute, "aaaaaaaaaaaaaaaaaaaa") ∧
          Sample.renames.run.NotedBetween (min k l) (max k l) pair :=
  Serving.one_success Sample.renames (by decide) (.inr (.inr rfl)) (.inr (.inr rfl))
    (Sample.rename_bears "aaaaaaaaaaaaaaaaaaaa" (by decide +kernel) (by decide))
    (Sample.rename_bears "aaaaaaaaaaaaaaaaaaaa" (by decide +kernel) (by decide)) Sample.renames_succeeded.1
    Sample.renames_succeeded.2

end Countersign
