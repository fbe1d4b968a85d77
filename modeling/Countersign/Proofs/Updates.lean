import Countersign.Proofs.Handlers
import Countersign.Proofs.Interleaving

/-!
No update is lost.

Handlers that are called at any time take turns (`Handling`). An update is granted only if the record is as the
handler has read it (`Handling.granted`), so no handler overwrites what it has not seen. The rest of
`Handling.NoLostUpdate` follows from this: versions are consecutive, a version is spent at most once, and a
handler that is refused has written nothing.
-/

namespace Countersign

open Http (Response)

/-- The version into which an exchange takes a user's record. -/
def Exchange.version? (id : Int64) : Exchange → Option Int
  | .store (.update _ _) (.ok saved) => if saved.id = id then some saved.version.toInt else none
  | _ => none

/-- Handlers that are called on a world, each at an instant of its own, and that take turns. -/
structure Handling (ι : Type) where
  service : Service
  backend : Backend
  start : World
  handler : ι → Handler
  now : ι → Instant
  turns : Nat → ι

namespace Handling

variable {ι : Type} [DecidableEq ι]

def run (c : Handling ι) : Interleaving ι Response where
  backend := c.backend
  start := c.start
  programs i := (c.handler i).program c.service (c.now i)
  turns := c.turns

def store (c : Handling ι) (n : Nat) : Store := (c.run.world n).store

/-- At a turn a handler is granted the update of a record that it has read, which is saved as another. -/
structure Grants (c : Handling ι) (n : Nat) (i : ι) (old : User) (fields : List UserField) (new saved : User) :
    Prop where
  hears : c.run.Hears n i (.store (.update new fields) (.ok saved))
  writes : (c.handler i).Writes c.service (c.now i) (c.run.heard i n) old fields new
  found : (c.store n).find? old.id = some old
  written : new.written? fields old = some saved
  saves : saved = { new with version := old.version + 1 }
  later : saved.version.toInt = old.version.toInt + 1
  leaves : c.store (n + 1) = (c.store n).insert saved

variable {c : Handling ι} {n : Nat} {i : ι} {old new saved : User} {fields : List UserField}

theorem Grants.id_saved (grants : c.Grants n i old fields new saved) : saved.id = old.id := by
  rw [grants.saves]
  exact grants.writes.copies.2.2

theorem keeps (c : Handling ι) (n : Nat) (i : ι) :
    (c.run.rest n i).Keeps ((c.handler i).asks c.service (c.now i))
        (fun h r => r.status = 200 → (c.handler i).Succeeds c.service (c.now i) h) (c.run.heard i n) ∧
      Asked ((c.handler i).asks c.service (c.now i)) (c.run.heard i n) :=
  Interleaving.keeps (r := c.run) (fun i => (c.handler i).kept c.service (c.now i)) n i

theorem asked {answer : StoreAnswer} (hears : c.run.Hears n i (.store (.update new fields) answer)) :
    ∃ old, (c.handler i).Writes c.service (c.now i) (c.run.heard i n) old fields new := by
  have asked := (c.keeps (n + 1) i).2
  rw [hears.heard_succ] at asked
  exact asked.between new fields rfl

/-- The record that a handler writes to is the one that it has read, and has been there all the time. -/
theorem granted (working : c.backend.Working)
    (hears : c.run.Hears n i (.store (.update new fields) (.ok saved))) :
    ∃ m < n, ∃ call old, c.run.Hears m i (.store call (.ok old)) ∧ c.Grants n i old fields new saved ∧
      ∀ t, m ≤ t → t ≤ n → (c.store t).find? old.id = some old := by
  obtain ⟨old, writes⟩ := asked hears
  obtain ⟨call, looks, member, -⟩ := writes.looked
  obtain ⟨m, earlier, read⟩ := Interleaving.heard_of_mem member
  have known : (c.store m).find? old.id = some old := (working.found read.fits.1 looks).1
  have grows {m n : Nat} (first : m ≤ n) : (c.store m).Grows (c.store n) :=
    Interleaving.grows (r := c.run) working first
  obtain ⟨fits, leads⟩ := hears.fits
  have grants : (c.backend (.update new fields) (c.store n)).1 = some (.ok saved) := fits
  rw [working.update] at grants
  obtain ⟨found, written, saves, later, inserts⟩ := writes.granted known (grows (Nat.le_of_lt earlier)) grants
  refine ⟨m, earlier, call, old, read, ⟨hears, writes, found, written, saves, later, ?_⟩, ?_⟩
  · rw [← inserts, ← working.update]
    exact congrArg Memory.store leads
  · -- A record that had moved on in between would not be found any more.
    intro t start ends
    exact (grows start).between (grows ends) known found

/-! ### Versions -/

/-- The versions into which a user's record has been taken, in the order of the turns. -/
def versions (c : Handling ι) (id : Int64) : Nat → List Int
  | 0 => []
  | n + 1 => versions c id n ++ (c.run.exchange n).filterMap (Exchange.version? id)

theorem versions_silent (silent : ∀ x ∈ c.run.exchange n, ∀ user fields saved,
    x ≠ .store (.update user fields) (.ok saved)) (id : Int64) : c.versions id (n + 1) = c.versions id n := by
  have nothing : (c.run.exchange n).filterMap (Exchange.version? id) = [] := by
    rw [List.filterMap_eq_nil_iff]
    intro x member
    unfold Exchange.version?
    split
    next user fields saved => exact absurd rfl (silent _ member user fields saved)
    · rfl
  rw [versions, nothing, List.append_nil]

/-- The versions of a user count up from the first one, and the last is the one in the store. -/
theorem versions_known (working : c.backend.Working) {id : Int64} {first : User}
    (known : c.start.store.find? id = some first) (n : Nat) : ∃ last, (c.store n).find? id = some last ∧
      last.version.toInt = first.version.toInt + (c.versions id n).length ∧
      c.versions id n =
        (List.range (c.versions id n).length).map fun k : Nat => first.version.toInt + 1 + k := by
  induction n with
  | zero => exact ⟨first, known, by simp [versions], rfl⟩
  | succ n ih =>
    obtain ⟨last, isLast, counted, inOrder⟩ := ih
    rcases Interleaving.store_succ (r := c.run) working n with ⟨new, fields, saved, single⟩ | ⟨same, silent⟩
    · obtain ⟨_, _, _, old, _, grants, _⟩ := granted working ⟨rfl, single⟩
      rw [versions, single, grants.leaves]
      by_cases isId : saved.id = id
      · subst isId
        obtain rfl : old = last := Option.some.inj (grants.found.symm.trans (grants.id_saved ▸ isLast))
        have noted : [Exchange.store (.update new fields) (.ok saved)].filterMap
            (Exchange.version? saved.id) = [saved.version.toInt] := by simp [Exchange.version?]
        refine ⟨saved, Catalog.find?_insert_self .., ?_, ?_⟩
        · rw [noted, List.length_append, grants.later, counted]
          simp only [List.length_singleton]
          omega
        · rw [noted, List.length_append, List.length_singleton, List.range_succ, List.map_append, ← inOrder,
            grants.later, counted]
          simp only [List.map_singleton]
          congr 2
          omega
      · have unnoted : [Exchange.store (.update new fields) (.ok saved)].filterMap (Exchange.version? id) = [] := by
          simp [Exchange.version?, isId]
        rw [unnoted, List.append_nil]
        exact ⟨last, (Catalog.find?_insert_of_ne _ _ isId).trans isLast, counted, inOrder⟩
    · rw [versions_silent silent, show c.store (n + 1) = c.store n from same]
      exact ⟨last, isLast, counted, inOrder⟩

theorem versions_unknown (working : c.backend.Working) {id : Int64}
    (unknown : c.start.store.find? id = none) (n : Nat) :
    (c.store n).find? id = none ∧ c.versions id n = [] := by
  induction n with
  | zero => exact ⟨unknown, rfl⟩
  | succ n ih =>
    obtain ⟨absent, none⟩ := ih
    rcases Interleaving.store_succ (r := c.run) working n with ⟨new, fields, saved, single⟩ | ⟨same, silent⟩
    · obtain ⟨_, _, _, old, _, grants, _⟩ := granted working ⟨rfl, single⟩
      have other : saved.id ≠ id := by
        rintro rfl
        rw [grants.id_saved, grants.found] at absent
        cases absent
      rw [versions, single, grants.leaves, Catalog.find?_insert_of_ne _ _ other, none]
      exact ⟨absent, by simp [Exchange.version?, other]⟩
    · rw [versions_silent silent, show c.store (n + 1) = c.store n from same]
      exact ⟨absent, none⟩

/-! ### Handlers that meet each other -/

theorem not_asked_after {k l : Nat} {user other : User} {written others : List UserField}
    {answer reply : StoreAnswer} (first : c.run.Hears k i (.store (.update user written) answer))
    (second : c.run.Hears l i (.store (.update other others) reply)) : ¬ k < l := by
  intro earlier
  obtain ⟨old, writes⟩ := asked second
  refine writes.unwritten user written answer ?_
  refine (Interleaving.heard_grows earlier i).subset ?_
  rw [first.heard_succ]
  exact List.mem_append_right _ List.mem_cons_self

theorem asked_once {k l : Nat} {user other : User} {written others : List UserField}
    {answer reply : StoreAnswer} (first : c.run.Hears k i (.store (.update user written) answer))
    (second : c.run.Hears l i (.store (.update other others) reply)) : k = l := by
  have notAfter := not_asked_after first second
  have notBefore := not_asked_after second first
  omega

/-- A version that has been written to is not written to again. -/
theorem Grants.not_later (working : c.backend.Working) {k l : Nat} {j : ι} {user next written : User}
    {others : List UserField} (first : c.Grants k i old fields new saved)
    (second : c.Grants l j user others next written) (sameId : old.id = user.id)
    (sameVersion : old.version = user.version) : ¬ k < l := by
  intro earlier
  have isSaved : (c.store (k + 1)).find? old.id = some saved := by
    rw [first.leaves, ← first.id_saved]
    exact Catalog.find?_insert_self ..
  obtain ⟨last, isLast, kept⟩ := Interleaving.grows (r := c.run) working earlier old.id saved isSaved
  obtain rfl : last = user := by
    have found := second.found
    rw [← sameId] at found
    exact Option.some.inj (isLast.symm.trans found)
  have later := first.later
  rw [sameVersion] at later
  rcases kept with rfl | higher
  · omega
  · omega

/-- What a handler has found in the store. -/
def Read (c : Handling ι) (n : Nat) (i : ι) (user : User) : Prop :=
  ∃ call : StoreCall, call.LooksUp ∧ .store call (.ok user) ∈ c.run.heard i n

/-- A handler that has read a record and answered 200 has been granted an update of that record. -/
theorem grants_of_succeeded (working : c.backend.Working) {user : User} (succeeded : c.run.Succeeded n i)
    (read : c.Read n i user) : ∃ k fields new saved, c.Grants k i user fields new saved := by
  obtain ⟨r, isDone, ok⟩ := succeeded
  obtain ⟨call, looks, member⟩ := read
  have succeeds := (c.keeps n i).1
  rw [isDone] at succeeds
  replace succeeds : (c.handler i).Succeeds c.service (c.now i) (c.run.heard i n) := succeeds ok
  generalize isHeard : c.run.heard i n = heard at succeeds member
  generalize isHandler : c.handler i = handler at succeeds
  cases succeeds with
  | key unsigned => cases member
  | @written _ h _ new saved fields _ =>
    have begins : h ++ [.store (.update new fields) (.ok saved)] <+: c.run.heard i n := isHeard ▸ List.prefix_rfl
    obtain ⟨k, -, hears, rfl⟩ := Interleaving.heard_split begins
    obtain ⟨_, _, _, old, _, grants, _⟩ := granted working hears
    obtain ⟨_, _, _, only⟩ := grants.writes.looked
    -- What has been looked up is the one record that the update goes by.
    rcases List.mem_append.mp member with before | last
    · obtain ⟨-, same⟩ := only call (.ok user) before
      cases same
      exact ⟨k, fields, new, saved, grants⟩
    · cases List.mem_singleton.mp last
      exact looks.elim

theorem refused (working : c.backend.Working) {e : StoreError}
    (refused : .store (.update new fields) (.error e) ∈ c.run.heard i n) {k : Nat} (turn : c.turns k = i) :
    c.store (k + 1) = c.store k := by
  obtain ⟨l, -, hears⟩ := Interleaving.heard_of_mem refused
  rcases Interleaving.store_succ (r := c.run) working k with ⟨user, written, saved, single⟩ | ⟨same, -⟩
  · obtain rfl := asked_once ⟨turn, single⟩ hears
    have clash := single.symm.trans hears.2
    cases clash
  · exact same

/-- What it means that no update is lost. -/
structure NoLostUpdate (c : Handling ι) : Prop where
  /-- The updates of a user count the versions up from the one at the start. -/
  consecutive : ∀ id n,
    match c.start.store.find? id with
    | some first => c.versions id n =
        (List.range (c.versions id n).length).map fun k : Nat => first.version.toInt + 1 + k
    | none => c.versions id n = []
  /-- An update is applied to the one record that its handler has read, which has been in the store from that
  turn on, and which differs from the record afterwards in the handler's fields and the version only. -/
  seen : ∀ n i new fields saved, c.run.Hears n i (.store (.update new fields) (.ok saved)) →
    ∃ m < n, ∃ call old, c.run.Hears m i (.store call (.ok old)) ∧
      (∀ other answer, .store other answer ∈ c.run.heard i n → other = call ∧ answer = .ok old) ∧
      (∀ t, m ≤ t → t ≤ n → (c.store t).find? old.id = some old) ∧
      new.written? fields old = some saved ∧ saved.version.toInt = old.version.toInt + 1 ∧
      c.store (n + 1) = (c.store n).insert saved
  /-- Of the handlers that have read one version of a user at most one answers 200. -/
  spent : ∀ n i j user other, c.Read n i user → c.Read n j other →
    user.id = other.id → user.version = other.version → c.run.Succeeded n i → c.run.Succeeded n j → i = j
  /-- A handler that has been refused leaves the store as it is at all its turns. -/
  refused : ∀ n i new fields e, .store (.update new fields) (.error e) ∈ c.run.heard i n →
    ∀ k, c.turns k = i → c.store (k + 1) = c.store k

/-- Whatever the turns, no update is lost. -/
theorem no_lost_update (c : Handling ι) (working : c.backend.Working) : c.NoLostUpdate where
  consecutive id n := by
    split
    next first known =>
      obtain ⟨_, _, _, inOrder⟩ := versions_known working known n
      exact inOrder
    next unknown => exact (versions_unknown working unknown n).2
  seen n i new fields saved hears := by
    obtain ⟨m, earlier, call, old, read, grants, kept⟩ := granted working hears
    obtain ⟨look, looks, _, only⟩ := grants.writes.looked
    have heard : .store call (.ok old) ∈ c.run.heard i n := by
      refine (Interleaving.heard_grows earlier i).subset ?_
      rw [read.heard_succ]
      exact List.mem_append_right _ List.mem_cons_self
    obtain ⟨rfl, -⟩ := only call (.ok old) heard
    exact ⟨m, earlier, call, old, read, only, kept, grants.written, grants.later, grants.leaves⟩
  spent n i j user other read reread sameId sameVersion succeeded succeededToo := by
    obtain ⟨k, fields, new, saved, grants⟩ := grants_of_succeeded working succeeded read
    obtain ⟨l, others, next, written, grantsToo⟩ := grants_of_succeeded working succeededToo reread
    have notBefore := grants.not_later working grantsToo sameId sameVersion
    have notAfter := grantsToo.not_later working grants sameId.symm sameVersion.symm
    obtain rfl : k = l := by omega
    exact grants.hears.1.symm.trans grantsToo.hears.1
  refused n i new fields e heard k turn := refused working heard turn

end Handling

/-- Two clients that take turns to log the user out. -/
def Sample.logouts : Handling Bool where
  service := service
  backend call store := store.answer call
  start := world
  handler _ := .logout ⟨.delete, "/api/v1/auth", [], Bytes.ofText ("\x7b\"token\":\"" ++ token ++ "\"\x7d")⟩
  now _ := ⟨60, 0⟩
  turns n := n % 2 == 0

theorem Handling.no_lost_update_logouts : Sample.logouts.NoLostUpdate :=
  Handling.no_lost_update Sample.logouts Store.answer_working

end Countersign
