import Countersign.Store.Outage

/-!
What a working store does to its records.

A call changes at most one record, and that one into its next version: `Store.update_cases` tells the only way
in which an update succeeds, `Store.Grows` what is left of the records after any number of calls. So a record
whose version has not moved is the same record (`Store.Grows.same`).
-/

namespace Countersign

/-- What a look-up by email may answer: a record of that email, or that there is none. -/
inductive Store.Finds (store : Store) (email : String) : StoreAnswer → Prop
  | found {user : User} (member : user ∈ store.entries) (named : user.email = email) :
      Finds store email (.ok user)
  | missing (nobody : ∀ user ∈ store.entries, user.email ≠ email) : Finds store email (.error .notFound)

/-- Whether a question leaves the store as it is. -/
def StoreCall.LooksUp : StoreCall → Prop
  | .update _ _ => False
  | _ => True

/-- Whether a record is one that a look-up asks for. -/
def StoreCall.Seeks : StoreCall → User → Prop
  | .findByEmail email, user => user.email = email
  | .findById id, user => user.id = id
  | .update _ _, _ => False

/-- A backend that works. Of several records of one email it may find any; all else is as in the plain store. -/
structure Backend.Working (backend : Backend) : Prop where
  findByEmail : ∀ email store, ∃ answer,
    store.Finds email answer ∧ backend (.findByEmail email) store = (some answer, store)
  findById : ∀ id store, backend (.findById id) store = (some (store.findById id), store)
  update : ∀ user fields store, backend (.update user fields) store = store.update user fields

theorem Store.answer_working : Backend.Working fun call store => store.answer call where
  findByEmail email store := by
    refine ⟨store.findByEmail email, ?_, rfl⟩
    unfold Store.findByEmail
    split
    next user found =>
      exact .found (List.mem_of_find?_eq_some found) (by simpa using List.find?_some found)
    next missing => exact .missing (by simpa using missing)
  findById _ _ := rfl
  update _ _ _ := rfl

namespace Backend.Working

variable {backend : Backend}

/-- A record that is found is in the store, and one that was asked for. -/
theorem found (working : backend.Working) {call : StoreCall} {store : Store} {user : User}
    (answered : (backend call store).1 = some (.ok user)) (looks : call.LooksUp) :
    store.find? user.id = some user ∧ call.Seeks user := by
  cases call with
  | findByEmail email =>
    obtain ⟨answer, finds, isAnswer⟩ := working.findByEmail email store
    rw [isAnswer] at answered
    cases answered
    cases finds with
    | found member named => exact ⟨Catalog.find?_of_mem member, named⟩
  | findById id =>
    rw [working.findById] at answered
    unfold Store.findById at answered
    split at answered
    next record isRecord =>
      cases answered
      have same := (Catalog.mem_of_find? isRecord).2
      exact ⟨same ▸ isRecord, same⟩
    · cases answered
  | update user fields => exact looks.elim

theorem looks (working : backend.Working) {call : StoreCall} (looks : call.LooksUp) (store : Store) :
    (backend call store).2 = store := by
  cases call with
  | findByEmail email =>
    obtain ⟨_, _, answered⟩ := working.findByEmail email store
    rw [answered]
  | findById id => rw [working.findById]
  | update user fields => exact looks.elim

end Backend.Working

/-! ### Versions -/

/-- The next version of a record differs from it in the version only, which is one more. -/
theorem User.version_renewed {record renewed : User} (next : record.renewed? = some renewed) :
    renewed = { record with version := record.version + 1 } ∧
      renewed.version.toInt = record.version.toInt + 1 := by
  unfold renewed? at next
  split at next
  · cases next
  next notLast =>
    obtain rfl := Option.some.inj next
    refine ⟨rfl, ?_⟩
    have apart : record.version.toInt ≠ Int64.maxValue.toInt :=
      fun same => notLast (Int64.toInt_inj.mp same)
    have most := record.version.toInt_lt
    have least := record.version.le_toInt
    rw [Int64.toInt_maxValue] at apart
    show (record.version + 1).toInt = _
    rw [Int64.toInt_add, Int64.toInt_one]
    exact Int.bmod_eq_of_le (by omega) (by omega)

theorem User.version_copyFields (source record : User) (fields : List UserField) :
    (fields.foldl source.copyField record).version = record.version := by
  induction fields generalizing record with
  | nil => rfl
  | cons field fields ih =>
    rw [List.foldl_cons, ih]
    cases field <;> rfl

namespace Store

/-- An update succeeds only on the record of its user's version, and leaves that record in its next version. -/
theorem update_cases (store : Store) (user : User) (fields : List UserField) :
    (∃ record saved, store.find? user.id = some record ∧ record.version = user.version ∧
      user.written? fields record = some saved ∧
      store.update user fields = (some (.ok saved), store.insert saved)) ∨
    ((store.update user fields).2 = store ∧ ∀ saved, (store.update user fields).1 ≠ some (.ok saved)) := by
  unfold update
  cases found : store.find? user.id with
  | none => exact .inr ⟨rfl, by simp⟩
  | some record =>
    by_cases current : record.version = user.version
    · cases written : user.written? fields record with
      | some saved => exact .inl ⟨record, saved, rfl, current, written, by simp [current, written]⟩
      | none => exact .inr (by simp [current, written])
    · exact .inr (by simp [current])

/-- An update of a record as it is stored is granted, unless the record is of the last version. -/
theorem update_of_read {store : Store} {old new : User} {fields : List UserField}
    (found : store.find? old.id = some old) (sameId : new.id = old.id) (sameVersion : new.version = old.version)
    (copied : fields.foldl new.copyField old = new) (notLast : old.version ≠ Int64.maxValue) :
    store.update new fields = (some (.ok { new with version := old.version + 1 }),
      store.insert { new with version := old.version + 1 }) := by
  have written : new.written? fields old = some { new with version := old.version + 1 } := by
    unfold User.written? User.renewed?
    rw [copied, sameVersion, if_neg notLast]
  have isOld : store.find? new.id = some old := sameId ▸ found
  unfold update
  rw [isOld]
  dsimp only
  rw [if_pos sameVersion.symm, written]

theorem update_granted {store : Store} {user saved : User} {fields : List UserField}
    (granted : (store.update user fields).1 = some (.ok saved)) :
    ∃ record, store.find? user.id = some record ∧ record.version = user.version ∧
      user.written? fields record = some saved ∧ (store.update user fields).2 = store.insert saved := by
  rcases update_cases store user fields with ⟨record, other, found, current, written, updated⟩ | ⟨_, refused⟩
  · rw [updated] at granted ⊢
    cases granted
    exact ⟨record, found, current, written, rfl⟩
  · exact absurd granted (refused saved)

theorem update_refused {store : Store} {user : User} {fields : List UserField}
    (refused : ∀ saved, (store.update user fields).1 ≠ some (.ok saved)) :
    (store.update user fields).2 = store := by
  rcases update_cases store user fields with ⟨record, saved, _, _, _, updated⟩ | ⟨kept, _⟩
  · exact absurd (by rw [updated]) (refused saved)
  · exact kept

/-- Every record of the first store is in the second one too, the same or in a later version. -/
def Grows (before after : Store) : Prop :=
  ∀ id old, before.find? id = some old →
    ∃ new, after.find? id = some new ∧ (new = old ∨ old.version.toInt < new.version.toInt)

theorem Grows.refl (store : Store) : store.Grows store :=
  fun _ old found => ⟨old, found, .inl rfl⟩

theorem Grows.trans {first second third : Store} (early : first.Grows second) (late : second.Grows third) :
    first.Grows third := by
  intro id old found
  obtain ⟨middle, foundMiddle, isMiddle⟩ := early id old found
  obtain ⟨new, foundNew, isNew⟩ := late id middle foundMiddle
  refine ⟨new, foundNew, ?_⟩
  rcases isMiddle with rfl | lower
  · exact isNew
  · rcases isNew with rfl | higher
    · exact .inr lower
    · exact .inr (by omega)

/-- A record whose version has not moved has not changed. -/
theorem Grows.same {before after : Store} (grows : before.Grows after) {id : Int64} {old new : User}
    (wasOld : before.find? id = some old) (isNew : after.find? id = some new)
    (still : new.version = old.version) : new = old := by
  obtain ⟨found, isFound, same | later⟩ := grows id old wasOld
  · exact (Option.some.inj (isNew.symm.trans isFound)).trans same
  · obtain rfl := Option.some.inj (isNew.symm.trans isFound)
    rw [still] at later
    omega

/-- A record that is the same early and late is the same in between. -/
theorem Grows.between {first second third : Store} (early : first.Grows second) (late : second.Grows third)
    {id : Int64} {user : User} (was : first.find? id = some user) (is : third.find? id = some user) :
    second.find? id = some user := by
  obtain ⟨middle, foundMiddle, isMiddle⟩ := early id user was
  obtain ⟨last, foundLast, isLast⟩ := late id middle foundMiddle
  obtain rfl := Option.some.inj (is.symm.trans foundLast)
  rcases isMiddle with rfl | lower
  · exact foundMiddle
  · rcases isLast with rfl | higher
    · exact foundMiddle
    · omega

theorem grows_update (store : Store) (user : User) (fields : List UserField) :
    store.Grows (store.update user fields).2 := by
  rcases update_cases store user fields with ⟨record, saved, found, _, written, updated⟩ | ⟨kept, _⟩
  · rw [updated]
    have isUser : saved.id = user.id :=
      (User.id_written written).trans (Catalog.mem_of_find? found).2
    have later := (User.version_renewed written).2
    rw [User.version_copyFields] at later
    intro id old wasOld
    by_cases same : saved.id = id
    · obtain rfl : old = record := by
        rw [← same, isUser, found] at wasOld
        exact (Option.some.inj wasOld).symm
      exact ⟨saved, same ▸ Catalog.find?_insert_self store saved, .inr (by omega)⟩
    · exact ⟨old, (Catalog.find?_insert_of_ne store saved same).trans wasOld, .inl rfl⟩
  · rw [kept]
    exact Grows.refl store

end Store

/-- Whether a user is in the store, and nobody else has their email. -/
structure Store.Only (store : Store) (user : User) : Prop where
  member : user ∈ store.entries
  alone : ∀ other ∈ store.entries, other.email = user.email → other = user

namespace Store.Only

variable {store : Store} {user : User} (only : store.Only user)
include only

theorem findByEmail {backend : Backend} (working : backend.Working) :
    backend (.findByEmail user.email) store = (some (.ok user), store) := by
  obtain ⟨answer, finds, answered⟩ := working.findByEmail user.email store
  rw [answered]
  cases finds with
  | found member named => rw [only.alone _ member named]
  | missing nobody => exact absurd rfl (nobody user only.member)

/-- A later record of the user takes the place of the user. -/
theorem insert {saved : User} (sameId : saved.id = user.id) (sameEmail : saved.email = user.email) :
    Store.Only (store.insert saved) saved := by
  have stored := Catalog.find?_insert_self store saved
  refine ⟨(Catalog.mem_of_find? stored).1, fun other member named => ?_⟩
  rcases Catalog.mem_insertEntry member with same | old
  · exact same
  · have isUser := only.alone other old (named.trans sameEmail)
    have found := Catalog.find?_of_mem member
    rw [isUser, ← sameId, stored] at found
    exact isUser.trans (Option.some.inj found).symm

end Store.Only

theorem Backend.Working.grows {backend : Backend} (working : backend.Working) (call : StoreCall)
    (store : Store) : store.Grows (backend call store).2 := by
  cases call with
  | update user fields =>
    rw [working.update]
    exact store.grows_update user fields
  | _ =>
    rw [working.looks (by trivial)]
    exact Store.Grows.refl store

end Countersign
