import Countersign.User

/-!
The user store: records by identifier, with versions that guard against lost updates.

An update names the fields to write and carries the version its writer has read; it is refused if the
record has moved on. A record of the last version has none to move on to, and its update ends without an
answer. The store is left as it was then. A store that such an update breaks is unavailable from there on; so where
later requests are spoken of, no record is to have come that far (`Series.WorksUntil`).
-/

namespace Countersign

inductive StoreError where
  | notFound
  | versionConflict
  | unavailable (detail : String)
deriving DecidableEq

namespace StoreError

def message : StoreError → String
  | .notFound => "user not found"
  | .versionConflict => "user was modified concurrently"
  | .unavailable detail => "store unavailable: " ++ detail

end StoreError

/-- The fields of a user that an update may write. -/
inductive UserField where
  | name
  | refreshToken
  | sharedSecret
deriving DecidableEq

/-- The record with one field as `source` has it. -/
def User.copyField (source record : User) : UserField → User
  | .name => { record with name := source.name }
  | .refreshToken => { record with refreshToken := source.refreshToken }
  | .sharedSecret => { record with sharedSecret := source.sharedSecret }

/-- The record in its next version, if there is one. -/
def User.renewed? (record : User) : Option User :=
  if record.version = Int64.maxValue then none
  else some { record with version := record.version + 1 }

/-- The record with some fields as `source` has them, in its next version. -/
def User.written? (source : User) (fields : List UserField) (record : User) : Option User :=
  (fields.foldl source.copyField record).renewed?

/-- Users by their identifiers. -/
abbrev Store := Catalog User.id

/-- What may be asked of a store. -/
inductive StoreCall where
  | findByEmail (email : String)
  | findById (id : Int64)
  /-- Write these fields of the user. -/
  | update (user : User) (fields : List UserField)
deriving DecidableEq

/-- What a store answers: a record, or why there is none. -/
abbrev StoreAnswer := Except StoreError User

namespace Store

/-- The record of an email, the one with the least identifier if there are several. -/
def findByEmail (store : Store) (email : String) : StoreAnswer :=
  match store.entries.find? fun u => u.email == email with
  | some u => .ok u
  | none => .error .notFound

def findById (store : Store) (id : Int64) : StoreAnswer :=
  match store.find? id with
  | some u => .ok u
  | none => .error .notFound

/-- Writes fields of a user whose version is still the stored one. -/
def update (store : Store) (user : User) (fields : List UserField) : Option StoreAnswer × Store :=
  match store.find? user.id with
  | none => (some (.error .notFound), store)
  | some record =>
    if record.version = user.version then
      match user.written? fields record with
      | some saved => (some (.ok saved), store.insert saved)
      | none => (none, store)
    else (some (.error .versionConflict), store)

/-- Answers a call, if it has an answer, and the store afterwards. -/
def answer (call : StoreCall) (store : Store) : Option StoreAnswer × Store :=
  match call with
  | .findByEmail email => (some (store.findByEmail email), store)
  | .findById id => (some (store.findById id), store)
  | .update user fields => store.update user fields

end Store

theorem User.id_copyField (source record : User) (field : UserField) :
    (source.copyField record field).id = record.id := by
  cases field <;> rfl

theorem User.id_copyFields (source record : User) (fields : List UserField) :
    (fields.foldl source.copyField record).id = record.id := by
  induction fields generalizing record with
  | nil => rfl
  | cons field fields ih => simp only [List.foldl_cons, ih, id_copyField]

theorem User.id_renewed {record renewed : User} (next : record.renewed? = some renewed) :
    renewed.id = record.id := by
  unfold renewed? at next
  split at next
  · cases next
  · obtain rfl := Option.some.inj next
    rfl

theorem User.id_written {source record saved : User} {fields : List UserField}
    (written : source.written? fields record = some saved) : saved.id = record.id :=
  (id_renewed written).trans (id_copyFields source record fields)

end Countersign
