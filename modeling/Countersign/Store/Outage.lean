import Countersign.Store

/-!
Stores that misbehave in a known way. All of them answer calls on the same users as the plain store does,
so that what a caller makes of a bad answer can be tried out.
-/

namespace Countersign

/-- A way to answer the calls on a store. -/
abbrev Backend := StoreCall → Store → Option StoreAnswer × Store

/-- How a store may misbehave. -/
inductive Outage where
  /-- No call gets through. -/
  | down
  /-- No look-up by identifier gets through. -/
  | idDown
  /-- No update gets through. -/
  | updateDown
  /-- The record of every update is gone. -/
  | updateMissing
  /-- Before every update somebody else writes the record. -/
  | updateConflict
  /-- Look-ups by email answer with a version conflict. -/
  | lookupConflict
  /-- Look-ups by email ignore the case of ASCII letters. -/
  | ignoreCase
deriving DecidableEq

namespace Outage

/-- The answer to a call that does not get through. -/
def refused : Option StoreAnswer := some (.error (.unavailable "connection refused"))

/-- The store after somebody else has written a record; none if the record has no next version. -/
def overwritten? (store : Store) (id : Int64) : Option Store :=
  match store.find? id with
  | some u => u.renewed?.map store.insert
  | none => some store

def backend (outage : Outage) : Backend := fun call store =>
  match outage, call with
  | .down, _ => (refused, store)
  | .idDown, .findById _ => (refused, store)
  | .updateDown, .update _ _ => (refused, store)
  | .updateMissing, .update _ _ => (some (.error .notFound), store)
  | .updateConflict, .update user fields =>
    match overwritten? store user.id with
    | some store => store.update user fields
    | none => (none, store)
  | .lookupConflict, .findByEmail _ => (some (.error .versionConflict), store)
  | .ignoreCase, .findByEmail email =>
    match store.entries.find? fun u => u.email.toLower == email.toLower with
    | some u => (some (.ok u), store)
    | none => (some (.error .notFound), store)
  | _, call => store.answer call

end Outage

end Countersign
