import Countersign.Proofs.Progress
import Countersign.Proofs.Requests
import Countersign.Proofs.Runs

/-!
Every change of a record is mediated.

A request changes at most one record, in one step, and in one of four ways only: a login, a refresh, a logout,
or a new name (`Mediates`). Each way tells what the caller has shown of the world as it was before.
-/

namespace Countersign

open Http (Request)
open Json (Node)

/-- Whether the check of a request under a secret succeeds in a world. -/
def World.Accepts (w : World) (request : SignedRequest) (secret : Bytes) (now : Instant) : Prop :=
  ((Signature.check request (some secret) now).run World.answer w).1 = some (.ok ())

/-- How a request may turn a record into another one, with what the caller has shown for it. -/
inductive Mediates (s : Service) (w : World) (request : Request) (now : Instant) (old : User) : User → Prop
  | login {body : LoginRequest} {secret : SharedSecret} {pair : TokenPair}
      (put : request.method = .put) (place : s.route? request = some .auth)
      (signed : (request.headers.first? Signature.signatureHeader).isSome = true)
      (isBody : (Node.read? request.body).bind LoginRequest.ofNode? = some body)
      (named : body.email = old.email)
      (verified : Password.verify body.password old.passwordHash = some (.ok true))
      (agreed : s.keys.derive body.publicKey = .ok secret)
      (accepted : w.Accepts request.signed secret.bytes now)
      (issued : s.tokens.issuePair old.email now = some pair) :
      Mediates s w request now old
        { old with version := old.version + 1, refreshToken := some pair.refreshToken,
                   sharedSecret := some secret.toText }
  | refresh {body : RefreshRequest} {secret : SharedSecret} {pair : TokenPair}
      (post : request.method = .post) (place : s.route? request = some .auth)
      (isBody : (Node.read? request.body).bind RefreshRequest.ofNode? = some body)
      (belongs : Session.Belongs s.tokens body.refreshToken .refresh now old)
      (named : body.email = old.email)
      (held : old.sharedSecret.bind SharedSecret.ofText? = some secret)
      (accepted : w.Accepts request.signed secret.bytes now)
      (issued : s.tokens.issuePair old.email now = some pair) :
      Mediates s w request now old
        { old with version := old.version + 1, refreshToken := some pair.refreshToken }
  | logout {body : LogoutRequest} {token : String} {kind : Session.TokenKind}
      (delete : request.method = .delete) (place : s.route? request = some .auth)
      (isBody : (Node.read? request.body).bind LogoutRequest.ofNode? = some body)
      (presented : Service.logoutToken body = some (token, kind))
      (belongs : Session.Belongs s.tokens token kind now old)
      (named : body.email = "" ∨ body.email = old.email) :
      Mediates s w request now old
        { old with version := old.version + 1, refreshToken := none, sharedSecret := none }
  | rename {segment token : String} {caller : User} {secret : SharedSecret} {body : RenameRequest}
      (patch : request.method = .patch) (place : s.route? request = some (.user segment))
      (isId : Service.userId segment = .ok old.id)
      (presented : Session.presented? request.headers = some token)
      (known : w.store.find? caller.id = some caller)
      (belongs : Session.Belongs s.tokens token .session now caller)
      (granted : PrivilegeSet.decide caller.privileges Service.userResource .update = .granted)
      (held : caller.sharedSecret.bind SharedSecret.ofText? = some secret)
      (accepted : w.Accepts request.signed secret.bytes now)
      (isBody : (Node.read? request.body).bind RenameRequest.ofNode? = some body)
      (named : Text.trim body.name.toList ≠ []) :
      Mediates s w request now old
        { old with version := old.version + 1, name := String.ofList (Text.trim body.name.toList) }

theorem World.accepts_of_valid {w : World} {request : SignedRequest} {secret : Bytes} {now : Instant}
    {stamp : Stamp} (valid : stamp.Valid request secret now)
    (fresh : (w.replay.record stamp.timestamp stamp.nonce).1 = true) : w.Accepts request secret now := by
  have follows : (Signature.check request (some secret) now).Follows (Program.Ended fun r => r = .ok ()) 1
      [.record stamp.timestamp stamp.nonce true] := Signature.follows_check valid ⟨rfl, rfl, rfl⟩
  have hears : w.memory.Hears Store.answer [.record stamp.timestamp stamp.nonce true] := ⟨fresh, trivial⟩
  obtain ⟨⟨r, ran, rfl⟩, -⟩ := follows.run hears
  exact ran

/-! ### The one write of a request -/

section

variable {s : Service} {request : Request} {now : Instant} {handler : Handler} {old new : User}
  {fields : List UserField} {before after : List Exchange} {backend : Backend}

theorem Service.Reaches.unwritten (reached : s.Reaches request now before handler)
    (writes : handler.Writes s now after old fields new) (user : User) (written : List UserField)
    (answer : StoreAnswer) : .store (.update user written) answer ∉ before ++ after := by
  intro member
  rcases List.mem_append.mp member with inBefore | inAfter
  · cases reached <;> simp at inBefore
  · exact writes.unwritten user written answer inAfter

theorem Handler.Writes.read (working : backend.Working) {m : Memory}
    (writes : handler.Writes s now after old fields new) (hears : m.Hears backend after) :
    m.store.find? old.id = some old := by
  obtain ⟨call, looks, member, -⟩ := writes.looked
  obtain ⟨earlier, rest, rfl⟩ := List.append_of_mem member
  rw [Memory.hears_append] at hears
  have kept : (m.after backend earlier).store = m.store :=
    Memory.store_after working hears.1 fun user written saved inEarlier =>
      writes.unwritten user written (.ok saved) (List.mem_append_left _ inEarlier)
  rw [← kept]
  exact (working.found hears.2.1 looks).1

/-- The update that a handler asks for is granted on the store as the request has found it. -/
theorem Service.Reaches.granted (working : backend.Working) {w : World}
    (reached : s.Reaches request now before handler) (writes : handler.Writes s now after old fields new)
    {saved : User}
    (hears : w.memory.Hears backend (before ++ after ++ [.store (.update new fields) (.ok saved)])) :
    w.memory.Hears backend (before ++ after) ∧ (w.store.update new fields).1 = some (.ok saved) ∧
      (w.memory.after backend (before ++ after ++ [.store (.update new fields) (.ok saved)])).store =
        (w.store.update new fields).2 := by
  obtain ⟨hearsBefore, fits, -⟩ := (Memory.hears_append ..).mp hears
  have unchanged : (w.memory.after backend (before ++ after)).store = w.store :=
    Memory.store_after working hearsBefore fun user written other =>
      reached.unwritten writes user written (.ok other)
  have grants : (backend (.update new fields) (w.memory.after backend (before ++ after)).store).1 =
      some (.ok saved) := fits
  rw [working.update, unchanged] at grants
  refine ⟨hearsBefore, grants, ?_⟩
  rw [Memory.after_append]
  show (backend (.update new fields) (w.memory.after backend (before ++ after)).store).2 = _
  rw [working.update, unchanged]

/-- A request writes nothing, or once, and then what the handler that it reaches has asked for. -/
theorem Service.writes_once (working : backend.Working) (s : Service) (w : World) (request : Request)
    (newId : String) (now : Instant) {left : World}
    (isLeft : ((s.handle request newId now).run (World.answerWith backend) w).2 = left) :
    left.store = w.store ∨ ∃ before handler after old fields new saved,
      s.Reaches request now before handler ∧ handler.Writes s now after old fields new ∧
      w.memory.Hears backend (before ++ after) ∧
      (w.store.update new fields).1 = some (.ok saved) ∧ left.store = (w.store.update new fields).2 := by
  have begins : Asked (s.asks request now) [] := fun before call answer begins => by simp at begins
  obtain ⟨heard, asked, hears, reached, -⟩ :=
    (s.handle_keeps request newId now).run working (w := w) begins trivial rfl
  rw [isLeft] at reached
  have isStore : left.store = (w.memory.after backend heard).store := congrArg Memory.store reached
  by_cases granted : ∃ new fields saved, .store (.update new fields) (.ok saved) ∈ heard
  · right
    obtain ⟨new, fields, saved, member⟩ := granted
    obtain ⟨h, rest, rfl⟩ := List.append_of_mem member
    obtain ⟨before, handler, after, old, reaches, rfl, writes⟩ := asked.between new fields rfl
    -- A second write would have been asked for by a handler that had heard of the first.
    have onlyOne : ∀ user written other, .store (.update user written) (.ok other) ∉ rest := by
      intro user written other again
      obtain ⟨middle, last, rfl⟩ := List.append_of_mem again
      rw [← List.cons_append, ← List.append_assoc] at asked
      obtain ⟨before', handler', after', old', reaches', isHeard, writes'⟩ :=
        asked.between user written rfl
      refine reaches'.unwritten writes' new fields (.ok saved) ?_
      rw [← isHeard]
      exact List.mem_append_right _ List.mem_cons_self
    rw [List.append_cons] at hears isStore
    obtain ⟨hearsFirst, hearsRest⟩ := (Memory.hears_append ..).mp hears
    obtain ⟨hearsBefore, grants, written⟩ := reaches.granted working writes hearsFirst
    refine ⟨before, handler, after, old, fields, new, saved, reaches, writes, hearsBefore, grants, ?_⟩
    rw [isStore, Memory.after_append]
    exact (Memory.store_after working hearsRest onlyOne).trans written
  · left
    refine isStore.trans (Memory.store_after working hears fun new fields saved member => ?_)
    exact granted ⟨new, fields, saved, member⟩

theorem Service.Reaches.mediates (working : backend.Working) {w : World}
    (reached : s.Reaches request now before handler) (writes : handler.Writes s now after old fields new)
    (hears : w.memory.Hears backend (before ++ after)) :
    Mediates s w request now old { new with version := old.version + 1 } := by
  cases reached with
  | login put place =>
    cases writes with
    | login signed isBody agreed valid verified issued =>
      obtain ⟨fresh, found, -⟩ := hears
      exact .login put place signed isBody (working.found found trivial).2.symm verified agreed
        (World.accepts_of_valid valid fresh) issued
  | refresh post place =>
    cases writes with
    | refresh isBody belongs named held valid issued =>
      obtain ⟨-, fresh, -⟩ := hears
      exact .refresh post place isBody belongs named held (World.accepts_of_valid valid fresh) issued
  | logout delete place =>
    cases writes with
    | logout isBody presented belongs named => exact .logout delete place isBody presented belongs named
  | rename patch place named presented belongs =>
    cases writes with
    | rename passed isBody isName =>
      cases passed with
      | reading performs granted reads =>
        rw [show request.signed.method = .patch from patch] at reads
        cases reads
      | signed performs granted held valid =>
        rw [show request.signed.method = .patch from patch] at performs
        cases performs
        obtain ⟨found, fresh, isOld, -⟩ := hears
        have isId : old.id = _ := (working.found isOld trivial).2
        exact .rename patch place (isId ▸ named) presented (working.found found trivial).1 belongs granted
          held (World.accepts_of_valid valid fresh) isBody isName

end

/-- Two stores that differ in one record. -/
structure Store.Differs (before after : Store) (old new : User) : Prop where
  was : before.find? old.id = some old
  is : after.find? old.id = some new
  others : ∀ id, id ≠ old.id → after.find? id = before.find? id

/-- A record that is one version ahead of another, with the same user, password and roles. -/
structure User.Follows (new old : User) : Prop where
  version : new.version.toInt = old.version.toInt + 1
  id : new.id = old.id
  email : new.email = old.email
  passwordHash : new.passwordHash = old.passwordHash
  roles : new.roles = old.roles

theorem Mediates.follows {s : Service} {w : World} {request : Request} {now : Instant} {old new : User}
    (mediates : Mediates s w request now old new)
    (version : new.version.toInt = old.version.toInt + 1) : new.Follows old := by
  cases mediates <;> exact ⟨version, rfl, rfl, rfl, rfl⟩

/-- An update that a handler has asked for and that is granted changes one record, and does so in one of the ways of
`Mediates`. -/
theorem Service.Reaches.changes {backend : Backend} (working : backend.Working) {s : Service} {w : World}
    {request : Request} {now : Instant} {before after : List Exchange} {handler : Handler} {old new saved : User}
    {fields : List UserField} {left : Store} (reached : s.Reaches request now before handler)
    (writes : handler.Writes s now after old fields new) (hears : w.memory.Hears backend (before ++ after))
    (grants : (w.store.update new fields).1 = some (.ok saved)) (written : left = (w.store.update new fields).2) :
    ∃ changed, w.store.Differs left old changed ∧ changed.Follows old ∧ Mediates s w request now old changed := by
  have mediates := reached.mediates working writes hears
  have hearsAfter := ((Memory.hears_append ..).mp hears).2
  have unchanged : (w.memory.after backend before).store = w.store :=
    Memory.store_after working ((Memory.hears_append ..).mp hears).1 fun user written other member =>
      reached.unwritten writes user written (.ok other) (List.mem_append_left _ member)
  have read : w.store.find? old.id = some old := unchanged ▸ writes.read working hearsAfter
  obtain ⟨-, -, rfl, later, inserted⟩ := writes.granted read (.refl w.store) grants
  have sameId : new.id = old.id := writes.copies.2.2
  rw [inserted] at written
  refine ⟨_, ⟨read, ?_, fun id other => ?_⟩, mediates.follows later, mediates⟩
  · rw [written, ← sameId]
    exact Catalog.find?_insert_self w.store _
  · rw [written]
    refine Catalog.find?_insert_of_ne w.store _ ?_
    show new.id ≠ id
    rw [sameId]
    exact other.symm

/-- Complete mediation: a request that changes the store changes one record in it, into the next version, and
does so in one of the ways of `Mediates`. -/
theorem Service.handle_mediated {backend : Backend} (working : backend.Working) (s : Service) (w : World)
    (request : Request) (newId : String) (now : Instant) {left : World}
    (isLeft : ((s.handle request newId now).run (World.answerWith backend) w).2 = left)
    (changed : left.store ≠ w.store) :
    ∃ old new, w.store.Differs left.store old new ∧ new.Follows old ∧ Mediates s w request now old new := by
  rcases s.writes_once working w request newId now isLeft with same | wrote
  · exact absurd same changed
  · obtain ⟨before, handler, after, old, fields, new, saved, reached, writes, hears, grants, written⟩ := wrote
    exact ⟨old, reached.changes working writes hears grants written⟩

/-- A request that is answered 200 reads, or asks for the server's key, or the update has been granted that the handler
it reaches asks for. -/
theorem Service.answered_writes {backend : Backend} (working : backend.Working) {s : Service} {w left : World}
    {request : Request} {newId : String} {now : Instant} {response : Http.Response}
    (ran : (s.handle request newId now).run (World.answerWith backend) w = (some response, left))
    (ok : response.status = 200) :
    request.Reads ∨
    (request.method = .put ∧ request.headers.first? Signature.signatureHeader = none) ∨
    ∃ before handler after old fields new saved, s.Reaches request now before handler ∧
      handler.Writes s now after old fields new ∧ w.memory.Hears backend (before ++ after) ∧
      (w.store.update new fields).1 = some (.ok saved) ∧ left.store = (w.store.update new fields).2 := by
  have begins : Asked (s.asks request now) [] := fun before call answer begins => by simp at begins
  obtain ⟨heard, -, hears, isLeft, ends⟩ :=
    (s.handle_keeps request newId now).run working (w := w) begins trivial rfl
  rw [ran] at isLeft ends
  have isStore : left.store = (w.memory.after backend heard).store := congrArg Memory.store isLeft
  rcases ends response rfl ok with reads | ⟨before, handler, after, reached, rfl, succeeds⟩
  · exact .inl reads
  · cases succeeds with
    | key unsigned =>
      cases reached with
      | login put place => exact .inr (.inl ⟨put, unsigned⟩)
    | @written _ after old new saved fields writes =>
      rw [← List.append_assoc] at hears isStore
      obtain ⟨hearsBefore, grants, written⟩ := reached.granted working writes hears
      exact .inr (.inr ⟨before, handler, after, old, fields, new, saved, reached, writes, hearsBefore, grants,
        isStore.trans written⟩)

theorem Service.answered_changes {backend : Backend} (working : backend.Working) {s : Service} {w left : World}
    {request : Request} {newId : String} {now : Instant} {response : Http.Response}
    (ran : (s.handle request newId now).run (World.answerWith backend) w = (some response, left))
    (ok : response.status = 200) :
    request.Reads ∨
    (request.method = .put ∧ request.headers.first? Signature.signatureHeader = none) ∨
    ∃ old new, w.store.Differs left.store old new ∧ new.Follows old ∧ Mediates s w request now old new := by
  refine (Service.answered_writes working ran ok).imp_right (Or.imp_right ?_)
  rintro ⟨before, handler, after, old, fields, new, saved, reached, writes, hears, grants, written⟩
  exact ⟨old, reached.changes working writes hears grants written⟩

theorem Sample.rename_writes :
    ((service.handle (rename "aaaaaaaaaaaaaaaaaaaa") "" ⟨60, 0⟩).run (World.answerWith Store.answer) world).2.store ≠
      world.store := by
  rw [rename_run "aaaaaaaaaaaaaaaaaaaa" (w := world) (by decide +kernel) (by decide) user_isUser rfl rfl (by decide)]
  decide +kernel

theorem Service.handle_mediated_rename :
    ∃ old new, Sample.world.store.Differs
        ((Sample.service.handle (Sample.rename "aaaaaaaaaaaaaaaaaaaa") "" ⟨60, 0⟩).run
          (World.answerWith Store.answer) Sample.world).2.store old new ∧
      new.Follows old ∧
      Mediates Sample.service Sample.world (Sample.rename "aaaaaaaaaaaaaaaaaaaa") ⟨60, 0⟩ old new :=
  Service.handle_mediated Store.answer_working Sample.service Sample.world (Sample.rename "aaaaaaaaaaaaaaaaaaaa") ""
    ⟨60, 0⟩ rfl Sample.rename_writes

end Countersign
