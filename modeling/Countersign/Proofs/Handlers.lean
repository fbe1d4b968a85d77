import Countersign.Proofs.Steps
import Countersign.Proofs.Stores

/-!
The endpoints that write to the store, and what each of them writes.

`Handler.Writes` says what a handler has heard and checked when it asks for an update, and how the record that
it asks to write differs from the one it has read. `Handler.keeps` shows that handlers ask for no other updates,
and that they answer 200 only once the store has granted one.
-/

namespace Countersign

open Http (Response)
open Json (Node)

/-- An endpoint that writes to the store, with what it is called on. -/
inductive Handler where
  | login (request : SignedRequest)
  | refresh (request : SignedRequest)
  | logout (request : SignedRequest)
  /-- Give the user of an identifier a new name, on behalf of a principal. -/
  | rename (p : Principal) (id : Int64) (request : SignedRequest)

namespace Handler

/-- What a handler does when it is called at an instant. -/
def program (s : Service) (now : Instant) : Handler → Program Response
  | login request => Service.answerAttempt (s.loginOrKey request now)
  | refresh request => Service.answerAttempt (s.refresh request now)
  | logout request => Service.answerAttempt (s.logout request now)
  | rename p id request => Service.answerTask (Service.renameUser p id request now)

/-- What a handler has heard by the time it asks for an update, the record that it has read, the fields it
wants written, and the record that it wants them from. -/
inductive Writes (s : Service) (now : Instant) :
    Handler → List Exchange → User → List UserField → User → Prop
  | login {request : SignedRequest} {body : LoginRequest} {secret : SharedSecret} {stamp : Stamp}
      {old : User} {pair : TokenPair}
      (signed : (request.headers.first? Signature.signatureHeader).isSome = true)
      (isBody : (Node.read? request.body).bind LoginRequest.ofNode? = some body)
      (agreed : s.keys.derive body.publicKey = .ok secret)
      (valid : stamp.Valid request secret.bytes now)
      (verified : Password.verify body.password old.passwordHash = some (.ok true))
      (issued : s.tokens.issuePair old.email now = some pair) :
      Writes s now (login request)
        [.record stamp.timestamp stamp.nonce true, .store (.findByEmail body.email) (.ok old)]
        old [.refreshToken, .sharedSecret]
        { old with refreshToken := some pair.refreshToken, sharedSecret := some secret.toText }
  | refresh {request : SignedRequest} {body : RefreshRequest} {secret : SharedSecret} {stamp : Stamp}
      {old : User} {pair : TokenPair}
      (isBody : (Node.read? request.body).bind RefreshRequest.ofNode? = some body)
      (belongs : Session.Belongs s.tokens body.refreshToken .refresh now old)
      (named : body.email = old.email)
      (held : old.sharedSecret.bind SharedSecret.ofText? = some secret)
      (valid : stamp.Valid request secret.bytes now)
      (issued : s.tokens.issuePair old.email now = some pair) :
      Writes s now (refresh request)
        [.store (.findByEmail old.email) (.ok old), .record stamp.timestamp stamp.nonce true]
        old [.refreshToken] { old with refreshToken := some pair.refreshToken }
  | logout {request : SignedRequest} {body : LogoutRequest} {token : String} {kind : Session.TokenKind}
      {old : User}
      (isBody : (Node.read? request.body).bind LogoutRequest.ofNode? = some body)
      (presented : Service.logoutToken body = some (token, kind))
      (belongs : Session.Belongs s.tokens token kind now old)
      (named : body.email = "" ∨ body.email = old.email) :
      Writes s now (logout request) [.store (.findByEmail old.email) (.ok old)]
        old [.refreshToken, .sharedSecret] { old with refreshToken := none, sharedSecret := none }
  | rename {p : Principal} {id : Int64} {request : SignedRequest} {noted : List Exchange}
      {body : RenameRequest} {old : User}
      (passed : Gate.Passes p Service.userResource request now noted)
      (isBody : (Node.read? request.body).bind RenameRequest.ofNode? = some body)
      (named : Text.trim body.name.toList ≠ []) :
      Writes s now (rename p id request) (noted ++ [.store (.findById id) (.ok old)])
        old [.name] { old with name := String.ofList (Text.trim body.name.toList) }

/-- What a handler may ask of the store: updates only as it writes. -/
def asks (s : Service) (now : Instant) (handler : Handler) : Questions := fun h call =>
  ∀ new fields, call = .update new fields → ∃ old, handler.Writes s now h old fields new

/-- What a handler that answers 200 has heard: that its update has been granted, unless it was only asked for
the server's public key. -/
inductive Succeeds (s : Service) (now : Instant) : Handler → List Exchange → Prop
  | key {request : SignedRequest}
      (unsigned : request.headers.first? Signature.signatureHeader = none) :
      Succeeds s now (login request) []
  | written {handler : Handler} {h : List Exchange} {old new saved : User} {fields : List UserField}
      (writes : handler.Writes s now h old fields new) :
      Succeeds s now handler (h ++ [.store (.update new fields) (.ok saved)])

end Handler

theorem AuthError.response_ne_ok (e : AuthError) : e.response.status ≠ 200 := by
  cases e <;> simp [response, Response.json, status]

theorem ApiError.ofAuth_ne_ok (e : AuthError) : (ofAuth e).response.status ≠ 200 := by
  cases e <;> simp [response, Response.json, ofAuth, internal, AuthError.status]

theorem ApiError.ofStore_ne_ok (e : StoreError) : (ofStore e).response.status ≠ 200 := by
  cases e <;> simp [response, Response.json, ofStore, internal, notFound, conflict]

namespace Handler

variable {s : Service} {now : Instant}

theorem asks_of_looksUp (handler : Handler) (h : List Exchange) {call : StoreCall} (looks : call.LooksUp) :
    handler.asks s now h call := by
  rintro new fields rfl
  exact looks.elim

theorem asks_update {handler : Handler} {h : List Exchange} {old new : User} {fields : List UserField}
    (writes : handler.Writes s now h old fields new) : handler.asks s now h (.update new fields) := by
  rintro _ _ same
  cases same
  exact ⟨old, writes⟩

theorem refused {handler : Handler} (h : List Exchange) (e : AuthError) :
    e.response.status = 200 → handler.Succeeds s now h :=
  fun ok => absurd ok e.response_ne_ok

open Service

abbrev Kept (s : Service) (now : Instant) (handler : Handler) : Prop :=
  (handler.program s now).Keeps (handler.asks s now)
    (fun h r => r.status = 200 → handler.Succeeds s now h) []

/-- The last part of a handler: it writes, makes a note, and answers. -/
theorem meets_written {handler : Handler} {h : List Exchange} {old new : User} {fields : List UserField}
    (writes : handler.Writes s now h old fields new) (event : User → Event) (answer : User → Http.Response) :
    Meets (handler.asks s now) (fun h r => r.status = 200 → handler.Succeeds s now h)
      (fun h (e : AuthError) => e.response.status = 200 → handler.Succeeds s now h)
      (do
        let saved ← saving new fields
        Program.log (event saved)
        return answer saved) h := by
  rw [meets_bind, meets_saving]
  refine ⟨asks_update writes, fun saved => ?_, fun _ => refused _ _⟩
  rw [meets_bind, meets_liftM, Program.keeps_log]
  exact fun _ => .written writes

theorem kept_login (request : SignedRequest) : Kept s now (login request) := by
  unfold Kept program
  rw [keeps_answerAttempt]
  unfold loginOrKey
  split
  next unsigned => exact fun _ => .key unsigned
  next signature signed =>
    unfold Service.login
    rw [meets_bind, meets_readBody]
    refine ⟨fun body isBody => ?_, fun _ => refused _ _⟩
    dsimp only
    rw [meets_ite, meets_bind, meets_throw]
    refine ⟨fun _ => refused _ _, fun _ => ?_⟩
    rw [meets_ite, meets_bind, meets_throw]
    refine ⟨fun _ => refused _ _, fun _ => ?_⟩
    rw [meets_bind, meets_agree]
    refine ⟨fun secret agreed => ?_, fun _ _ => refused _ _⟩
    rw [meets_bind]
    refine meets_checking refused fun stamp valid => ?_
    rw [meets_bind, meets_userByEmail]
    refine ⟨asks_of_looksUp _ _ trivial, fun old => ?_, fun _ => refused _ _⟩
    rw [meets_bind]
    refine meets_checkPassword refused fun verified => ?_
    rw [meets_bind, meets_issuing]
    intro pair issued
    have writes := Writes.login (s := s) (by simp [signed]) isBody agreed valid verified issued
    exact meets_written writes _ _

theorem kept_refresh (request : SignedRequest) : Kept s now (refresh request) := by
  unfold Kept program
  rw [keeps_answerAttempt]
  unfold Service.refresh
  rw [meets_bind]
  refine meets_checking_none refused ?_
  rw [meets_bind, meets_readBody]
  refine ⟨fun body isBody => ?_, fun _ => refused _ _⟩
  rw [meets_bind, meets_masking]
  refine meets_resolve (fun _ => asks_of_looksUp _ _ trivial) (fun _ _ => refused _ _) fun old belongs => ?_
  dsimp only
  rw [meets_ite, meets_bind, meets_failWith]
  refine ⟨fun _ => refused _ _, fun named => ?_⟩
  split
  next secret held =>
    rw [meets_bind, meets_pure, meets_bind]
    refine meets_checking refused fun stamp valid => ?_
    rw [meets_bind, meets_issuing]
    intro pair issued
    have writes := Writes.refresh isBody belongs (by simpa [eq_comm] using named) held valid issued
    exact meets_written writes _ _
  next unheld =>
    rw [meets_bind, meets_failWith]
    exact refused _ _

theorem kept_logout (request : SignedRequest) : Kept s now (logout request) := by
  unfold Kept program
  rw [keeps_answerAttempt]
  unfold Service.logout
  rw [meets_bind, meets_readBody]
  refine ⟨fun body isBody => ?_, fun _ => refused _ _⟩
  dsimp only
  split
  next token kind presented =>
    rw [meets_bind, meets_pure, meets_bind, meets_masking]
    refine meets_resolve (fun _ => asks_of_looksUp _ _ trivial) (fun _ _ => refused _ _) fun old belongs => ?_
    rw [meets_ite, meets_bind, meets_failWith]
    refine ⟨fun _ => refused _ _, fun named => ?_⟩
    have isNamed : body.email = "" ∨ body.email = old.email :=
      Decidable.or_iff_not_imp_left.mpr (by simpa using named)
    have writes := Writes.logout (s := s) isBody presented belongs isNamed
    exact meets_written writes _ _
  next unpresented =>
    rw [meets_bind, meets_throw]
    exact refused _ _

theorem kept_rename (p : Principal) (id : Int64) (request : SignedRequest) :
    Kept s now (rename p id request) := by
  unfold Kept program
  rw [keeps_answerTask]
  unfold Service.renameUser
  rw [meets_bind]
  refine meets_passing (fun _ e ok => absurd ok (ApiError.ofAuth_ne_ok e)) fun noted passed => ?_
  rw [meets_bind, meets_attempting, meets_readBody]
  refine ⟨fun body isBody => ?_, fun _ ok => absurd ok (ApiError.ofAuth_ne_ok _)⟩
  dsimp only
  rw [meets_ite, meets_bind, meets_throw]
  refine ⟨fun _ ok => absurd ok (by decide), fun named => ?_⟩
  rw [meets_bind, meets_asking]
  refine ⟨asks_of_looksUp _ _ trivial, fun old => ?_, fun e ok => absurd ok (ApiError.ofStore_ne_ok e)⟩
  have writes : (rename p id request).Writes s now (noted ++ [.store (.findById id) (.ok old)]) old _ _ :=
    .rename passed isBody (by simpa using named)
  rw [meets_bind, meets_asking]
  refine ⟨asks_update writes, fun saved => ?_, fun e ok => absurd ok (ApiError.ofStore_ne_ok e)⟩
  rw [meets_bind, meets_liftM, Program.keeps_log]
  exact fun _ => .written writes

end Handler

/-- Handlers ask for updates only as they write, and answer 200 only when they succeed. -/
theorem Handler.kept (s : Service) (now : Instant) (handler : Handler) : Kept s now handler := by
  cases handler with
  | login request => exact kept_login request
  | refresh request => exact kept_refresh request
  | logout request => exact kept_logout request
  | rename p id request => exact kept_rename p id request

/-! ### What is known of a handler that writes -/

namespace Handler.Writes

variable {s : Service} {now : Instant} {handler : Handler} {h : List Exchange} {old new : User}
  {fields : List UserField}

/-- What a handler wants written differs from what it has read in the fields to be written only. -/
theorem copies (writes : handler.Writes s now h old fields new) :
    fields.foldl new.copyField old = new ∧ new.version = old.version ∧ new.id = old.id := by
  cases writes <;> exact ⟨rfl, rfl, rfl⟩

/-- The record that a handler goes by has been looked up, and nothing else has been asked of the store. -/
theorem looked (writes : handler.Writes s now h old fields new) :
    ∃ call : StoreCall, call.LooksUp ∧ .store call (.ok old) ∈ h ∧
      ∀ other answer, .store other answer ∈ h → other = call ∧ answer = .ok old := by
  cases writes with
  | login => exact ⟨.findByEmail _, trivial, List.mem_cons_of_mem _ List.mem_cons_self, by simp⟩
  | refresh => exact ⟨.findByEmail _, trivial, List.mem_cons_self, by simp⟩
  | logout => exact ⟨.findByEmail _, trivial, List.mem_cons_self, by simp⟩
  | rename passed =>
    refine ⟨.findById _, trivial, List.mem_append_right _ List.mem_cons_self, ?_⟩
    cases passed <;> simp

theorem unwritten (writes : handler.Writes s now h old fields new) (user : User)
    (written : List UserField) (answer : StoreAnswer) : .store (.update user written) answer ∉ h := by
  intro member
  obtain ⟨call, looks, -, only⟩ := writes.looked
  obtain ⟨rfl, -⟩ := only _ _ member
  exact looks.elim

/-- An update is granted only while the record is as the handler has read it. The handler's fields are then
written to it, and nothing else but the version. -/
theorem granted (writes : handler.Writes s now h old fields new) {seen store : Store} {saved : User}
    (known : seen.find? old.id = some old) (grows : seen.Grows store)
    (grants : (store.update new fields).1 = some (.ok saved)) :
    store.find? old.id = some old ∧ new.written? fields old = some saved ∧
      saved = { new with version := old.version + 1 } ∧ saved.version.toInt = old.version.toInt + 1 ∧
      (store.update new fields).2 = store.insert saved := by
  obtain ⟨copied, sameVersion, sameId⟩ := writes.copies
  obtain ⟨record, found, current, written, updated⟩ := Store.update_granted grants
  rw [sameId] at found
  obtain rfl : record = old := grows.same known found (current.trans sameVersion)
  have renewed := written
  unfold User.written? at renewed
  rw [copied] at renewed
  obtain ⟨isNext, later⟩ := User.version_renewed renewed
  rw [sameVersion] at isNext later
  exact ⟨found, written, isNext, later, updated⟩

end Handler.Writes

/-! ### A small service

One user, whose session lasts for the first minute of 1970. -/

namespace Sample

def service : Service where
  tokens := {
    secret := [1]
    sessionLifetime := ⟨60, by decide⟩
    refreshLifetime := ⟨60, by decide⟩
    secret_ne := by decide }
  keys := {
    scalar := 1
    publicKey := {
      x := Fin.ofNat P256.prime 0x6b17d1f2e12c4247f8bce6e563a440f277037d812deb33a0f4a13945d898c296
      y := Fin.ofNat P256.prime 0x4fe342e2fe1a7f9b8ee7eb4a7c0f9e162bce33576b315ececbb6406837bf51f5
      onCurve := by decide +kernel }
    scalar_lt := by decide
    agrees := by decide +kernel }

def user : User where
  id := 0
  version := 0
  email := "a"
  name := "A"
  refreshToken := some ""
  sharedSecret := some "AA"
  roles := [{ id := 0, name := "", privileges := PrivilegeSet.grant .empty "app_user" [.update] }]

def world : World where
  store := .ofList [user]
  replay := .new 0

/-- The token of the user's session. -/
def token : String :=
  "eyJhbGciOiJIUzI1NiJ9." ++
    "eyJzdWIiOiJhIiwiaXNzIjoibXd1aSIsImF1ZCI6Im13dWktY2xpZW50cyIsImlhdCI6MCwibmJmIjowLCJleHAiOjYwfQ." ++
    "YupE4Ov_aXKyHCbK8LbVIzs3KH1RQKszvwyUsH3kmHc"

end Sample

end Countersign
