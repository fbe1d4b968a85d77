import Countersign.Proofs.Commitments
import Countersign.Proofs.Refreshes

/-!
A logout closes the session.

What a logout removes comes back with a login only: a refresh needs the token that has been removed, and a change of a
record the secret. The secret is read with the caller's record, so neither a session token that is still good nor a
signature under the old secret is of use (`Service.patch_refused`, `Series.logout_closes`).
-/

namespace Countersign

open Http (Method Request Response)
open Json (Node)

/-! ### Refusals -/

/-- Statuses that lay the failure on the request. -/
def Http.Response.Refuses (r : Response) : Prop := 400 ≤ r.status ∧ r.status < 500

/-- A failure that is answered so. -/
def ApiError.Refuses (e : ApiError) : Prop := e.response.Refuses

/-- A task of which nothing is left but notes in the log and a refusal. -/
def Task.Refused {α : Type} (x : Task α) : Prop := x.run.Settled fun r => ∃ e, r = .error e ∧ e.Refuses

namespace Task.Refused

variable {α β : Type}

theorem bind {x : Task α} (refused : Refused x) (f : α → Task β) : Refused (x >>= f) := by
  refine Program.settled_bind (Program.settled_mono ?_ refused)
  rintro _ ⟨e, rfl, refuses⟩
  exact ⟨e, rfl, refuses⟩

theorem answer {x : Task Response} (refused : Refused x) : (Service.answerTask x).Settled Response.Refuses := by
  refine Program.settled_bind (Program.settled_mono ?_ refused)
  rintro _ ⟨e, rfl, refuses⟩
  exact refuses

end Task.Refused

/-- Without a secret the gate lets no change pass. -/
theorem Gate.checkMethod_settled {p : Principal} (unheld : p.sharedSecret = none) {request : SignedRequest}
    (patch : request.method = .patch) (resource : String) (now : Instant) :
    (checkMethod p resource request now).Settled fun r =>
      ∃ denial, r = .error denial ∧ (ApiError.ofAuth (.ofDenial denial)).Refuses := by
  have missing : (ApiError.ofAuth (.ofDenial .missingPrivilege)).Refuses := by
    constructor <;> decide
  have unsigned : (ApiError.ofAuth (.ofDenial .noSharedSecret)).Refuses := by
    constructor <;> decide
  unfold checkMethod
  rw [patch]
  show (check p resource .update request now).Settled _
  unfold check
  split
  · exact ⟨_, rfl, missing⟩
  · exact ⟨_, rfl, missing⟩
  · rw [if_pos (by rw [patch]; decide), unheld]
    exact ⟨_, rfl, unsigned⟩

namespace Service

variable {s : Service}

theorem attempting_refused {α : Type} {x : Session.Attempt α}
    (settled : x.run.Settled fun r => ∃ e, r = .error e ∧ (ApiError.ofAuth e).Refuses) : (attempting x).Refused := by
  unfold attempting
  refine Program.settled_bind (Program.settled_bind (Program.settled_mono ?_ settled))
  rintro _ ⟨e, rfl, refuses⟩
  refine Program.settled_bind (Program.settled_bind (Program.settled_logAll _ ?_))
  exact ⟨_, rfl, refuses⟩

theorem passing_refused {p : Principal} (unheld : p.sharedSecret = none) {request : SignedRequest}
    (patch : request.method = .patch) (now : Instant) : (passing p request now).Refused := by
  refine attempting_refused (Program.settled_bind (Program.settled_bind (Program.settled_mono ?_
    (Gate.checkMethod_settled unheld patch userResource now))))
  rintro _ ⟨denial, rfl, refuses⟩
  exact ⟨_, rfl, refuses⟩

theorem userEndpoint_settled {p : Principal} (unheld : p.sharedSecret = none) {request : SignedRequest}
    (patch : request.method = .patch) (segment : String) (now : Instant) :
    (userEndpoint .patch segment request now (some p)).Settled Response.Refuses := by
  show (withUserId segment fun id => answerTask (renameUser p id request now)).Settled _
  unfold withUserId
  split
  · exact ((passing_refused unheld patch now).bind _).answer
  · exact ⟨Nat.le_refl 400, by simp [Response.plain]⟩

end Service

/-! ### Requests that present a session -/

/-- The user whom the look-up behind a token finds. -/
def World.Resolves (backend : Backend) (w : World) (tokens : TokenService) (token : String) (kind : Session.TokenKind)
    (now : Instant) (user : User) : Prop :=
  ((Session.resolve tokens token kind now).run.run (World.answerWith backend) w).1 = some (.ok user)

section

variable {backend : Backend} {w : World} {tokens : TokenService} {token : String} {kind : Session.TokenKind}
  {now : Instant} {user : User}

theorem World.Resolves.found (working : backend.Working) (resolves : w.Resolves backend tokens token kind now user) :
    Session.Belongs tokens token kind now user ∧ (backend (.findByEmail user.email) w.store).1 = some (.ok user) ∧
      ((Session.resolve tokens token kind now).run.run (World.answerWith backend) w).2.memory = w.memory := by
  have meets : Meets .lookUps (fun h user => h = [.store (.findByEmail user.email) (.ok user)] ∧
      Session.Belongs tokens token kind now user) (fun _ _ => True) (Session.resolve tokens token kind now) [] :=
    Service.meets_resolve (fun _ => trivial) (fun _ _ => trivial) fun user belongs => ⟨rfl, belongs⟩
  have begins : Asked .lookUps [] := fun before call answer begins => by simp at begins
  obtain ⟨heard, -, hears, isLeft, ends⟩ := Program.Keeps.run working (w := w) meets begins trivial rfl
  obtain ⟨rfl, belongs⟩ := ends _ resolves
  have looked : (backend (.findByEmail user.email) w.store).2 = w.store :=
    @Backend.Working.looks _ working (.findByEmail user.email) trivial w.store
  refine ⟨belongs, hears.1, isLeft.trans ?_⟩
  show Memory.mk (backend (.findByEmail user.email) w.store).2 w.replay = _
  rw [looked]
  rfl

/-- A token stands for one user at most. -/
theorem Session.Belongs.email {user other : User} {kinds : TokenKind} (belongs : Belongs tokens token kind now user)
    (too : Belongs tokens token kinds now other) : user.email = other.email := by
  obtain ⟨claims, parsed, subject⟩ := belongs.parses
  obtain ⟨_, parsedToo, subjectToo⟩ := too.parses
  cases parsed.symm.trans parsedToo
  rw [← subject, subjectToo]

end

/-- A program that refuses in a world, and leaves store and guard as they are. -/
def Program.RefusesIn (backend : Backend) (w : World) (p : Program Response) : Prop :=
  (∃ response, (p.run (World.answerWith backend) w).1 = some response ∧ response.Refuses) ∧
    (p.run (World.answerWith backend) w).2.memory = w.memory

namespace Service

variable {s : Service} {backend : Backend} {w : World} {request : Request} {now : Instant} {token : String}
  {caller : User}

theorem refusesIn_bind {p : Program Response} {f : Response → Program Response} (refuses : p.RefusesIn backend w)
    (settled : ∀ r, r.Refuses → (f r).Settled Response.Refuses) : (p >>= f).RefusesIn backend w := by
  obtain ⟨⟨r, answered, isRefusal⟩, kept⟩ := refuses
  have ran : p.run (World.answerWith backend) w = (some r, (p.run (World.answerWith backend) w).2) :=
    Prod.ext answered rfl
  obtain ⟨ended, left⟩ := (settled r isRefusal).run backend (p.run (World.answerWith backend) w).2
  unfold Program.RefusesIn
  rw [Program.run_bind_of_ends ran]
  exact ⟨ended, left.trans kept⟩

/-- Once the session is resolved, all depends on what is done for its user. -/
theorem withPrincipal_refuses (working : backend.Working) {use : Option Principal → Program Response}
    (presented : Session.presented? request.headers = some token)
    (resolves : w.Resolves backend s.tokens token .session now caller)
    (settled : (use (some (Principal.ofUser caller))).Settled Response.Refuses) :
    (s.withPrincipal request now use).RefusesIn backend w := by
  obtain ⟨-, -, kept⟩ := resolves.found working
  have ran : (Session.resolve s.tokens token .session now).run.run (World.answerWith backend) w =
    (some (.ok caller), _) := Prod.ext resolves rfl
  obtain ⟨ended, left⟩ := settled.run backend
    ((Session.resolve s.tokens token .session now).run.run (World.answerWith backend) w).2
  unfold Program.RefusesIn withPrincipal principalOf
  rw [presented]
  dsimp only
  rw [Program.run_bind_of_ends (Program.run_bind_of_ends ran _)]
  exact ⟨ended, left.trans kept⟩

/-- A change that a caller without a secret asks for is refused, wherever it goes. -/
theorem patch_refused (working : backend.Working) (patch : request.method = .patch)
    (presented : Session.presented? request.headers = some token)
    (resolves : w.Resolves backend s.tokens token .session now caller) (unheld : caller.sharedSecret = none)
    (newId : String) : (s.handle request newId now).RefusesIn backend w := by
  have noSecret : (Principal.ofUser caller).sharedSecret = none := by
    simp [Principal.sharedSecret, Principal.ofUser, unheld]
  have ended {p : Program Response} (settled : p.Settled Response.Refuses) : p.RefusesIn backend w :=
    settled.run backend w
  have endpoint (route : Route) : (s.endpoint route request now).RefusesIn backend w := by
    have wrong : wrongMethod.Refuses := by constructor <;> decide
    unfold endpoint
    rw [patch]
    cases route with
    | user segment => exact withPrincipal_refuses working presented resolves (userEndpoint_settled noSecret rfl ..)
    | me => exact withPrincipal_refuses working presented resolves wrong
    | docsDisabled => exact ended (by constructor <;> decide)
    | auth | authHealth | health | ready | description | docs | docsPage name => exact ended wrong
  have logged : (s.logged request now).RefusesIn backend w := by
    unfold Service.logged
    split
    · exact ended (by constructor <;> decide)
    split
    · exact refusesIn_bind (endpoint _) fun r refuses => by exact refuses
    · exact ended (by constructor <;> decide)
  unfold handle
  rw [if_neg (by rw [patch]; decide)]
  refine refusesIn_bind logged fun r refuses => ?_
  show Response.Refuses (if _ then _ else _)
  split <;> exact refuses

end Service

/-! ### The course of a session -/

namespace Series

/-- A request with a method that is answered 200, and changes the record of an identifier. -/
structure Serves (r : Series) (n : Nat) (m : Method) (id : Int64) : Prop where
  method : (r.request n).method = m
  succeeded : r.Succeeded n
  changes : ∃ old new, r.Changes n old new ∧ old.id = id

/-- A logout of a user that is answered 200. -/
structure Closes (r : Series) (n : Nat) (user : User) : Prop where
  delete : (r.request n).method = .delete
  resolves : ∃ body token kind, (Node.read? (r.request n).body).bind LogoutRequest.ofNode? = some body ∧
    Service.logoutToken body = some (token, kind) ∧
    (r.world n).Resolves r.backend r.service.tokens token kind (r.now n) user
  succeeded : r.Succeeded n

/-- The record of an identifier is there, and without refresh token and secret. -/
def Closed (r : Series) (n : Nat) (id : Int64) : Prop :=
  ∃ user, (r.world n).store.find? id = some user ∧ user.refreshToken = none ∧ user.sharedSecret = none

variable {r : Series} {n m : Nat} {user : User}

theorem Closes.closed (working : r.backend.Working) (closes : r.Closes n user) : r.Closed (n + 1) user.id := by
  have delete := closes.delete
  obtain ⟨body, token, kind, isBody, isToken, resolves⟩ := closes.resolves
  obtain ⟨response, answered, ok⟩ := closes.succeeded
  obtain ⟨belongs, looked, -⟩ := resolves.found working
  have ran : r.handled n (r.world n) = (some response, r.world (n + 1)) := Prod.ext answered rfl
  rcases Service.answered_writes working ran ok with (get | head | options) | ⟨put, -⟩ | wrote
  · exact absurd (delete.symm.trans get) (by decide)
  · exact absurd (delete.symm.trans head) (by decide)
  · exact absurd (delete.symm.trans options) (by decide)
  · exact absurd (delete.symm.trans put) (by decide)
  obtain ⟨before, handler, after, old, fields, new, saved, reached, writes, hears, grants, written⟩ := wrote
  obtain ⟨changed, differs, follows, mediates⟩ := reached.changes working writes hears grants written
  have isUser : old = user := by
    cases reached with
    | login put => exact absurd (delete.symm.trans put) (by decide)
    | refresh post => exact absurd (delete.symm.trans post) (by decide)
    | rename patch => exact absurd (delete.symm.trans patch) (by decide)
    | logout =>
      cases writes with
      | logout isBodyToo isTokenToo belongsToo =>
        cases isBody.symm.trans isBodyToo
        cases isToken.symm.trans isTokenToo
        rw [belongs.email belongsToo] at looked
        cases looked.symm.trans hears.1
        rfl
  subst isUser
  refine ⟨changed, differs.is, ?_⟩
  cases mediates with
  | login put => exact absurd (delete.symm.trans put) (by decide)
  | refresh post => exact absurd (delete.symm.trans post) (by decide)
  | rename patch => exact absurd (delete.symm.trans patch) (by decide)
  | logout => exact ⟨rfl, rfl⟩

theorem Closed.of_found {id : Int64} (closed : r.Closed n id) (found : (r.world n).store.find? id = some user) :
    user.refreshToken = none ∧ user.sharedSecret = none := by
  obtain ⟨_, isUser, removed⟩ := closed
  cases isUser.symm.trans found
  exact removed

/-- A refresh would need the token that has been removed. -/
theorem Closed.refreshless {id : Int64} (closed : r.Closed n id) : ¬ r.Serves n .post id := by
  rintro ⟨post, -, old, new, ⟨differs, -, mediates⟩, rfl⟩
  cases mediates with
  | login put => exact absurd (post.symm.trans put) (by decide)
  | logout delete => exact absurd (post.symm.trans delete) (by decide)
  | rename patch => exact absurd (post.symm.trans patch) (by decide)
  | refresh _ place isBody belongs =>
    have kept := belongs.kept rfl
    rw [(closed.of_found differs.was).1] at kept
    cases kept

theorem Changes.store_ne {old new : User} (changes : r.Changes n old new) :
    (r.world (n + 1)).store ≠ (r.world n).store := by
  obtain ⟨differs, follows, -⟩ := changes
  intro same
  have isNew := differs.is
  rw [same, differs.was] at isNew
  cases isNew
  exact absurd follows.version (by omega)

/-- Whoever changes a record has been answered 200 for it. -/
theorem Changes.serves (working : r.backend.Working) {old new : User} (changes : r.Changes n old new) :
    r.Serves n (r.request n).method old.id :=
  ⟨rfl, Service.answered_of_changed working changes.store_ne, old, new, changes, rfl⟩

/-- Nothing but a login gives a user a refresh token or a secret again. -/
theorem Closed.succ (working : r.backend.Working) {id : Int64} (closed : r.Closed n id)
    (noLogin : ¬ r.Serves n .put id) : r.Closed (n + 1) id := by
  rcases step working n with same | ⟨old, new, changes⟩
  · rw [Closed, same]
    exact closed
  have serves := changes.serves working
  obtain ⟨differs, -, mediates⟩ := changes
  by_cases isOld : old.id = id
  · subst isOld
    have removed := closed.of_found differs.was
    refine ⟨new, differs.is, ?_⟩
    cases mediates with
    | login put => exact absurd (put ▸ serves) noLogin
    | refresh post => exact absurd (post ▸ serves) closed.refreshless
    | logout => exact ⟨rfl, rfl⟩
    | rename => exact removed
  · obtain ⟨user, found, removed⟩ := closed
    refine ⟨user, ?_, removed⟩
    rw [differs.others id (Ne.symm isOld)]
    exact found

theorem Closes.stays (working : r.backend.Working) (closes : r.Closes n user) (later : n < m)
    (noLogin : ∀ k, n < k → k < m → ¬ r.Serves k .put user.id) : r.Closed m user.id := by
  induction later with
  | refl => exact closes.closed working
  | @step m later ih =>
    have before := ih fun k first last => noLogin k first (Nat.lt_succ_of_lt last)
    exact before.succ working (noLogin m later (Nat.lt_succ_self m))

/-- The store of the series works as far as a step: the backend does, and no record has had the last version before. The
update of such a record has no answer, and what the store is good for after that is not said here. -/
structure WorksUntil (r : Series) (m : Nat) : Prop where
  backend : r.backend.Working
  renewable : ∀ k < m, ∀ user : User, (r.world k).store.find? user.id = some user → user.version ≠ Int64.maxValue

/-- From a logout until the next login of the user there is neither refresh token nor secret with them, none of their
refreshes is answered 200, and all that they ask to be changed is refused. -/
theorem logout_closes (r : Series) (works : r.WorksUntil m) (closes : r.Closes n user) (later : n < m)
    (noLogin : ∀ k, n < k → k < m → ¬ r.Serves k .put user.id) :
    r.Closed m user.id ∧
      ((r.request m).method = .post → r.Succeeded m → ∃ old new, r.Changes m old new ∧ old.id ≠ user.id) ∧
      ∀ token caller, (r.request m).method = .patch → Session.presented? (r.request m).headers = some token →
        (r.world m).Resolves r.backend r.service.tokens token .session (r.now m) caller → caller.id = user.id →
        (∃ response, (r.handled m (r.world m)).1 = some response ∧ 400 ≤ response.status ∧ response.status < 500) ∧
          (r.world (m + 1)).store = (r.world m).store := by
  have working := works.backend
  have closed := closes.stays working later noLogin
  refine ⟨closed, ?_, ?_⟩
  · intro post succeeded
    obtain ⟨old, new, changes⟩ := succeeded_changes working succeeded post (by decide)
    exact ⟨old, new, changes, fun isUser => closed.refreshless ⟨post, succeeded, old, new, changes, isUser⟩⟩
  intro token caller patch presented resolves isUser
  obtain ⟨-, looked, -⟩ := resolves.found working
  have known : (r.world m).store.find? user.id = some caller := isUser ▸ (working.found looked trivial).1
  have noSecret := (closed.of_found known).2
  obtain ⟨refused, kept⟩ := Service.patch_refused working patch presented resolves noSecret (r.newId m)
  exact ⟨refused, congrArg Memory.store kept⟩

end Series

/-! ### A logout, and a change after it -/

namespace Service

open Session (Attempt)

variable {n : Nat} {h : List Exchange}

theorem achieves_logout {s : Service} {request : SignedRequest} {now : Instant} {body : LogoutRequest} {token : String}
    {kind : Session.TokenKind} {old saved : User}
    (isBody : (Node.read? request.body).bind LogoutRequest.ofNode? = some body)
    (presented : logoutToken body = some (token, kind)) (belongs : Session.Belongs s.tokens token kind now old)
    (named : body.email = "" ∨ body.email = old.email) {ends : Nat → List Exchange → Response → Prop}
    (ended : ends n h (.json 200 (StatusReply.toValue ⟨"ok"⟩))) :
    Achieves ends (s.logout request now) (n + 3)
      (.store (.findByEmail old.email) (.ok old) ::
        .store (.update { old with refreshToken := none, sharedSecret := none } [.refreshToken, .sharedSecret])
          (.ok saved) :: h) := by
  have isNamed : ¬ (¬ body.email.isEmpty = true ∧ body.email ≠ old.email) := by
    simpa [Decidable.or_iff_not_imp_left] using named
  unfold logout
  refine achieves_bind (achieves_readBody isBody ?_)
  dsimp only
  rw [presented]
  refine achieves_bind ?_
  show Achieves ends (masking _ (Session.resolve s.tokens token kind now) >>= _) _ _
  refine achieves_bind (achieves_masking (Session.achieves_resolve belongs ?_))
  rw [if_neg isNamed]
  refine achieves_bind (achieves_saving ?_)
  exact achieves_bind (achieves_liftM (Program.follows_log ended))

/-- A logout that is in order is answered 200. -/
theorem follows_logout {s : Service} {request : Request} {now : Instant} {body : LogoutRequest} {token : String}
    {kind : Session.TokenKind} {old : User} (small : request.body.length ≤ maxBody)
    (delete : request.method = .delete) (place : s.route? request = some .auth)
    (isBody : (Node.read? request.body).bind LogoutRequest.ofNode? = some body)
    (presented : logoutToken body = some (token, kind)) (belongs : Session.Belongs s.tokens token kind now old)
    (named : body.email = "" ∨ body.email = old.email) (saved : User) (newId : String) :
    (s.handle request newId now).Follows (Program.Ended fun r => r.status = 200) 4
      [.store (.findByEmail old.email) (.ok old),
        .store (.update { old with refreshToken := none, sharedSecret := none } [.refreshToken, .sharedSecret])
          (.ok saved)] := by
  refine follows_handle small (by rw [delete]; decide) place ?_ newId
  show (if request.method = .put then _ else if _ then _ else if _ then _ else _ : Program Response).Follows _ _ _
  rw [if_neg (by rw [delete]; decide), if_neg (by rw [delete]; decide), if_pos delete]
  exact follows_answerAttempt (achieves_logout (n := 1) isBody presented belongs named ⟨rfl, rfl, rfl⟩)

end Service

/-- What is heard of a logout. -/
def removal (old : User) : List Exchange :=
  [.store (.findByEmail old.email) (.ok old),
    .store (.update { old with refreshToken := none, sharedSecret := none } [.refreshToken, .sharedSecret])
      (.ok { old with refreshToken := none, sharedSecret := none, version := old.version + 1 })]

theorem Memory.hears_removal {m : Memory} {old : User} (found : m.store.findByEmail old.email = .ok old)
    (isOld : m.store.find? old.id = some old) (notLast : old.version ≠ Int64.maxValue) :
    m.Hears Store.answer (removal old) ∧
      (m.after Store.answer (removal old)).store =
        m.store.insert { old with refreshToken := none, sharedSecret := none, version := old.version + 1 } := by
  have updated : m.store.update { old with refreshToken := none, sharedSecret := none }
    [.refreshToken, .sharedSecret] = _ := Store.update_of_read isOld rfl rfl rfl notLast
  exact ⟨⟨congrArg some found, congrArg Prod.fst updated, trivial⟩, congrArg Prod.snd updated⟩

theorem Session.Belongs.resolves {backend : Backend} {w : World} {tokens : TokenService} {token : String}
    {kind : TokenKind} {now : Instant} {user : User} (belongs : Belongs tokens token kind now user)
    (found : (backend (.findByEmail user.email) w.store).1 = some (.ok user)) :
    w.Resolves backend tokens token kind now user := by
  have follows : (resolve tokens token kind now).run.Follows (Program.Ended fun r => r = .ok user) 1
      [.store (.findByEmail user.email) (.ok user)] := by
    refine Program.follows_mono ?_ (achieves_resolve belongs (n := 0) (h := []) ⟨rfl, rfl, rfl⟩ :
      Achieves (fun n h u => n = 0 ∧ h = [] ∧ u = user) (resolve tokens token kind now) 1 _)
    rintro n h (e | u) ended
    · exact ended.elim
    · exact ⟨ended.1, ended.2.1, congrArg _ ended.2.2⟩
  have hears : w.memory.Hears backend [.store (.findByEmail user.email) (.ok user)] := ⟨found, trivial⟩
  obtain ⟨⟨_, answered, rfl⟩, -⟩ := follows.run hears
  exact answered

namespace Sample

@[irreducible]
def logoutBody : Bytes := Bytes.ofText ("\x7b\"token\":\"" ++ token ++ "\"\x7d")

def logout : Request where
  method := .delete
  target := .ofText "/api/v1/auth"
  headers := []
  body := logoutBody

/-- The user after a logout. -/
def gone : User := { user with refreshToken := none, sharedSecret := none, version := 1 }

/-- A logout, and a change under the secret of the session that it has closed. -/
def closing : Series where
  service := service
  backend := Store.answer
  start := world
  request n := if n = 0 then logout else rename "aaaaaaaaaaaaaaaaaaaa"
  newId _ := ""
  now _ := ⟨60, 0⟩

theorem token_belongs {u : User} (isEmail : u.email = "a") :
    Session.Belongs service.tokens token .session ⟨60, 0⟩ u :=
  ⟨⟨_, token_parses, isEmail.symm⟩, nofun⟩

theorem logoutBody_read : (Node.read? logoutBody).bind LogoutRequest.ofNode? = some ⟨"", some token, none⟩ := by
  have isWritten : "\x7b\"token\":\"" ++ token ++ "\"\x7d" =
      (Json.Value.object [("token", .string token)]).write := by
    refine String.toList_injective ?_
    simp [Json.Value.write, Json.Value.writeOnto, Json.Value.writeMembers, token_plain.writeOnto,
      (show Json.Plain "token" by decide).writeOnto]
  unfold logoutBody
  rw [isWritten]
  exact LogoutRequest.read_token token

theorem logoutToken_token : Service.logoutToken ⟨"", some token, none⟩ = some (token, .session) := by
  decide +kernel

theorem closing_closes : closing.Closes 0 user ∧ (closing.world 1).store = .ofList [gone] := by
  have place : service.route? logout = some .auth := Request.route?_sessions service rfl
  have small : logoutBody.length ≤ Service.maxBody := by decide +kernel
  have follows := Service.follows_logout small rfl place logoutBody_read logoutToken_token
    (token_belongs (u := user) rfl) (.inl rfl) gone ""
  have found : (closing.world 0).store.findByEmail user.email = .ok user := rfl
  obtain ⟨hears, after⟩ := Memory.hears_removal (m := (closing.world 0).memory) found rfl (by decide)
  obtain ⟨succeeded, leads⟩ := Series.succeeded_of_follows (r := closing) (i := 0) follows hears
  have resolves : (closing.world 0).Resolves Store.answer service.tokens token .session ⟨60, 0⟩ user :=
    (token_belongs rfl).resolves (congrArg some found)
  exact ⟨⟨rfl, ⟨_, _, _, logoutBody_read, logoutToken_token, resolves⟩, succeeded⟩, leads.trans after⟩

end Sample

theorem Series.logout_closes_rename : Sample.closing.Closes 0 Sample.user ∧
    ∃ response, (Sample.closing.handled 1 (Sample.closing.world 1)).1 = some response ∧
      400 ≤ response.status ∧ response.status < 500 := by
  obtain ⟨closes, stored⟩ := Sample.closing_closes
  have found : (Store.answer (.findByEmail "a") (Sample.closing.world 1).store).1 = some (.ok Sample.gone) := by
    rw [stored]
    rfl
  have works : Sample.closing.WorksUntil 1 := by
    refine ⟨Store.answer_working, fun k first user found => ?_⟩
    cases Nat.lt_one_iff.mp first
    cases List.mem_singleton.mp (Catalog.mem_of_find? found).1
    decide
  obtain ⟨-, -, refused⟩ := Series.logout_closes Sample.closing works closes (Nat.lt_succ_self 0)
    fun k first last => by omega
  have presented := Sample.rename_presented "aaaaaaaaaaaaaaaaaaaa"
  exact ⟨closes, (refused _ Sample.gone rfl presented ((Sample.token_belongs rfl).resolves found) rfl).1⟩

end Countersign
