import Countersign.Proofs.Refreshes

/-!
Logins that are signed.

Once the signature has been checked under the secret that the presented key agrees on, a login looks up its email
(`Service.follows_login`). What it comes to then depends on the record that is found (`Service.enter`).
-/

namespace Countersign

open Http (Request Response)
open Json (Node)

namespace Service

open Session (Attempt)

variable {s : Service} {n : Nat} {h : List Exchange}

/-- What is left of a login whose signature is in order. -/
def enter (s : Service) (body : LoginRequest) (secret : SharedSecret) (now : Instant) : Attempt Response := do
  let user ← userByEmail body.email
  checkPassword user body.password
  let pair ← s.issuing user.email now
  let saved ← saving
    { user with refreshToken := some pair.refreshToken, sharedSecret := some secret.toText }
    [.refreshToken, .sharedSecret]
  Program.log (.loggedIn saved.id)
  return .json 200 (LoginReply.toValue {
    publicKey := s.keys.publicKey.toText
    email := saved.email
    token := pair.token
    refreshToken := pair.refreshToken
    user := saved.profile })

theorem follows_step {ε α β : Type} {ends : Nat → List Exchange → Except ε β → Prop} {x : ExceptT ε Program α}
    {f : α → ExceptT ε Program β} (achieves : Achieves (fun n h a => (f a).run.Follows ends n h) x n h) :
    (x >>= f).run.Follows ends n h :=
  follows_of_achieves (f := ExceptT.bindCont f) achieves

theorem achieves_agree {peer : String} {secret : SharedSecret} (agreed : s.keys.derive peer = .ok secret)
    {ends : Nat → List Exchange → SharedSecret → Prop} (ended : ends n h secret) :
    Achieves ends (s.agree peer) n h := by
  unfold agree
  rw [agreed]
  exact ended

theorem follows_login {request : SignedRequest} {now : Instant} {body : LoginRequest} {secret : SharedSecret}
    {stamp : Stamp} (signed : (request.headers.first? Signature.signatureHeader).isSome = true)
    (isBody : (Node.read? request.body).bind LoginRequest.ofNode? = some body) (email_ne : body.email ≠ "")
    (key_ne : body.publicKey ≠ "") (agreed : s.keys.derive body.publicKey = .ok secret)
    (valid : stamp.Valid request secret.bytes now) {ends : Nat → List Exchange → Except AuthError Response → Prop}
    (rest : (s.enter body secret now).run.Follows ends n h) :
    (s.loginOrKey request now).run.Follows ends (n + 1) (.record stamp.timestamp stamp.nonce true :: h) := by
  obtain ⟨signature, isSigned⟩ := Option.isSome_iff_exists.mp signed
  unfold loginOrKey
  rw [isSigned]
  show (s.login request now).run.Follows _ _ _
  unfold login
  refine follows_step (achieves_readBody isBody ?_)
  dsimp only
  rw [if_neg (by simpa using email_ne), if_neg (by simpa using key_ne)]
  refine follows_step (achieves_agree agreed ?_)
  exact follows_step (achieves_checking valid rest)

/-- What is left of a login comes to a session if the password is the user's. -/
theorem achieves_enter {body : LoginRequest} {secret : SharedSecret} {now : Instant} {user : User} {pair : TokenPair}
    (named : body.email = user.email) (verified : Password.verify body.password user.passwordHash = some (.ok true))
    (issued : s.tokens.issuePair user.email now = some pair) (saved : User)
    {ends : Nat → List Exchange → Response → Prop}
    (ended : ends n h (.json 200 (LoginReply.toValue
      ⟨s.keys.publicKey.toText, saved.email, pair.token, pair.refreshToken, saved.profile⟩))) :
    Achieves ends (s.enter body secret now) (n + 3)
      (.store (.findByEmail user.email) (.ok user) ::
        .store (.update { user with refreshToken := some pair.refreshToken, sharedSecret := some secret.toText }
          [.refreshToken, .sharedSecret]) (.ok saved) :: h) := by
  unfold enter userByEmail
  rw [named]
  refine achieves_bind (achieves_bind (achieves_liftM (Program.follows_store ?_)))
  show Achieves _ (checkPassword user body.password >>= _) _ _
  have checked : checkPassword user body.password = pure () := by
    unfold checkPassword
    rw [verified]
  rw [checked]
  refine achieves_bind ?_
  show Achieves _ (s.issuing user.email now >>= _) _ _
  refine achieves_bind (achieves_issuing issued ?_)
  refine achieves_bind (achieves_saving ?_)
  exact achieves_bind (achieves_liftM (Program.follows_log ended))

theorem follows_answerAttempt_error {x : Attempt Response} {ends : Nat → List Exchange → Response → Prop}
    {e : AuthError} (follows : x.run.Follows (fun m h r => r = .error e ∧ ∃ n, m = n + (Event.ofAuthError e).length ∧
      ends n h e.response) n h) : (answerAttempt x).Follows ends n h := by
  unfold answerAttempt
  refine Program.follows_bind (Program.follows_mono ?_ follows)
  rintro _ h _ ⟨rfl, n, rfl, ended⟩
  exact Program.follows_bind (Program.follows_logAll _ ended)

/-- A signed login comes to what is answered to it once it is under way. -/
theorem follows_put {request : Request} {now : Instant} {ends : Response → Prop}
    (small : request.body.length ≤ maxBody) (put : request.method = .put) (place : s.route? request = some .auth)
    (follows : (answerAttempt (s.loginOrKey request.signed now)).Follows (fun n h r => n = 1 ∧ h = [] ∧ ends r) n h)
    (newId : String) :
    (s.handle request newId now).Follows (Program.Ended fun r => ∃ answer, ends answer ∧ r.status = answer.status ∧
      (request.method ≠ .head → r.body = answer.body)) n h := by
  refine follows_handled small (by rw [put]; decide) place ?_ newId
  show (if request.method = .put then _ else _ : Program Response).Follows _ _ _
  rw [if_pos put]
  exact follows

/-- A login that is in order is answered 200. -/
theorem follows_session {request : Request} {now : Instant} {body : LoginRequest} {secret : SharedSecret}
    {stamp : Stamp} {user : User} {pair : TokenPair} (small : request.body.length ≤ maxBody)
    (put : request.method = .put) (place : s.route? request = some .auth)
    (signed : (request.headers.first? Signature.signatureHeader).isSome = true)
    (isBody : (Node.read? request.body).bind LoginRequest.ofNode? = some body) (email_ne : body.email ≠ "")
    (key_ne : body.publicKey ≠ "") (agreed : s.keys.derive body.publicKey = .ok secret)
    (valid : stamp.Valid request.signed secret.bytes now) (named : body.email = user.email)
    (verified : Password.verify body.password user.passwordHash = some (.ok true))
    (issued : s.tokens.issuePair user.email now = some pair) (saved : User) (newId : String) :
    (s.handle request newId now).Follows (Program.Ended fun r => r.status = 200 ∧ r.body = (LoginReply.toValue
        ⟨s.keys.publicKey.toText, saved.email, pair.token, pair.refreshToken, saved.profile⟩).write) 5
      [.record stamp.timestamp stamp.nonce true, .store (.findByEmail user.email) (.ok user),
        .store (.update { user with refreshToken := some pair.refreshToken, sharedSecret := some secret.toText }
          [.refreshToken, .sharedSecret]) (.ok saved)] := by
  refine follows_handle_json small (by rw [put]; decide) (by rw [put]; decide) place ?_ newId
  show (if request.method = .put then _ else _ : Program Response).Follows _ _ _
  rw [if_pos put]
  refine follows_answerAttempt (follows_login (n := 4) signed isBody email_ne key_ne agreed valid ?_)
  exact achieves_enter (n := 1) named verified issued saved ⟨rfl, rfl, rfl⟩

end Service

end Countersign
