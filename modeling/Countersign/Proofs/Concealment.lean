import Countersign.Proofs.Agreement
import Countersign.Proofs.Commitments
import Countersign.Proofs.Logins

/-!
A login does not tell who has an account.

Two runs of one program are compared, in worlds with equal guards and with different stores (`Program.Blind`). A login
asks the store for the record of its email only. Where there is none, and where the password check refuses the one there
is, it comes to the same answer (`Service.login_conceals`). A check that is left without a verdict is a failure of the
system, and tells that there is a record (`Service.login_tells`).
-/

namespace Countersign

open Http (Request Response)
open Json (Node)

namespace Program

variable {α β : Type} {backend : Backend} {first second : Store}

/-- Run on either store, a program comes to the same end with the same guard, and writes nothing. -/
def Blind (backend : Backend) (first second : Store) (p : Program α) : Prop :=
  ∀ w v : World, w.store = first → v.store = second → w.replay = v.replay →
    (p.run (World.answerWith backend) w).1 = (p.run (World.answerWith backend) v).1 ∧
    (p.run (World.answerWith backend) w).2.replay = (p.run (World.answerWith backend) v).2.replay ∧
    (p.run (World.answerWith backend) w).2.store = first ∧ (p.run (World.answerWith backend) v).2.store = second

theorem blind_done (a : α) : (done a).Blind backend first second := by
  intro w v isFirst isSecond sameGuard
  exact ⟨rfl, sameGuard, isFirst, isSecond⟩

theorem blind_bind {p : Program α} {f : α → Program β} (blind : p.Blind backend first second)
    (rest : ∀ a, (f a).Blind backend first second) : (p >>= f).Blind backend first second := by
  intro w v isFirst isSecond sameGuard
  obtain ⟨sameEnd, sameGuard, isFirst, isSecond⟩ := blind w v isFirst isSecond sameGuard
  rw [run_bind, run_bind]
  generalize p.run (World.answerWith backend) w = left at *
  generalize p.run (World.answerWith backend) v = right at *
  obtain ⟨a, later⟩ := left
  obtain ⟨b, after⟩ := right
  obtain rfl : a = b := sameEnd
  cases a with
  | none => exact ⟨rfl, sameGuard, isFirst, isSecond⟩
  | some a => exact rest a later after isFirst isSecond sameGuard

/-- A program that does not ask the store leaves it to what comes after it. -/
theorem blind_of_keeps {p : Program α} {f : α → Program β} {h : List Exchange}
    (keeps : p.Keeps (fun _ _ => False) (fun _ a => (f a).Blind backend first second) h) :
    (p >>= f).Blind backend first second := by
  induction p generalizing h with
  | done a => exact keeps
  | abort => exact fun w v isFirst isSecond sameGuard => ⟨rfl, sameGuard, isFirst, isSecond⟩
  | call c next ih =>
    obtain ⟨allowed, goesOn⟩ := keeps
    intro w v isFirst isSecond sameGuard
    cases c with
    | store call => exact allowed.elim
    | log e => exact ih () (goesOn ()) _ _ isFirst isSecond sameGuard
    | record timestamp nonce =>
      have step (u : World) : (Program.call (.record timestamp nonce) next >>= f).run (World.answerWith backend) u =
          (next (u.replay.record timestamp nonce).1 >>= f).run (World.answerWith backend)
            { u with replay := (u.replay.record timestamp nonce).2 } := rfl
      rw [step w, step v, ← sameGuard]
      exact ih _ (goesOn _) _ _ isFirst isSecond rfl

/-- A question to the store after which nothing is left to do, and the end is the same on either store. -/
theorem blind_store {call : StoreCall} {next : (Call.store call).Answer → Program α} {x y : StoreAnswer} {a : α}
    (left : backend call first = (some x, first)) (right : backend call second = (some y, second))
    (settledLeft : (next x).Settled (· = a)) (settledRight : (next y).Settled (· = a)) :
    (Program.call (.store call) next).Blind backend first second := by
  have step {u : World} {z : StoreAnswer} (answered : backend call u.store = (some z, u.store)) :
      (Program.call (.store call) next).run (World.answerWith backend) u =
        (next z).run (World.answerWith backend) u := by
    have answers : World.answerWith backend (.store call) u = (some z, u) := by
      show ((backend call u.store).1, { u with store := (backend call u.store).2 }) = _
      rw [answered]
    rw [Program.run, answers]
  rintro w v rfl rfl sameGuard
  obtain ⟨⟨_, endsLeft, rfl⟩, keptLeft⟩ := settledLeft.run backend w
  obtain ⟨⟨_, endsRight, rfl⟩, keptRight⟩ := settledRight.run backend v
  rw [step left, step right]
  have replays := (congrArg Memory.replay keptLeft).trans (sameGuard.trans (congrArg Memory.replay keptRight).symm)
  exact ⟨endsLeft.trans endsRight.symm, replays, congrArg Memory.store keptLeft, congrArg Memory.store keptRight⟩

end Program

section

variable {ε α β : Type} {backend : Backend} {first second : Store}

theorem blind_of_meets {x : ExceptT ε Program α} {f : α → ExceptT ε Program β} (meets : Meets (fun _ _ => False)
      (fun _ a => (f a).run.Blind backend first second) (fun _ _ => True) x []) :
    (x >>= f).run.Blind backend first second := by
  refine Program.blind_of_keeps (f := ExceptT.bindCont f) (Program.keeps_mono ?_ meets)
  rintro _ (e | a) goesOn
  · exact Program.blind_done _
  · exact goesOn

end

namespace Service

variable {s : Service} {backend : Backend} {first second : Store} {now : Instant} {email : String} {user : User}

/-- A login finds no record, or one whose password is not the one presented. -/
theorem blind_lookup {candidate : String} {f : User → Session.Attempt Response}
    (working : backend.Working) (nobody : ∀ u ∈ first.entries, u.email ≠ email) (member : user ∈ second.entries)
    (named : user.email = email) (only : ∀ u ∈ second.entries, u.email = email → u = user)
    {verdict : Except PasswordError Bool} (verified : Password.verify candidate user.passwordHash = some verdict)
    (refused : verdict ≠ .ok true) :
    (userByEmail email >>= fun user => checkPassword user candidate >>= fun _ => f user).run.Blind backend first
      second := by
  obtain ⟨missing, finds, left⟩ := working.findByEmail email first
  obtain ⟨record, findsRecord, right⟩ := working.findByEmail email second
  cases finds with
  | found isIn isEmail => exact absurd isEmail (nobody _ isIn)
  | missing =>
    cases findsRecord with
    | missing noRecord => exact absurd named (noRecord user member)
    | found isIn isEmail =>
      obtain rfl := only _ isIn isEmail
      refine Program.blind_store left right (a := .error .invalidCredentials) rfl ?_
      show (checkPassword _ candidate >>= fun _ => f _).run.Settled _
      unfold checkPassword
      rw [verified]
      match verdict, refused with
      | .error e, _ => rfl
      | .ok false, _ => rfl
      | .ok true, refused => exact absurd rfl refused

theorem blind_login (working : backend.Working) {request : SignedRequest}
    (nobody : ∀ u ∈ first.entries, u.email ≠ email) (member : user ∈ second.entries)
    (named : user.email = email) (only : ∀ u ∈ second.entries, u.email = email → u = user)
    (rejected : ∀ body, (Node.read? request.body).bind LoginRequest.ofNode? = some body → body.email = email ∧
      ∃ verdict, Password.verify body.password user.passwordHash = some verdict ∧ verdict ≠ .ok true) :
    (s.loginOrKey request now).run.Blind backend first second := by
  unfold loginOrKey
  split
  · exact Program.blind_done _
  unfold login
  refine blind_of_meets ((meets_readBody ..).mpr ⟨fun body isBody => ?_, fun _ => trivial⟩)
  obtain ⟨isEmail, verdict, verified, refused⟩ := rejected body isBody
  dsimp only
  split
  · exact Program.blind_done _
  split
  · exact Program.blind_done _
  refine blind_of_meets ((meets_agree ..).mpr ⟨fun secret agreed => ?_, fun _ _ => trivial⟩)
  refine blind_of_meets (meets_checking (fun _ _ => trivial) fun stamp valid => ?_)
  rw [isEmail]
  exact blind_lookup working nobody member named only verified refused

theorem blind_answerAttempt {x : Session.Attempt Response} (blind : x.run.Blind backend first second) :
    (answerAttempt x).Blind backend first second := by
  unfold answerAttempt
  refine Program.blind_bind blind ?_
  rintro (e | response)
  · refine Program.blind_of_keeps (h := []) ?_
    rw [Program.keeps_logAll]
    exact Program.blind_done _
  · exact Program.blind_done _

/-- What an endpoint does not tell, the answer to the request does not. -/
theorem blind_handle {request : Request} {route : Route} (notOptions : request.method ≠ .options)
    (place : s.route? request = some route)
    (blind : (s.endpoint route request now).Blind backend first second) (newId : String) :
    (s.handle request newId now).Blind backend first second := by
  have noted (e : Event) (r : Response) :
      (Program.log e >>= fun _ => pure r : Program Response).Blind backend first second :=
    Program.blind_of_keeps (h := []) ((Program.keeps_log _).mpr (Program.blind_done _))
  unfold handle
  rw [if_neg notOptions]
  refine Program.blind_bind ?_ fun response => Program.blind_done _
  unfold logged
  split
  · exact noted _ _
  · rw [place]
    exact Program.blind_bind blind fun response => noted _ _

theorem follows_enter_missing {body : LoginRequest} {secret : SharedSecret} {n : Nat} {h : List Exchange}
    {ends : Nat → List Exchange → Except AuthError Response → Prop} (ended : ends n h (.error .invalidCredentials)) :
    (s.enter body secret now).run.Follows ends (n + 1) (.store (.findByEmail body.email) (.error .notFound) :: h) :=
  ⟨.error .notFound, n, h, rfl, rfl, ended⟩

theorem follows_enter_undecided {u : User} {body : LoginRequest} {secret : SharedSecret} {n : Nat} {h : List Exchange}
    (undecided : Password.verify body.password u.passwordHash = none)
    {ends : Nat → List Exchange → Except AuthError Response → Prop}
    (ended : ends n h (.error (.systemError "password check task failed"))) :
    (s.enter body secret now).run.Follows ends (n + 1) (.store (.findByEmail body.email) (.ok u) :: h) := by
  refine ⟨.ok u, n, h, rfl, rfl, ?_⟩
  show (checkPassword u body.password >>= _).run.Follows ends n h
  unfold checkPassword
  rw [undecided]
  exact ended

end Service

/-! ### A record that cannot be checked -/

namespace Sample

/-- A record of so many lanes that their memory cannot be counted. -/
def boundless : String :=
  "$argon2id$v=19$m=8,t=1,p=536870912$c29tZXNhbHQ$QQCd8VPOryZiCF3MtwQnPTK7odKCaPcXJGplgNEuj1A"

theorem verify_boundless (candidate : String) : Password.verify candidate (some boundless) = none := by
  have unread : PasswordRecord.read boundless = none := by decide +kernel
  have stored : boundless.isEmpty = false := by decide
  simp [Password.verify, stored, unread]

/-- The secret that the service shares with its own key. -/
def ownSecret : SharedSecret := ⟨P256.Coordinate.toBytes service.keys.publicKey.x⟩

def loginRequest : LoginRequest := ⟨service.keys.publicKey.toText, "a", "b"⟩

@[irreducible]
def loginBody : Bytes := Bytes.ofText ("\x7b\"public_key\":\"" ++ service.keys.publicKey.toText ++
  "\",\"email\":\"a\",\"password\":\"b\"\x7d")

def login : Request where
  method := .put
  target := .ofText "/api/v1/auth"
  headers := (RequestSignature.sign .put "/api/v1/auth" loginBody ownSecret.bytes "aaaaaaaaaaaaaaaaaaaa" minute).headers
  body := loginBody

theorem loginBody_read : (Node.read? loginBody).bind LoginRequest.ofNode? = some loginRequest := by
  decide +kernel

theorem own_derive : service.keys.derive service.keys.publicKey.toText = .ok ownSecret := by
  have agreed : (service.keys.derive service.keys.publicKey.toText).toOption = some ownSecret := by decide +kernel
  generalize service.keys.derive service.keys.publicKey.toText = derived at agreed
  cases derived with
  | error e => cases agreed
  | ok secret => exact congrArg _ (Option.some.inj agreed)

theorem login_route : service.route? login = some .auth := Request.route?_sessions service rfl

theorem login_valid : Stamp.Valid login.signed ownSecret.bytes ⟨60, 0⟩ ⟨(RequestSignature.sign .put "/api/v1/auth"
    loginBody ownSecret.bytes "aaaaaaaaaaaaaaaaaaaa" minute).signature, "aaaaaaaaaaaaaaaaaaaa", minute⟩ := by
  have target : (Http.Target.ofText "/api/v1/auth").signedText = "/api/v1/auth" := Request.signedText_sessions
  have apart : RequestSignature.Apart [] := by decide
  unfold login Request.signed
  dsimp only
  rw [target]
  exact RequestSignature.valid apart (KeyPair.secret_ne own_derive) (by decide) (by decide) (by decide)
    minute_readable read?_minute (by decide)

/-- How the service answers the login: as its look-up does. -/
theorem follows_login {n : Nat} {answer : StoreAnswer} {e : AuthError}
    (rest : ∀ ends : Nat → List Exchange → Except AuthError Response → Prop, ends n [] (.error e) →
      (service.enter loginRequest ownSecret ⟨60, 0⟩).run.Follows ends (n + 1)
        [.store (.findByEmail "a") answer])
    (isCount : n = 1 + (Event.ofAuthError e).length) :
    (service.handle login "" ⟨60, 0⟩).Follows (Program.Ended fun r => r.status = e.status) (n + 2)
      [.record minute "aaaaaaaaaaaaaaaaaaaa" true, .store (.findByEmail "a") answer] := by
  have small : loginBody.length ≤ Service.maxBody := by decide +kernel
  have signed : (login.signed.headers.first? Signature.signatureHeader).isSome = true := rfl
  have key_ne : service.keys.publicKey.toText ≠ "" := service.keys.publicKey.toText_ne
  have isBody : (Node.read? login.signed.body).bind LoginRequest.ofNode? = _ := loginBody_read
  have entered := Service.follows_login signed isBody (by decide) key_ne own_derive login_valid
    (rest (fun m h r => r = .error e ∧ ∃ k, m = k + (Event.ofAuthError e).length ∧ k = 1 ∧ h = [] ∧
      e.response.status = e.status) ⟨rfl, 1, isCount, rfl, rfl, rfl⟩)
  have answered : (Service.answerAttempt (service.loginOrKey login.signed ⟨60, 0⟩)).Follows
      (fun n h r => n = 1 ∧ h = [] ∧ r.status = e.status) (n + 2) _ := Service.follows_answerAttempt_error entered
  refine Program.follows_mono ?_ (Service.follows_put small rfl login_route answered "")
  rintro m h r ⟨isEnd, isHeard, answer, status, same, -⟩
  exact ⟨isEnd, isHeard, same.trans status⟩

/-- The user with a password, whose record is of no use. -/
def locked : User := { user with passwordHash := some boundless }

/-- A user of that email, or none. -/
def holding (users : List User) : World := { store := .ofList users, replay := .new 8 }

def loginRun (users : List User) : Option Response × World :=
  (service.handle login "" ⟨60, 0⟩).run (World.answerWith Store.answer) (holding users)

end Sample

/-- Whoever logs in without the right password is told the same, and leaves the same behind, whether or not there is a
user of that email. -/
theorem Service.login_conceals {backend : Backend} (working : backend.Working) (s : Service) {w v : World}
    {request : Request} {email : String} {user : User}
    (put : request.method = .put) (place : s.route? request = some .auth) (sameGuard : w.replay = v.replay)
    (nobody : ∀ u ∈ w.store.entries, u.email ≠ email) (member : user ∈ v.store.entries) (named : user.email = email)
    (only : ∀ u ∈ v.store.entries, u.email = email → u = user)
    (rejected : ∀ body, (Node.read? request.body).bind LoginRequest.ofNode? = some body → body.email = email ∧
      ∃ verdict, Password.verify body.password user.passwordHash = some verdict ∧ verdict ≠ .ok true)
    (newId : String) (now : Instant) :
    let left := (s.handle request newId now).run (World.answerWith backend) w
    let right := (s.handle request newId now).run (World.answerWith backend) v
    left.1 = right.1 ∧ left.2.replay = right.2.replay ∧ left.2.store = w.store ∧ right.2.store = v.store := by
  have endpoint : (s.endpoint .auth request now).Blind backend w.store v.store := by
    show (if request.method = .put then _ else _ : Program Response).Blind _ _ _
    rw [if_pos put]
    exact Service.blind_answerAttempt (Service.blind_login working nobody member named only rejected)
  have notOptions : request.method ≠ .options := by
    rw [put]
    decide
  exact Service.blind_handle notOptions place endpoint newId w v rfl rfl sameGuard

theorem Service.login_conceals_user :
    (Sample.loginRun []).1 = (Sample.loginRun [Sample.user]).1 ∧
    (Sample.loginRun []).2.replay = (Sample.loginRun [Sample.user]).2.replay ∧
    (Sample.loginRun []).2.store = (Sample.holding []).store ∧
    (Sample.loginRun [Sample.user]).2.store = (Sample.holding [Sample.user]).store := by
  have nobody : ∀ u ∈ (Sample.holding []).store.entries, u.email ≠ Sample.user.email := by
    intro u member
    cases member
  have only : ∀ u ∈ (Sample.holding [Sample.user]).store.entries, u.email = Sample.user.email → u = Sample.user := by
    intro u member _
    exact List.mem_singleton.mp member
  have sameGuard : (Sample.holding []).replay = (Sample.holding [Sample.user]).replay := rfl
  refine Service.login_conceals Store.answer_working Sample.service rfl Sample.login_route sameGuard nobody
    (List.mem_singleton.mpr rfl) rfl only ?_ "" ⟨60, 0⟩
  intro body isBody
  cases Option.some.inj (isBody.symm.trans Sample.loginBody_read)
  exact ⟨rfl, .ok false, rfl, nofun⟩

/-- A record that cannot be checked gives its user away: the login is answered 500, and 400 where there is none. -/
theorem Service.login_tells :
    (Node.read? Sample.login.body).bind LoginRequest.ofNode? = some Sample.loginRequest ∧
    Sample.loginRequest.email = Sample.locked.email ∧
    Password.verify Sample.loginRequest.password Sample.locked.passwordHash = none ∧
    (∃ r, (Sample.loginRun []).1 = some r ∧ r.status = 400) ∧
    ∃ r, (Sample.loginRun [Sample.locked]).1 = some r ∧ r.status = 500 := by
  have undecided : Password.verify Sample.loginRequest.password Sample.locked.passwordHash = none :=
    Sample.verify_boundless _
  refine ⟨Sample.loginBody_read, rfl, undecided, ?_, ?_⟩
  · have follows := Sample.follows_login (n := 1) (e := .invalidCredentials)
      (fun _ ended => Service.follows_enter_missing ended) rfl
    have hears : (Sample.holding []).memory.Hears Store.answer
        [.record Sample.minute "aaaaaaaaaaaaaaaaaaaa" true, .store (.findByEmail "a") (.error .notFound)] :=
      ⟨rfl, rfl, trivial⟩
    exact (follows.run hears).1
  · have follows := Sample.follows_login (n := 2) (e := .systemError "password check task failed")
      (fun _ ended => Service.follows_enter_undecided undecided ended) rfl
    have hears : (Sample.holding [Sample.locked]).memory.Hears Store.answer
        [.record Sample.minute "aaaaaaaaaaaaaaaaaaaa" true, .store (.findByEmail "a") (.ok Sample.locked)] :=
      ⟨rfl, rfl, trivial⟩
    exact (follows.run hears).1

end Countersign
