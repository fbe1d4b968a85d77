import Countersign.Api.Auth
import Countersign.Api.Users
import Countersign.Proofs.Conduct
import Countersign.Proofs.Verdicts

/-!
What the steps of the endpoints ask and hear: the check of a signature, the look-up behind a token, reading a
body, and the step from failures to responses.

`Stamp.Valid` and `Session.Belongs` say what a caller has shown once the check or the look-up succeeds;
`meets_checking` and `meets_resolve` tell what has been heard by then.
-/

namespace Countersign

/-! ### Signatures -/

/-- A stamp that is in order for a request, its novelty apart. -/
structure Stamp.Valid (request : SignedRequest) (secret : Bytes) (now : Instant) (stamp : Stamp) : Prop where
  onClock : now.onClock? = some now
  read : Stamp.read request.headers now = .ok stamp
  secret_ne : secret ≠ []
  covers : stamp.coversBody request = true
  signs : stamp.signs request secret = true

theorem Instant.eq_of_onClock? {t now : Instant} (shown : t.onClock? = some now) : now = t := by
  unfold onClock? at shown
  split at shown
  · exact (Option.some.inj shown).symm
  · cases shown

/-- Instant and nonce of a stamp are those that the headers give. -/
theorem Stamp.texts_of_read {headers : Http.Headers} {now : Instant} {stamp : Stamp}
    (read : Stamp.read headers now = .ok stamp) :
    headers.text? Signature.timestampHeader = some stamp.timestamp ∧
      headers.text? Signature.nonceHeader = some stamp.nonce := by
  have stands := Stamp.read_eq_ok_iff.mp read
  exact ⟨text?_of_header stands.timestamp, text?_of_header stands.nonce⟩

namespace Signature

variable {asks : Questions} {ends : List Exchange → Except SignatureError Unit → Prop}
  {h : List Exchange}

theorem keeps_refuse (request : SignedRequest) (e : SignatureError) :
    (refuse request e).Keeps asks ends h ↔ ends h (.error e) := by
  unfold refuse
  rw [Program.keeps_bind, Program.keeps_log, Program.keeps_pure]

theorem keeps_checkStamp (request : SignedRequest) (stamp : Stamp) (secret : Bytes) :
    (checkStamp request stamp secret).Keeps asks ends h ↔
      if secret.isEmpty then ends h (.error .emptySecret)
      else if stamp.coversBody request then
        ends (h ++ [.record stamp.timestamp stamp.nonce true])
          (if stamp.signs request secret then .ok () else .error .signatureMismatch) ∧
        ends (h ++ [.record stamp.timestamp stamp.nonce false]) (.error .replay)
      else ends h (.error .bodyHashMismatch) := by
  unfold checkStamp
  split
  · exact keeps_refuse ..
  · split
    · rw [Program.keeps_bind, Program.keeps_record, Bool.forall_bool, and_comm]
      refine and_congr ?_ (keeps_refuse ..)
      rw [if_pos rfl]
      by_cases signs : stamp.signs request secret = true
      · rw [if_pos signs, if_pos signs]
        rfl
      · rw [if_neg signs, if_neg signs]
        exact keeps_refuse ..
    · exact keeps_refuse ..

theorem keeps_check (request : SignedRequest) (secret : Option Bytes) (now : Instant) :
    (check request secret now).Keeps asks ends h ↔
      (now.onClock? = some now → (checkAt request secret now).Keeps asks ends h) := by
  unfold check
  rw [Program.keeps_bind, Program.keeps_ofOption]
  constructor
  · intro shown onClock
    exact shown now onClock
  · intro shown t onClock
    cases Instant.eq_of_onClock? onClock
    exact shown onClock

end Signature

/-- A token that is a user's: it parses with the user's email for its subject, and a refresh token is moreover
the one that is kept with the user. -/
structure Session.Belongs (tokens : TokenService) (token : String) (kind : TokenKind) (now : Instant)
    (user : User) : Prop where
  parses : ∃ claims, tokens.parse token now = some (.ok claims) ∧ claims.subject = user.email
  kept : kind = .refresh → user.refreshToken = some token

/-- What has been heard when the gate lets a request pass: nothing if the request only reads, else that its
stamp under the principal's secret is new. -/
inductive Gate.Passes (p : Principal) (resource : String) (request : SignedRequest) (now : Instant) :
    List Exchange → Prop
  | reading {action : Action} (performs : Action.ofMethod? request.method = some action)
      (granted : PrivilegeSet.decide p.privileges resource action = .granted)
      (reads : request.method.isMutating = false) : Passes p resource request now []
  | signed {action : Action} {secret : SharedSecret} {stamp : Stamp}
      (performs : Action.ofMethod? request.method = some action)
      (granted : PrivilegeSet.decide p.privileges resource action = .granted)
      (held : p.sharedSecret = some secret) (valid : stamp.Valid request secret.bytes now) :
      Passes p resource request now [.record stamp.timestamp stamp.nonce true]

namespace Service

open Session (Attempt TokenKind)
open Http (Response)

section

variable {ε α : Type} {asks : Questions} {ends : List Exchange → α → Prop}
  {fails : List Exchange → AuthError → Prop} {h : List Exchange}

theorem meets_checking_iff {ends : List Exchange → Unit → Prop} (request : SignedRequest)
    (secret : Option Bytes) (now : Instant) :
    Meets asks ends fails (checking request secret now) h ↔
      (Signature.check request secret now).Keeps asks
        (fun h r => match r with | .ok _ => ends h () | .error e => fails h (.ofSignature e)) h := by
  unfold checking
  rw [meets_bind, meets_liftM]
  refine ⟨Program.keeps_mono ?_, Program.keeps_mono ?_⟩ <;> rintro h (e | a) kept <;> exact kept

/-- A signed request's check succeeds only after the guard has answered that its stamp is new. -/
theorem meets_checking {ends : List Exchange → Unit → Prop} {request : SignedRequest} {secret : Bytes}
    {now : Instant} (refused : ∀ h e, fails h e)
    (accepted : ∀ stamp : Stamp, stamp.Valid request secret now →
      ends (h ++ [.record stamp.timestamp stamp.nonce true]) ()) :
    Meets asks ends fails (checking request (some secret) now) h := by
  rw [meets_checking_iff, Signature.keeps_check]
  intro onClock
  unfold Signature.checkAt
  split
  · exact (Signature.keeps_refuse ..).mpr (refused ..)
  next stamp read =>
    rw [Signature.keeps_checkStamp]
    split
    · exact refused ..
    next secret_ne =>
      split
      next covers =>
        refine ⟨?_, refused ..⟩
        split
        next signed =>
          split at signed
          next signs => exact accepted stamp ⟨onClock, read, by simpa using secret_ne, covers, signs⟩
          · cases signed
        · exact refused ..
      · exact refused ..

theorem meets_checking_none {ends : List Exchange → Unit → Prop} {request : SignedRequest}
    {now : Instant} (refused : ∀ h e, fails h e) (accepted : ends h ()) :
    Meets asks ends fails (checking request none now) h := by
  rw [meets_checking_iff, Signature.keeps_check]
  intro onClock
  unfold Signature.checkAt
  split
  · exact (Signature.keeps_refuse ..).mpr (refused ..)
  · exact accepted

/-! ### Failures on the way to a response -/

theorem meets_masking (mask : AuthError → AuthError) (x : Attempt α) :
    Meets asks ends fails (masking mask x) h ↔ Meets asks ends (fun h e => fails h (mask e)) x h := by
  show ((x.run >>= pure ∘ Except.mapError mask).Keeps asks _ h) ↔ _
  rw [Program.keeps_bind]
  refine ⟨Program.keeps_mono ?_, Program.keeps_mono ?_⟩ <;> rintro h (e | a) kept <;> exact kept

theorem meets_attempting {fails : List Exchange → ApiError → Prop} (x : Attempt α) :
    Meets asks ends fails (attempting x) h ↔ Meets asks ends (fun h e => fails h (.ofAuth e)) x h := by
  unfold attempting
  rw [meets_bind, meets_liftM]
  refine ⟨Program.keeps_mono ?_, Program.keeps_mono ?_⟩ <;> rintro h (e | a) kept
  · simpa [meets_bind] using kept
  · exact kept
  · simpa [meets_bind] using kept
  · exact kept

theorem keeps_answerAttempt {ends : List Exchange → Response → Prop} (x : Attempt Response) :
    (answerAttempt x).Keeps asks ends h ↔ Meets asks ends (fun h e => ends h e.response) x h := by
  unfold answerAttempt
  rw [Program.keeps_bind]
  refine ⟨Program.keeps_mono ?_, Program.keeps_mono ?_⟩ <;> rintro h (e | a) kept
  · simpa [Program.keeps_bind] using kept
  · exact kept
  · simpa [Program.keeps_bind] using kept
  · exact kept

theorem keeps_answerTask {ends : List Exchange → Response → Prop} (x : Task Response) :
    (answerTask x).Keeps asks ends h ↔ Meets asks ends (fun h e => ends h e.response) x h := by
  unfold answerTask
  rw [Program.keeps_bind]
  refine ⟨Program.keeps_mono ?_, Program.keeps_mono ?_⟩ <;> rintro h (e | a) kept <;> exact kept

/-! ### The steps of an endpoint -/

theorem meets_failWith (event : Event) (e : AuthError) :
    Meets asks ends fails (Session.failWith event e : Attempt α) h ↔ fails h e := by
  unfold Session.failWith
  rw [meets_bind, meets_liftM, Program.keeps_log, meets_throw]

/-- The look-up behind a token asks for its subject once, and succeeds only with the user whose token it is. -/
theorem meets_resolve {ends : List Exchange → User → Prop} {tokens : TokenService} {token : String}
    {kind : TokenKind} {now : Instant} (allowed : ∀ email, asks h (.findByEmail email))
    (refused : ∀ h e, fails h e)
    (found : ∀ user : User, Session.Belongs tokens token kind now user →
      ends (h ++ [.store (.findByEmail user.email) (.ok user)]) user) :
    Meets asks ends fails (Session.resolve tokens token kind now) h := by
  unfold Session.resolve
  rw [meets_bind, meets_lift, Program.keeps_ofOption]
  rintro (e | claims) parsed
  · exact refused ..
  · refine (meets_bind ..).mpr ((meets_bind ..).mpr ((meets_liftM _).mpr ⟨allowed _, ?_⟩))
    rintro (e | user)
    · cases e with
      | notFound => exact (meets_bind ..).mpr ((meets_failWith ..).mpr (refused ..))
      | versionConflict => exact refused ..
      | unavailable detail => exact refused ..
    · refine (meets_bind ..).mpr ?_
      show Meets asks ends fails (if _ then _ else if _ then _ else _) _
      split
      · exact (meets_failWith ..).mpr (refused ..)
      next isSubject =>
        split
        · exact (meets_failWith ..).mpr (refused ..)
        next isKept =>
          have same : user.email = claims.subject := by simpa using isSubject
          rw [← same]
          refine found user ⟨⟨claims, parsed, same.symm⟩, fun refreshes => ?_⟩
          simpa [refreshes] using isKept

theorem meets_readBody (request : SignedRequest) (read : Json.Node → Option α) :
    Meets asks ends fails (readBody request read) h ↔
      (∀ a, (Json.Node.read? request.body).bind read = some a → ends h a) ∧
        ((Json.Node.read? request.body).bind read = none →
          fails h (.malformedRequest "request body is not valid JSON")) := by
  unfold readBody
  split
  next a isBody => simp [isBody]
  next isNone => simp [isNone, meets_failWith]

theorem meets_agree {ends : List Exchange → SharedSecret → Prop} (s : Service) (peer : String) :
    Meets asks ends fails (s.agree peer) h ↔
      (∀ secret, s.keys.derive peer = .ok secret → ends h secret) ∧
        ∀ e, s.keys.derive peer = .error e → fails h (.malformedRequest e.message) := by
  unfold agree
  split
  next secret agreed => simp [agreed]
  next e refused => simp [refused, meets_failWith]

theorem meets_checkPassword {ends : List Exchange → Unit → Prop} {user : User} {candidate : String}
    (refused : ∀ h e, fails h e)
    (accepted : Password.verify candidate user.passwordHash = some (.ok true) → ends h ()) :
    Meets asks ends fails (checkPassword user candidate) h := by
  unfold checkPassword
  split
  next verified => exact accepted verified
  · exact (meets_failWith ..).mpr (refused ..)
  · exact (meets_failWith ..).mpr (refused ..)
  · exact refused ..

theorem meets_issuing {ends : List Exchange → TokenPair → Prop} (s : Service) (subject : String)
    (now : Instant) :
    Meets asks ends fails (s.issuing subject now) h ↔
      ∀ pair, s.tokens.issuePair subject now = some pair → ends h pair := by
  unfold issuing
  rw [meets_lift, Program.keeps_ofOption]

theorem meets_saving {ends : List Exchange → User → Prop} (user : User) (fields : List UserField) :
    Meets asks ends fails (saving user fields) h ↔
      asks h (.update user fields) ∧
        (∀ saved, ends (h ++ [.store (.update user fields) (.ok saved)]) saved) ∧
        ∀ e, fails (h ++ [.store (.update user fields) (.error e)]) (.ofStore e) := by
  unfold saving
  rw [meets_bind, meets_liftM, Program.keeps_store]
  refine and_congr_right fun _ => ⟨fun kept => ⟨?_, ?_⟩, ?_⟩
  · exact fun saved => kept (.ok saved)
  · exact fun e => kept (.error e)
  · rintro ⟨saved, refused⟩ (e | user)
    · exact refused e
    · exact saved user

theorem meets_userByEmail {ends : List Exchange → User → Prop} (email : String) :
    Meets asks ends fails (userByEmail email) h ↔
      asks h (.findByEmail email) ∧
        (∀ user, ends (h ++ [.store (.findByEmail email) (.ok user)]) user) ∧
        ∀ e, fails (h ++ [.store (.findByEmail email) (.error e)]) (AuthError.ofStore e).asCredentials := by
  unfold userByEmail
  rw [meets_bind, meets_liftM, Program.keeps_store]
  refine and_congr_right fun _ => ⟨fun kept => ⟨?_, ?_⟩, ?_⟩
  · exact fun user => kept (.ok user)
  · exact fun e => kept (.error e)
  · rintro ⟨found, refused⟩ (e | user)
    · exact refused e
    · exact found user

theorem meets_asking {fails : List Exchange → ApiError → Prop} {ends : List Exchange → User → Prop}
    (call : StoreCall) :
    Meets asks ends fails (asking call) h ↔
      asks h call ∧ (∀ user, ends (h ++ [.store call (.ok user)]) user) ∧
        ∀ e, fails (h ++ [.store call (.error e)]) (.ofStore e) := by
  unfold asking
  rw [meets_bind, meets_liftM, Program.keeps_store]
  refine and_congr_right fun _ => ⟨fun kept => ⟨?_, ?_⟩, ?_⟩
  · exact fun user => kept (.ok user)
  · intro e
    simpa [meets_bind] using kept (.error e)
  · rintro ⟨found, refused⟩ (e | user)
    · simpa [meets_bind] using refused e
    · exact found user

theorem meets_passing {fails : List Exchange → ApiError → Prop} {ends : List Exchange → Unit → Prop}
    {p : Principal} {request : SignedRequest} {now : Instant} (refused : ∀ h e, fails h (.ofAuth e))
    (passed : ∀ noted, Gate.Passes p userResource request now noted → ends (h ++ noted) ()) :
    Meets asks ends fails (passing p request now) h := by
  unfold passing
  rw [meets_attempting, meets_bind, meets_liftM]
  unfold Gate.checkMethod
  split
  · exact (Program.keeps_bind ..).mpr ((Program.keeps_log _).mpr (refused ..))
  next action performs =>
    unfold Gate.check
    split
    · exact (Program.keeps_bind ..).mpr ((Program.keeps_log _).mpr (refused ..))
    · exact (Program.keeps_bind ..).mpr ((Program.keeps_log _).mpr (refused ..))
    next granted =>
      split
      next changes =>
        split
        · exact (Program.keeps_bind ..).mpr ((Program.keeps_log _).mpr (refused ..))
        next secret held =>
          have checked : Meets asks ends (fun _ _ => True)
              (checking request (some secret.bytes) now) h :=
            meets_checking (fun _ _ => trivial) fun stamp valid =>
              passed _ (.signed performs granted held valid)
          rw [meets_checking_iff] at checked
          rw [Program.keeps_bind]
          refine Program.keeps_mono ?_ checked
          rintro h (e | _) kept
          · exact refused ..
          · exact kept
      next reads =>
        have nothing := passed [] (.reading performs granted (by simpa using reads))
        simpa using nothing

end

end Service

end Countersign
