import Countersign.Proofs.Instants
import Countersign.Proofs.Progress
import Countersign.Proofs.Series

/-!
Refreshes that are in order, and questions for the user of a session.

A refresh is answered 200 if its token is kept with the user and its request is signed under the secret that is
(`Service.follows_refresh`). A question for the user of a session is answered 200 on the strength of the token alone,
whatever is kept with the user (`Service.follows_current`).
-/

namespace Countersign

open Http (Request Response)
open Json (Node)

namespace Service

open Session (Attempt)

variable {n : Nat} {h : List Exchange}

theorem achieves_masking {α : Type} {mask : AuthError → AuthError} {x : Attempt α}
    {ends : Nat → List Exchange → α → Prop} (achieves : Achieves ends x n h) : Achieves ends (masking mask x) n h :=
  follows_of_achieves (f := pure ∘ Except.mapError mask) achieves

theorem achieves_checking {request : SignedRequest} {secret : Bytes} {now : Instant} {stamp : Stamp}
    (valid : stamp.Valid request secret now) {ends : Nat → List Exchange → Unit → Prop} (ended : ends n h ()) :
    Achieves ends (checking request (some secret) now) (n + 1)
      (.record stamp.timestamp stamp.nonce true :: h) := by
  unfold checking
  exact achieves_bind (achieves_liftM (Signature.follows_check valid ended))

theorem achieves_checking_none {request : SignedRequest} {now : Instant} {stamp : Stamp}
    (onClock : now.onClock? = some now) (read : Stamp.read request.headers now = .ok stamp)
    {ends : Nat → List Exchange → Unit → Prop} (ended : ends n h ()) :
    Achieves ends (checking request none now) n h := by
  have passes : Signature.check request none now = pure (.ok ()) := by
    unfold Signature.check
    rw [onClock]
    show Signature.checkAt request none now = _
    unfold Signature.checkAt
    rw [read]
  unfold checking
  rw [passes]
  exact achieves_bind (achieves_liftM ended)

theorem achieves_issuing {s : Service} {subject : String} {now : Instant} {pair : TokenPair}
    (issued : s.tokens.issuePair subject now = some pair) {ends : Nat → List Exchange → TokenPair → Prop}
    (ended : ends n h pair) : Achieves ends (s.issuing subject now) n h := by
  unfold issuing
  rw [issued]
  exact achieves_lift ended

theorem achieves_saving {user saved : User} {fields : List UserField} {ends : Nat → List Exchange → User → Prop}
    (ended : ends n h saved) :
    Achieves ends (saving user fields) (n + 1) (.store (.update user fields) (.ok saved) :: h) := by
  unfold saving
  exact achieves_bind (achieves_liftM (Program.follows_store ended))

theorem follows_answerAttempt {x : Attempt Response} {ends : Nat → List Exchange → Response → Prop}
    (achieves : Achieves ends x n h) : (answerAttempt x).Follows ends n h :=
  follows_of_achieves achieves

theorem achieves_refresh {s : Service} {request : SignedRequest} {now : Instant} {body : RefreshRequest}
    {secret : SharedSecret} {stamp : Stamp} {old : User} {pair : TokenPair}
    (isBody : (Node.read? request.body).bind RefreshRequest.ofNode? = some body)
    (belongs : Session.Belongs s.tokens body.refreshToken .refresh now old) (named : body.email = old.email)
    (held : old.sharedSecret.bind SharedSecret.ofText? = some secret)
    (valid : stamp.Valid request secret.bytes now) (issued : s.tokens.issuePair old.email now = some pair)
    (saved : User) {ends : Nat → List Exchange → Response → Prop}
    (ended : ends n h (.json 200 (RefreshReply.toValue ⟨pair.token, pair.refreshToken, saved.profile⟩))) :
    Achieves ends (s.refresh request now) (n + 4)
      (.store (.findByEmail old.email) (.ok old) :: .record stamp.timestamp stamp.nonce true ::
        .store (.update { old with refreshToken := some pair.refreshToken } [.refreshToken]) (.ok saved) :: h) := by
  unfold refresh
  refine achieves_bind (achieves_checking_none valid.onClock valid.read ?_)
  refine achieves_bind (achieves_readBody isBody ?_)
  refine achieves_bind (achieves_masking (Session.achieves_resolve belongs ?_))
  dsimp only
  rw [if_neg (by simp [named]), held]
  refine achieves_bind ?_
  show Achieves ends (checking request (some secret.bytes) now >>= _) _ _
  refine achieves_bind (achieves_checking valid ?_)
  refine achieves_bind (achieves_issuing issued ?_)
  refine achieves_bind (achieves_saving ?_)
  exact achieves_bind (achieves_liftM (Program.follows_log ended))

/-- A refresh that is in order is answered 200. -/
theorem follows_refresh {s : Service} {request : Request} {now : Instant} {body : RefreshRequest}
    {secret : SharedSecret} {stamp : Stamp} {old : User} {pair : TokenPair}
    (small : request.body.length ≤ maxBody) (post : request.method = .post)
    (place : s.route? request = some .auth)
    (isBody : (Node.read? request.body).bind RefreshRequest.ofNode? = some body)
    (belongs : Session.Belongs s.tokens body.refreshToken .refresh now old) (named : body.email = old.email)
    (held : old.sharedSecret.bind SharedSecret.ofText? = some secret)
    (valid : stamp.Valid request.signed secret.bytes now) (issued : s.tokens.issuePair old.email now = some pair)
    (saved : User) (newId : String) :
    (s.handle request newId now).Follows (Program.Ended fun r => r.status = 200 ∧
        r.body = (RefreshReply.toValue ⟨pair.token, pair.refreshToken, saved.profile⟩).write) 5
      [.store (.findByEmail old.email) (.ok old), .record stamp.timestamp stamp.nonce true,
        .store (.update { old with refreshToken := some pair.refreshToken } [.refreshToken]) (.ok saved)] := by
  refine follows_handle_json small (by rw [post]; decide) (by rw [post]; decide) place ?_ newId
  show (if request.method = .put then _ else if _ then _ else _ : Program Response).Follows _ _ _
  rw [if_neg (by rw [post]; decide), if_pos post]
  exact follows_answerAttempt (achieves_refresh (n := 1) isBody belongs named held valid issued saved ⟨rfl, rfl, rfl⟩)

/-- Who asks for the user of a session is answered 200 if the token that is presented is the user's. -/
theorem follows_current {s : Service} {request : Request} {now : Instant} {token : String} {user : User}
    (small : request.body.length ≤ maxBody) (get : request.method = .get) (place : s.route? request = some .auth)
    (presented : Session.presented? request.headers = some token)
    (belongs : Session.Belongs s.tokens token .session now user) (newId : String) :
    (s.handle request newId now).Follows (Program.Ended fun r => r.status = 200) 2
      [.store (.findByEmail user.email) (.ok user)] := by
  have notOptions : request.method ≠ .options := by
    rw [get]
    decide
  refine follows_handle small notOptions place ?_ newId
  show (if request.method = .put then _ else if _ then _ else if _ then _ else if _ then _ else _ :
    Program Response).Follows _ _ _
  rw [if_neg (by rw [get]; decide), if_neg (by rw [get]; decide), if_neg (by rw [get]; decide), if_pos (.inl get)]
  refine follows_answerAttempt ?_
  unfold current
  dsimp only
  rw [presented]
  refine achieves_bind (achieves_masking (Session.achieves_resolve belongs ?_))
  exact ⟨rfl, rfl, rfl⟩

end Service

theorem Series.succeeded_of_follows {r : Series} {i n : Nat} {h : List Exchange}
    (follows : (r.service.handle (r.request i) (r.newId i) (r.now i)).Follows
      (Program.Ended fun response => response.status = 200) n h)
    (hears : (r.world i).memory.Hears r.backend h) :
    r.Succeeded i ∧ (r.world (i + 1)).store = ((r.world i).memory.after r.backend h).store := by
  obtain ⟨succeeded, leads⟩ := follows.run hears
  exact ⟨succeeded, congrArg Memory.store leads⟩

/-- What is heard of a refresh. -/
def renewal (old : User) (stamp : Stamp) (token : String) : List Exchange :=
  [.store (.findByEmail old.email) (.ok old), .record stamp.timestamp stamp.nonce true,
    .store (.update { old with refreshToken := some token } [.refreshToken])
      (.ok { old with refreshToken := some token, version := old.version + 1 })]

theorem Memory.hears_renewal {m : Memory} {old : User} {stamp : Stamp}
    (found : m.store.findByEmail old.email = .ok old) (isOld : m.store.find? old.id = some old)
    (fresh : ReplayGuard.key stamp.timestamp stamp.nonce ∉ m.replay.keys) (notLast : old.version ≠ Int64.maxValue)
    (token : String) :
    m.Hears Store.answer (renewal old stamp token) ∧
      m.after Store.answer (renewal old stamp token) =
        ⟨m.store.insert { old with refreshToken := some token, version := old.version + 1 },
          m.replay.touch (ReplayGuard.key stamp.timestamp stamp.nonce)⟩ := by
  have updated : m.store.update { old with refreshToken := some token } [.refreshToken] = _ :=
    Store.update_of_read isOld rfl rfl rfl notLast
  refine ⟨⟨congrArg some found, ?_, congrArg Prod.fst updated, trivial⟩, ?_⟩
  · show (!m.replay.keys.contains (ReplayGuard.key stamp.timestamp stamp.nonce)) = true
    simpa using fresh
  · show Memory.mk (m.store.update { old with refreshToken := some token } [.refreshToken]).2 _ = _
    rw [updated]
    rfl

/-! ### A user who comes back -/

namespace Sample

/-- Refresh tokens of an hour, in place of the minute of sessions. -/
def longer : Service :=
  { service with tokens := { service.tokens with refreshLifetime := ⟨3600, by decide⟩ } }

/-- What is given out to the user in the second minute of 1970. -/
@[irreducible]
def refreshToken : String :=
  "eyJ0eXAiOiJKV1QiLCJhbGciOiJIUzI1NiJ9." ++
    "eyJzdWIiOiJhIiwiaXNzIjoibXd1aSIsImF1ZCI6Im13dWktY2xpZW50cyIsImlhdCI6NjAsIm5iZiI6MzAsImV4cCI6MzY2MH0." ++
    "S3hn0aRAbgV0lmY2acR8sRLGpFJX7c_wVHnKur7LHZo"

def refreshClaims : Claims := TokenService.claims "a" longer.tokens.refreshLifetime ⟨60, 0⟩

theorem encode_refreshClaims : longer.tokens.encode refreshClaims = refreshToken := by
  unfold TokenService.encode TokenService.sign
  rw [Hash.hmac_eq]
  decide +kernel

theorem refreshToken_issued :
    longer.tokens.issueAt "a" longer.tokens.refreshLifetime ⟨60, 0⟩ = some refreshToken := by
  rw [← encode_refreshClaims]
  unfold TokenService.issueAt
  exact if_pos ⟨by decide, by decide⟩

theorem refreshToken_parses {now : Instant} (first : 60 ≤ now.seconds) (last : now.seconds ≤ 61) :
    longer.tokens.parse refreshToken now = some (.ok refreshClaims) := by
  have read : longer.tokens.read refreshToken = .ok refreshClaims :=
    TokenService.read_of_issueAt refreshToken_issued (by decide) (by decide)
  have expires : refreshClaims.expires = 3660 := rfl
  have notBefore : refreshClaims.notBefore = 30 := rfl
  have leeway : TokenService.leeway = 30 := rfl
  exact TokenService.parse_eq_ok_iff.mpr ⟨read, by omega, by omega, by omega, rfl, rfl⟩

/-- The user, with whom the token is kept. -/
def keeper : User := { user with refreshToken := some refreshToken }

@[irreducible]
def refreshBody : Bytes := Bytes.ofText ("\x7b\"email\":\"a\",\"refresh_token\":\"" ++ refreshToken ++ "\"\x7d")

/-- The user asks for new tokens. -/
def refresh (nonce : String) : Request where
  method := .post
  target := .ofText "/api/v1/auth"
  headers := (RequestSignature.sign .post "/api/v1/auth" refreshBody [0] nonce minute).headers
  body := refreshBody

def refreshStamp (nonce : String) : Stamp :=
  ⟨(RequestSignature.sign .post "/api/v1/auth" refreshBody [0] nonce minute).signature, nonce, minute⟩

/-- Somebody asks, with the refresh token for a session, whose session it is. -/
def question : Request where
  method := .get
  target := .ofText "/api/v1/auth"
  headers := [.ofText "authorization" ("Bearer " ++ refreshToken)]
  body := []

/-- The user after a refresh. -/
def renewed (token : String) : User := { keeper with refreshToken := some token, version := 1 }

theorem find?_renewed {w : World} {token : String} (stored : w.store = Catalog.ofList [renewed token]) :
    w.store.find? (renewed token).id = some (renewed token) := by
  rw [stored]
  rfl

/-- A refresh, a question, and a refresh once more, all within one second. -/
def rotation (now : Instant) : Series where
  service := longer
  backend := Store.answer
  start := { store := .ofList [keeper], replay := .new 8 }
  request n := match n with
    | 0 => refresh "aaaaaaaaaaaaaaaaaaaa"
    | 1 => question
    | _ => refresh "bbbbbbbbbbbbbbbbbbbb"
  newId _ := ""
  now _ := now

theorem refreshToken_plain : Json.Plain refreshToken := by
  rw [← encode_refreshClaims]
  exact longer.tokens.encode_plain refreshClaims

theorem refreshBody_read : (Node.read? refreshBody).bind RefreshRequest.ofNode? = some ⟨"a", refreshToken⟩ := by
  have isWritten : "\x7b\"email\":\"a\",\"refresh_token\":\"" ++ refreshToken ++ "\"\x7d" =
      (RefreshRequest.toValue ⟨"a", refreshToken⟩).write := by
    refine String.toList_injective ?_
    simp [RefreshRequest.toValue, Json.Value.write, Json.Value.writeOnto, Json.Value.writeMembers,
      refreshToken_plain.writeOnto, (show Json.Plain "a" by decide).writeOnto,
      (show Json.Plain "email" by decide).writeOnto, (show Json.Plain "refresh_token" by decide).writeOnto]
  unfold refreshBody
  rw [isWritten]
  exact RefreshRequest.read_write _

theorem refresh_valid {nonce : String} (readable : Http.Header.Readable nonce)
    (long : Signature.minNonceLength ≤ nonce.length) {now : Instant} (onClock : now.onClock? = some now)
    (near : Stamp.inWindow now ⟨60, 0⟩ = true) : (refreshStamp nonce).Valid (refresh nonce).signed [0] now := by
  have target : (Http.Target.ofText "/api/v1/auth").signedText = "/api/v1/auth" := Request.signedText_sessions
  have apart : RequestSignature.Apart [] := by decide
  unfold refresh Request.signed
  dsimp only
  rw [target]
  exact RequestSignature.valid apart (by decide) onClock readable long minute_readable read?_minute near

theorem question_presents : Session.presented? question.headers = some refreshToken := by
  have refreshToken_ne : refreshToken ≠ "" := by simp [refreshToken]
  exact Session.presented?_bearer refreshToken_plain refreshToken_ne []

section

variable {s : Int} (first : 60 ≤ s) (last : s ≤ 61)
include first last

theorem rotation_clock : Instant.onClock? ⟨s, 0⟩ = some ⟨s, 0⟩ ∧
    Stamp.inWindow ⟨s, 0⟩ ⟨60, 0⟩ = true := by
  obtain rfl | rfl : s = 60 ∨ s = 61 := by omega
  · decide
  · decide

theorem rotation_issues : ∃ pair, longer.tokens.issuePair "a" ⟨s, 0⟩ = some pair := by
  have session : longer.tokens.sessionLifetime.seconds = 60 := rfl
  have refresh : longer.tokens.refreshLifetime.seconds = 3600 := rfl
  have seconds : Instant.seconds ⟨s, 0⟩ = s := rfl
  refine (TokenService.issuePair_iff_spans (by omega) (by omega) (by omega) "a").mpr ⟨?_, ?_⟩ <;>
    · unfold Instant.inCalendar
      omega

/-- The first refresh succeeds, and leaves with the user the refresh token that is given out now. -/
theorem rotated : ∃ pair, longer.tokens.issuePair "a" ⟨s, 0⟩ = some pair ∧ (rotation ⟨s, 0⟩).Succeeded 0 ∧
    ((rotation ⟨s, 0⟩).world 1).store = Catalog.ofList [renewed pair.refreshToken] := by
  obtain ⟨pair, issued⟩ := rotation_issues first last
  obtain ⟨onClock, near⟩ := rotation_clock first last
  have small : refreshBody.length ≤ Service.maxBody := by decide +kernel
  have belongs : Session.Belongs longer.tokens refreshToken .refresh ⟨s, 0⟩ keeper :=
    ⟨⟨_, refreshToken_parses first last, rfl⟩, fun _ => rfl⟩
  have held : keeper.sharedSecret.bind SharedSecret.ofText? = some ⟨[0]⟩ := by decide +kernel
  have valid : (refreshStamp "aaaaaaaaaaaaaaaaaaaa").Valid _ _ _ :=
    refresh_valid (by decide) (by decide) onClock near
  have refreshes := Service.follows_refresh small rfl (Request.route?_sessions longer rfl) refreshBody_read belongs rfl held valid issued
    (renewed pair.refreshToken) ""
  have follows : (longer.handle (refresh "aaaaaaaaaaaaaaaaaaaa") "" ⟨s, 0⟩).Follows
      (Program.Ended fun r => r.status = 200) _ _ :=
    Program.follows_mono (fun _ _ _ ended => ⟨ended.1, ended.2.1, ended.2.2.1⟩) refreshes
  obtain ⟨hears, after⟩ := Memory.hears_renewal (m := (rotation ⟨s, 0⟩).start.memory)
    (show (rotation ⟨s, 0⟩).start.store.findByEmail keeper.email = .ok keeper from rfl) rfl
    (show (refreshStamp "aaaaaaaaaaaaaaaaaaaa").key ∉ _ from List.not_mem_nil) (by decide) pair.refreshToken
  obtain ⟨succeeded, leads⟩ := Series.succeeded_of_follows (r := rotation ⟨s, 0⟩) (i := 0) follows hears
  exact ⟨pair, issued, succeeded, leads.trans (congrArg Memory.store after)⟩

/-- The question is answered, whatever the user has now. -/
theorem questioned {token : String}
    (stored : ((rotation ⟨s, 0⟩).world 1).store = Catalog.ofList [renewed token]) :
    (rotation ⟨s, 0⟩).Succeeded 1 ∧
      ((rotation ⟨s, 0⟩).world 2).store = Catalog.ofList [renewed token] := by
  have belongs : Session.Belongs longer.tokens refreshToken .session ⟨s, 0⟩ (renewed token) :=
    ⟨⟨_, refreshToken_parses first last, rfl⟩, nofun⟩
  have follows := Service.follows_current (Nat.zero_le _) rfl (Request.route?_sessions longer rfl) question_presents belongs ""
  have found : ((rotation ⟨s, 0⟩).world 1).store.findByEmail "a" = .ok (renewed token) := by
    rw [stored]
    rfl
  have hears : ((rotation ⟨s, 0⟩).world 1).memory.Hears Store.answer
      [.store (.findByEmail "a") (.ok (renewed token))] := ⟨congrArg some found, trivial⟩
  obtain ⟨succeeded, leads⟩ := Series.succeeded_of_follows (r := rotation ⟨s, 0⟩) (i := 1) follows hears
  have unchanged (w : World) :
      (w.memory.after Store.answer [.store (.findByEmail "a") (.ok (renewed token))]).store = w.store := rfl
  exact ⟨succeeded, (leads.trans (unchanged _)).trans stored⟩

end

theorem rotation_ordered (now : Instant) : (rotation now).start.store.Ordered longer.tokens := by
  have isKeeper {u : User} (found : (rotation now).start.store.find? u.id = some u) : u = keeper :=
    List.mem_singleton.mp (Catalog.mem_of_find? found).1
  constructor
  · intro u v foundU foundV _
    rw [isKeeper foundU, isKeeper foundV]
  · intro u token found kept
    cases isKeeper found
    cases Option.some.inj kept
    exact ⟨_, refreshToken_issued⟩

/-- One second after it was given out, the refresh token is replaced by another. -/
theorem replaced : ∃ token, token ≠ refreshToken ∧ (rotation ⟨61, 0⟩).Succeeded 0 ∧
    ((rotation ⟨61, 0⟩).world 1).store = Catalog.ofList [renewed token] := by
  obtain ⟨pair, issued, succeeded, stored⟩ := rotated (s := 61) (by decide) (by decide)
  refine ⟨pair.refreshToken, ?_, succeeded, stored⟩
  intro same
  have issuedNow := TokenService.issueAt_of_issuePair issued
  rw [same] at issuedNow
  have sameSecond := (TokenService.issueAt_injective issuedNow refreshToken_issued).2
  exact absurd sameSecond (by decide)

end Sample

end Countersign
