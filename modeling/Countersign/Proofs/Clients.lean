import Countersign.Proofs.Concealment
import Countersign.Proofs.Instants
import Countersign.Proofs.Passwords
import Countersign.Proofs.Sessions
import Countersign.Proofs.Sizes

/-!
Clients that keep to the rules are served.

A client that derives the secret from the server's key, and signs with it at the time of the server's clock, logs in
(`Service.login_opens`), and with the refresh token of the session it gets the next ones (`Service.refresh_renews`). So
who knows the password of a user gets a session and can go on with it (`Service.serves_honest`).

The text of an instant after the year 9999 is none that a stamp may have, so nobody can sign then
(`Service.refresh_undated`), and a body of more than 1 MiB is not taken (`Service.large_refused`). So there are clients
that are left alone (`Service.abandons_honest`).
-/

namespace Countersign

open Http (Headers Method Request Response)
open Json (Value)

/-- A user who is found is given another record of theirs, beside one look at the guard. -/
theorem Memory.hears_visit {backend : Backend} (working : backend.Working) {m : Memory} {user : User}
    (only : m.store.Only user) (new : User) (fields : List UserField) (sameId : new.id = user.id)
    (sameVersion : new.version = user.version) (copied : fields.foldl new.copyField user = new)
    (notLast : user.version ≠ Int64.maxValue) {timestamp nonce : String}
    (unseen : ReplayGuard.key timestamp nonce ∉ m.replay.keys) {looks : List Exchange}
    (areLooks : looks = [.record timestamp nonce true, .store (.findByEmail user.email) (.ok user)] ∨
      looks = [.store (.findByEmail user.email) (.ok user), .record timestamp nonce true]) :
    m.Hears backend (looks ++ [.store (.update new fields) (.ok { new with version := user.version + 1 })]) ∧
      m.after backend (looks ++ [.store (.update new fields) (.ok { new with version := user.version + 1 })]) =
        ⟨m.store.insert { new with version := user.version + 1 },
          m.replay.touch (ReplayGuard.key timestamp nonce)⟩ := by
  have fresh : (m.replay.record timestamp nonce).1 = true := by
    show (!m.replay.keys.contains (ReplayGuard.key timestamp nonce)) = true
    simpa using unseen
  have found := only.findByEmail working
  have updated := Store.update_of_read (Catalog.find?_of_mem only.member) sameId sameVersion copied notLast
  have isUpdated := working.update new fields m.store
  rw [updated] at isUpdated
  have kept : (backend (.findByEmail user.email) m.store).2 = m.store := congrArg Prod.snd found
  have looked : m.Hears backend looks ∧
      m.after backend looks = ⟨m.store, m.replay.touch (ReplayGuard.key timestamp nonce)⟩ := by
    rcases areLooks with rfl | rfl
    · refine ⟨⟨fresh, congrArg Prod.fst found, trivial⟩, ?_⟩
      show Memory.mk (backend (.findByEmail user.email) m.store).2 _ = _
      rw [kept]
      rfl
    · refine ⟨⟨congrArg Prod.fst found, fresh, trivial⟩, ?_⟩
      show Memory.mk (backend (.findByEmail user.email) m.store).2 _ = _
      rw [kept]
      rfl
  rw [Memory.hears_append, Memory.after_append, looked.2]
  refine ⟨⟨looked.1, congrArg Prod.fst isUpdated, trivial⟩, ?_⟩
  show Memory.mk (backend (.update new fields) m.store).2 _ = _
  rw [isUpdated]

/-! ### Sessions -/

/-- What a user has while in session: two tokens given out to them, of which the store keeps the second, with the
secret. -/
structure Session.Opened (tokens : TokenService) (t : Instant) (store : Store) (user : User) (secret : SharedSecret)
    (pair : TokenPair) : Prop where
  issued : tokens.issuePair user.email t = some pair
  token : tokens.Names pair.token t user.email
  refreshToken : tokens.Names pair.refreshToken t user.email
  only : store.Only user
  kept : user.refreshToken = some pair.refreshToken
  agreed : user.sharedSecret.bind SharedSecret.ofText? = some secret

/-- Tokens that are given out are good at once. -/
theorem Session.Opened.of_issued {tokens : TokenService} {t : Instant} {store : Store} {user : User}
    {secret : SharedSecret} {pair : TokenPair} (dated : t.Dated)
    (positive : 0 < tokens.sessionLifetime.seconds ∧ 0 < tokens.refreshLifetime.seconds)
    (issued : tokens.issuePair user.email t = some pair) (only : store.Only user)
    (kept : user.refreshToken = some pair.refreshToken)
    (agreed : user.sharedSecret.bind SharedSecret.ofText? = some secret) :
    Session.Opened tokens t store user secret pair := by
  obtain ⟨-, isToken, isRefresh⟩ := TokenService.issuePair_eq_some_iff.mp issued
  constructor
  · exact issued
  · exact TokenService.names_now dated positive.1 isToken
  · exact TokenService.names_now dated positive.2 isRefresh
  · exact only
  · exact kept
  · exact agreed

namespace Service

/-- Whether a request is answered 200 with a value, and which world it leaves. -/
def Replies (s : Service) (backend : Backend) (w : World) (request : Request) (newId : String) (t : Instant)
    (reply : Value) (later : World) : Prop :=
  ∃ response, (s.handle request newId t).run (World.answerWith backend) w = (some response, later) ∧
    response.status = 200 ∧ response.body = reply.write

theorem replies_of_follows {s : Service} {backend : Backend} {w : World} {request : Request} {newId : String}
    {t : Instant} {reply : Value} {n : Nat} {h : List Exchange}
    (follows : (s.handle request newId t).Follows
      (Program.Ended fun r => r.status = 200 ∧ r.body = reply.write) n h)
    (hears : w.memory.Hears backend h) :
    ∃ later, s.Replies backend w request newId t reply later ∧ later.memory = w.memory.after backend h := by
  obtain ⟨⟨response, answered, ok, body⟩, leads⟩ := follows.run hears
  exact ⟨_, ⟨response, Prod.ext answered rfl, ok, body⟩, leads⟩

section

variable {s : Service} {secret : SharedSecret} {backend : Backend} (working : backend.Working) {w : World} {user : User}
  (only : w.store.Only user) (notLast : user.version ≠ Int64.maxValue)
  (positive : 0 < s.tokens.sessionLifetime.seconds ∧ 0 < s.tokens.refreshLifetime.seconds) {t : Instant}
  (dated : t.Dated) (spans : s.tokens.Spans t) {nonce : String} (takes : w.replay.Takes nonce t) {others : Headers}
  (apart : RequestSignature.Apart others) (newId : String)
include working only notLast positive dated spans takes apart

/-- Who knows the password of a user logs in, under the secret that the server's key agrees on. -/
theorem login_opens {client : KeyPair} (agreed : client.derive s.keys.publicKey.toText = .ok secret)
    (email_ne : user.email ≠ "") {password : String}
    (verified : Password.verify password user.passwordHash = some (.ok true))
    (small : (Request.login client user.email password secret nonce t others).body.length ≤ maxBody) :
    ∃ (pair : TokenPair) (opened : User) (later : World), opened = { user with
        version := user.version + 1, refreshToken := some pair.refreshToken, sharedSecret := some secret.toText } ∧
      s.Replies backend w (.login client user.email password secret nonce t others) newId t (LoginReply.toValue
        ⟨s.keys.publicKey.toText, user.email, pair.token, pair.refreshToken, opened.profile⟩) later ∧
      Session.Opened s.tokens t later.store opened secret pair ∧
      later.replay = w.replay.touch (ReplayGuard.key (Time.Rfc3339.write t) nonce) := by
  obtain ⟨pair, issued⟩ :=
    (TokenService.issuePair_iff_spans dated.nonneg dated.last positive user.email).mpr spans
  have secret_ne := KeyPair.secret_ne agreed
  have valid : (Request.honestStamp .put (LoginRequest.toValue ⟨client.publicKey.toText, user.email, password⟩) secret
      nonce t).Valid _ secret.bytes t := Request.honest_valid secret_ne dated takes apart
  have follows := follows_session small rfl (Request.route?_sessions s rfl) (Request.honest_signed apart)
    (LoginRequest.read_write ⟨client.publicKey.toText, user.email, password⟩) email_ne client.publicKey.toText_ne
    ((KeyPair.derive_comm s.keys client).trans agreed) valid rfl verified issued
    { user with version := user.version + 1, refreshToken := some pair.refreshToken,
                sharedSecret := some secret.toText } newId
  obtain ⟨hears, after⟩ := Memory.hears_visit working (m := w.memory) only
    { user with refreshToken := some pair.refreshToken, sharedSecret := some secret.toText }
    [.refreshToken, .sharedSecret] rfl rfl rfl notLast takes.unseen (.inl rfl)
  obtain ⟨later, replies, leads⟩ := replies_of_follows follows hears
  have stored : later.store = _ := congrArg Memory.store (leads.trans after)
  refine ⟨pair, _, later, rfl, replies, ?_, congrArg Memory.replay (leads.trans after)⟩
  exact .of_issued dated positive issued (stored ▸ only.insert rfl rfl) rfl (SharedSecret.ofText?_toText secret_ne)

/-- Who has the refresh token of a session, and its secret, gets the next tokens. -/
theorem refresh_renews {pair : TokenPair} (kept : user.refreshToken = some pair.refreshToken)
    (held : user.sharedSecret.bind SharedSecret.ofText? = some secret) (secret_ne : secret.bytes ≠ [])
    (names : s.tokens.Names pair.refreshToken t user.email)
    (small : (Request.refresh user.email pair.refreshToken secret nonce t others).body.length ≤ maxBody) :
    ∃ (next : TokenPair) (renewed : User) (later : World),
      renewed = { user with version := user.version + 1, refreshToken := some next.refreshToken } ∧
      s.Replies backend w (.refresh user.email pair.refreshToken secret nonce t others) newId t
        (RefreshReply.toValue ⟨next.token, next.refreshToken, renewed.profile⟩) later ∧
      Session.Opened s.tokens t later.store renewed secret next := by
  obtain ⟨next, issued⟩ :=
    (TokenService.issuePair_iff_spans dated.nonneg dated.last positive user.email).mpr spans
  have valid : (Request.honestStamp .post (RefreshRequest.toValue ⟨user.email, pair.refreshToken⟩) secret
      nonce t).Valid _ secret.bytes t := Request.honest_valid secret_ne dated takes apart
  have belongs : Session.Belongs s.tokens pair.refreshToken .refresh t user := by
    obtain ⟨c, parsed, subject⟩ := names
    exact ⟨⟨c, parsed, subject⟩, fun _ => kept⟩
  have follows := follows_refresh small rfl (Request.route?_sessions s rfl)
    (RefreshRequest.read_write ⟨user.email, pair.refreshToken⟩) belongs rfl held valid issued
    { user with version := user.version + 1, refreshToken := some next.refreshToken } newId
  obtain ⟨hears, after⟩ := Memory.hears_visit working (m := w.memory) only
    { user with refreshToken := some next.refreshToken } [.refreshToken] rfl rfl rfl notLast takes.unseen (.inr rfl)
  obtain ⟨later, replies, leads⟩ := replies_of_follows follows hears
  have stored : later.store = _ := congrArg Memory.store (leads.trans after)
  exact ⟨next, _, later, rfl, replies, .of_issued dated positive issued (stored ▸ only.insert rfl rfl) rfl held⟩

end

/-- Whoever knows the password of the only user of an email logs in with a new key, and goes on with the refresh token
as long as it is good, up to the year 9999 and with bodies of bearable size. -/
theorem serves_honest {serverScalar clientScalar : Nat} (server : 0 < serverScalar ∧ serverScalar < P256.order)
    (client : 0 < clientScalar ∧ clientScalar < P256.order)
    (nonzero : KeyPair.firstCoordinate (.multiple clientScalar (.multiple serverScalar .base)) ≠ 0)
    (tokens : TokenService) (docs : Bool)
    (positive : 0 < tokens.sessionLifetime.seconds ∧ 0 < tokens.refreshLifetime.seconds) {backend : Backend}
    (working : backend.Working) {w : World} {user : User} (only : w.store.Only user) (email_ne : user.email ≠ "")
    (early : user.version.toInt < Int64.maxValue.toInt - 1) {password : String} {salt : Bytes}
    (least : 8 ≤ salt.length) (most : salt.length ≤ 48) (kept : user.passwordHash = some (Password.hash password salt))
    {t : Instant} (dated : t.Dated) (spans : tokens.Spans t) {nonce : String} (takes : w.replay.Takes nonce t)
    {others : Headers} (apart : RequestSignature.Apart others) (newId : String) :
    ∃ (serverKeys clientKeys : KeyPair) (secret : SharedSecret),
      KeyPair.ofScalar? serverScalar = some serverKeys ∧ KeyPair.ofScalar? clientScalar = some clientKeys ∧
      clientKeys.derive serverKeys.publicKey.toText = .ok secret ∧
      ((Request.login clientKeys user.email password secret nonce t others).body.length ≤ maxBody →
        ∃ (pair : TokenPair) (opened : User) (later : World),
          opened.email = user.email ∧
          Replies ⟨tokens, serverKeys, docs⟩ backend w
            (.login clientKeys user.email password secret nonce t others) newId t (LoginReply.toValue
              ⟨serverKeys.publicKey.toText, user.email, pair.token, pair.refreshToken, opened.profile⟩) later ∧
          Session.Opened tokens t later.store opened secret pair ∧
          later.replay = w.replay.touch (ReplayGuard.key (Time.Rfc3339.write t) nonce) ∧
          ∀ {w' : World} {t' : Instant} {nonce' : String} {others' : Headers} {c : Claims} (newId' : String),
            w'.store.Only opened → tokens.parse pair.refreshToken t' = some (.ok c) →
            t'.seconds ≤ 253402300799 → tokens.Spans t' → w'.replay.Takes nonce' t' →
            RequestSignature.Apart others' →
            (Request.refresh user.email pair.refreshToken secret nonce' t' others').body.length ≤ maxBody →
            ∃ (next : TokenPair) (renewed : User) (last : World),
              renewed.email = user.email ∧
              Replies ⟨tokens, serverKeys, docs⟩ backend w'
                (.refresh user.email pair.refreshToken secret nonce' t' others') newId' t'
                (RefreshReply.toValue ⟨next.token, next.refreshToken, renewed.profile⟩) last ∧
              Session.Opened tokens t' last.store renewed secret next) := by
  obtain ⟨serverKeys, areServer, rfl⟩ := KeyPair.ofScalar?_eq_some server.1 server.2
  obtain ⟨clientKeys, areClient, rfl⟩ := KeyPair.ofScalar?_eq_some client.1 client.2
  rw [serverKeys.agrees] at nonzero
  have agreed := clientKeys.derive_toText serverKeys.publicKey nonzero
  have notLast : user.version ≠ Int64.maxValue := by
    intro last
    rw [last] at early
    omega
  have verified : Password.verify password user.passwordHash = some (.ok true) := by
    rw [kept]
    exact Password.verify_hash password least most
  refine ⟨serverKeys, clientKeys, _, areServer, areClient, agreed, fun small => ?_⟩
  obtain ⟨pair, opened, later, isOpened, replies, session, seen⟩ := login_opens (s := ⟨tokens, serverKeys, docs⟩)
    working only notLast positive dated spans takes apart newId agreed email_ne verified small
  have sameEmail : opened.email = user.email := by rw [isOpened]
  refine ⟨pair, opened, later, sameEmail, replies, session, seen, ?_⟩
  intro w' t' nonce' others' c newId' only' parsed last' spans' takes' apart' small'
  have dated' : t'.Dated := ⟨TokenService.late_of_parse parsed, last'⟩
  have notLast' : opened.version ≠ Int64.maxValue := by
    have isNext : user.renewed? = some { user with version := user.version + 1 } := if_neg notLast
    have later := (User.version_renewed isNext).2
    intro last
    have isLast : user.version + 1 = Int64.maxValue := by
      rw [← last, isOpened]
    dsimp only at later
    rw [isLast] at later
    omega
  rw [← sameEmail] at small' ⊢
  obtain ⟨next, renewed, last, isRenewed, repliesAgain, sessionAgain⟩ := refresh_renews
    (s := ⟨tokens, serverKeys, docs⟩) working only' notLast' positive dated' spans' takes' apart' newId' session.kept
    session.agreed (KeyPair.secret_ne agreed) (session.refreshToken.later parsed) small'
  exact ⟨next, renewed, last, by rw [isRenewed], repliesAgain, sessionAgain⟩

end Service

namespace Sample

/-- The user with an email and a password. -/
def guest (email : String) : User :=
  { user with email, passwordHash := some (Password.hash "b" (List.replicate 8 0)) }

def lobby (email : String) : World where
  store := .ofList [guest email]
  replay := .new 8

theorem guest_only (email : String) : (lobby email).store.Only (guest email) :=
  ⟨List.mem_singleton.mpr rfl, fun _ member _ => List.mem_singleton.mp member⟩

theorem lobby_takes (email : String) (t : Instant) : (lobby email).replay.Takes "aaaaaaaaaaaaaaaaaaaa" t :=
  ⟨by decide, by decide, List.not_mem_nil⟩

theorem longer_positive : 0 < longer.tokens.sessionLifetime.seconds ∧ 0 < longer.tokens.refreshLifetime.seconds := by
  decide

theorem longer_spans {t : Instant} (dated : t.Dated) : longer.tokens.Spans t := by
  have first := dated.first
  have last := dated.last
  have leeway : TokenService.leeway = 30 := rfl
  have session : longer.tokens.sessionLifetime.seconds = 60 := rfl
  have refresh : longer.tokens.refreshLifetime.seconds = 3600 := rfl
  constructor <;>
    · unfold Instant.inCalendar
      omega

theorem minute_dated {s : Int} (first : 60 ≤ s) (last : s ≤ 61) : Instant.Dated ⟨s, 0⟩ := by
  have leeway : TokenService.leeway = 30 := rfl
  constructor
  · show TokenService.leeway ≤ s
    omega
  · show s ≤ 253402300799
    omega

theorem length_login (client : KeyPair) (email : String) (secret : SharedSecret) (nonce : String) (t : Instant) :
    (Request.login client email "b" secret nonce t []).body.length = (Json.rawOf email).length + 130 := by
  have password : (Json.rawOf "b").length = 1 := by decide +kernel
  have length := LoginRequest.length_write ⟨client.publicKey.toText, email, "b"⟩
  dsimp only at length
  rw [client.publicKey.length_toText, password] at length
  show (Bytes.ofText (LoginRequest.toValue ⟨client.publicKey.toText, email, "b"⟩).write).length = _
  omega

theorem length_refresh (email refreshToken : String) (secret : SharedSecret) (nonce : String) (t : Instant) :
    (Request.refresh email refreshToken secret nonce t []).body.length =
      (Json.rawOf email).length + (Json.rawOf refreshToken).length + 31 :=
  RefreshRequest.length_write ⟨email, refreshToken⟩

end Sample

theorem Service.serves_honest_guest : ∃ (serverKeys clientKeys : KeyPair) (secret : SharedSecret) (pair : TokenPair)
    (opened renewed : User) (later last : World) (next : TokenPair),
    KeyPair.ofScalar? 1 = some serverKeys ∧ KeyPair.ofScalar? 2 = some clientKeys ∧
    clientKeys.derive serverKeys.publicKey.toText = .ok secret ∧
    Replies ⟨Sample.longer.tokens, serverKeys, false⟩ Store.answer (Sample.lobby "a")
      (.login clientKeys "a" "b" secret "aaaaaaaaaaaaaaaaaaaa" ⟨60, 0⟩ []) "" ⟨60, 0⟩ (LoginReply.toValue
        ⟨serverKeys.publicKey.toText, "a", pair.token, pair.refreshToken, opened.profile⟩) later ∧
    Session.Opened Sample.longer.tokens ⟨60, 0⟩ later.store opened secret pair ∧
    Replies ⟨Sample.longer.tokens, serverKeys, false⟩ Store.answer later
      (.refresh "a" pair.refreshToken secret "bbbbbbbbbbbbbbbbbbbb" ⟨61, 0⟩ []) "" ⟨61, 0⟩
      (RefreshReply.toValue ⟨next.token, next.refreshToken, renewed.profile⟩) last ∧
    Session.Opened Sample.longer.tokens ⟨61, 0⟩ last.store renewed secret next := by
  have dated := Sample.minute_dated (s := 60) (by decide) (by decide)
  have dated' := Sample.minute_dated (s := 61) (by decide) (by decide)
  obtain ⟨serverKeys, clientKeys, secret, areServer, areClient, agreed, logsIn⟩ :=
    serves_honest (show 0 < 1 ∧ 1 < P256.order by decide) (show 0 < 2 ∧ 2 < P256.order by decide) (by decide +kernel)
      Sample.longer.tokens false Sample.longer_positive Store.answer_working (Sample.guest_only "a") (by decide)
      (by decide) (show 8 ≤ (List.replicate 8 (0 : UInt8)).length by decide) (by decide) rfl dated (Sample.longer_spans dated)
      (Sample.lobby_takes "a" _) (show RequestSignature.Apart [] by decide) ""
  have email : (Json.rawOf "a").length = 1 := by decide +kernel
  have small : (Request.login clientKeys "a" "b" secret "aaaaaaaaaaaaaaaaaaaa" ⟨60, 0⟩ []).body.length ≤ maxBody := by
    rw [Sample.length_login, email]
    decide
  obtain ⟨pair, opened, later, isEmail, replies, session, seen, renews⟩ := logsIn small
  have isToken : pair.refreshToken = Sample.refreshToken := by
    have issued := TokenService.issueAt_of_issuePair session.issued
    rw [isEmail] at issued
    exact Option.some.inj (issued.symm.trans Sample.refreshToken_issued)
  have parsed : Sample.longer.tokens.parse pair.refreshToken ⟨61, 0⟩ = some (.ok Sample.refreshClaims) := by
    rw [isToken]
    exact Sample.refreshToken_parses (by decide) (by decide)
  have takes : later.replay.Takes "bbbbbbbbbbbbbbbbbbbb" ⟨61, 0⟩ := by
    refine ⟨by decide, by decide, ?_⟩
    rw [seen]
    decide +kernel
  have smallToo : (Request.refresh "a" pair.refreshToken secret "bbbbbbbbbbbbbbbbbbbb" ⟨61, 0⟩ []).body.length ≤
      maxBody := by
    have octets : (Bytes.ofText Sample.refreshToken).length ≤ 1000 := by decide +kernel
    have characters := Bytes.length_le_ofText Sample.refreshToken
    rw [Sample.length_refresh, email, isToken, Json.length_rawOf Sample.refreshToken_plain]
    unfold maxBody
    omega
  obtain ⟨next, renewed, last, -, repliesToo, sessionToo⟩ := renews "" session.only parsed dated'.last
    (Sample.longer_spans dated') takes (show RequestSignature.Apart [] by decide) smallToo
  exact ⟨serverKeys, clientKeys, secret, pair, opened, renewed, later, last, next, areServer, areClient, agreed,
    replies, session, repliesToo, sessionToo⟩

/-! ### Clients that are left alone -/

namespace Service

variable {s : Service} {backend : Backend} {w : World} {newId : String} {t : Instant} {reply : Value} {last : World}

/-- Nobody can sign a refresh at an instant whose text cannot be read. -/
theorem refresh_undated (working : backend.Working) {email refreshToken : String} {secret : SharedSecret}
    {nonce : String} {others : Headers} (apart : RequestSignature.Apart others)
    (undated : Time.Rfc3339.read? (Time.Rfc3339.write t) = none) :
    ¬ s.Replies backend w (.refresh email refreshToken secret nonce t others) newId t reply last := by
  rintro ⟨response, ran, ok, -⟩
  have post : (Request.refresh email refreshToken secret nonce t others).method = .post := rfl
  rcases answered_writes working ran ok with (get | head | options) | ⟨put, -⟩ | wrote
  · exact absurd (post.symm.trans get) (by decide)
  · exact absurd (post.symm.trans head) (by decide)
  · exact absurd (post.symm.trans options) (by decide)
  · exact absurd (post.symm.trans put) (by decide)
  obtain ⟨before, handler, after, old, fields, new, saved, reached, writes, -⟩ := wrote
  cases reached with
  | login put => exact absurd (post.symm.trans put) (by decide)
  | logout delete => exact absurd (post.symm.trans delete) (by decide)
  | rename patch => exact absurd (post.symm.trans patch) (by decide)
  | refresh =>
    cases writes with
    | refresh isBody belongs named held valid issued =>
      have isTime : (Signature.timestampHeader, Time.Rfc3339.write t) ∈ (RequestSignature.signAt .post Request.sessions
          (Bytes.ofText (RefreshRequest.toValue ⟨email, refreshToken⟩).write) secret.bytes nonce t).texts :=
        List.mem_cons_of_mem _ List.mem_cons_self
      have given := RequestSignature.text?_headers apart isTime (Time.Rfc3339.readable_write t)
      have isTimestamp := Option.some.inj (given.symm.trans (Stamp.texts_of_read valid.read).1)
      obtain ⟨sent, isInstant, -⟩ := (Stamp.read_eq_ok_iff.mp valid.read).near
      rw [← isTimestamp, undated] at isInstant
      cases isInstant

/-- A body that is too large is not taken. -/
theorem large_refused {request : Request} (large : maxBody < request.body.length)
    (notOptions : request.method ≠ .options) : ¬ s.Replies backend w request newId t reply last := by
  have follows : (s.handle request newId t).Follows (Program.Ended fun r => r.status = 413) 1 [] := by
    unfold handle
    dsimp only
    rw [if_neg notOptions]
    refine Program.follows_bind ?_
    unfold logged
    rw [if_pos large]
    refine Program.follows_bind (Program.follows_bind (Program.follows_log ?_))
    show Program.Ended (fun r : Response => r.status = 413) 0 [] (if s.headAlone request = true then _ else _)
    split <;> exact ⟨rfl, rfl, rfl⟩
  rintro ⟨response, ran, ok, -⟩
  have hears : w.memory.Hears backend [] := trivial
  obtain ⟨⟨refusal, answered, refused⟩, -⟩ := follows.run hears
  rw [ran] at answered
  cases answered
  rw [ok] at refused
  cases refused

/-- Whether a client logs in with its password at one instant, and is refused at another, while its refresh token is
good and the next ones could be given out. -/
def Abandons (s : Service) (w : World) (client : KeyPair) (user : User) (password : String) (t t' : Instant) : Prop :=
  ∃ (secret : SharedSecret) (pair : TokenPair) (opened : User) (later : World),
    client.derive s.keys.publicKey.toText = .ok secret ∧
    s.Replies Store.answer w (.login client user.email password secret "aaaaaaaaaaaaaaaaaaaa" t []) "" t
      (LoginReply.toValue ⟨s.keys.publicKey.toText, user.email, pair.token, pair.refreshToken, opened.profile⟩) later ∧
    Session.Opened s.tokens t later.store opened secret pair ∧ opened.email = user.email ∧
    s.tokens.Names pair.refreshToken t' user.email ∧ t'.onClock? = some t' ∧ s.tokens.Spans t' ∧
    later.replay.Takes "bbbbbbbbbbbbbbbbbbbb" t' ∧
    ∀ reply last, ¬ s.Replies Store.answer later
      (.refresh user.email pair.refreshToken secret "bbbbbbbbbbbbbbbbbbbb" t' []) "" t' reply last

end Service

namespace Sample

/-- A client of the service that has its very key logs in. -/
theorem guest_enters {email : String} (email_ne : email ≠ "") (small : (Json.rawOf email).length ≤ 1000000)
    {t : Instant} (dated : t.Dated) : ∃ (pair : TokenPair) (opened : User) (later : World),
    longer.Replies Store.answer (lobby email) (.login service.keys email "b" ownSecret "aaaaaaaaaaaaaaaaaaaa" t []) "" t
      (LoginReply.toValue ⟨longer.keys.publicKey.toText, email, pair.token, pair.refreshToken, opened.profile⟩) later ∧
    Session.Opened longer.tokens t later.store opened ownSecret pair ∧ opened.email = email ∧
    later.replay = (lobby email).replay.touch (ReplayGuard.key (Time.Rfc3339.write t) "aaaaaaaaaaaaaaaaaaaa") := by
  have verified : Password.verify "b" (guest email).passwordHash = some (.ok true) :=
    Password.verify_hash "b" (show 8 ≤ (List.replicate 8 (0 : UInt8)).length by decide) (by decide)
  have fits : (Request.login service.keys email "b" ownSecret "aaaaaaaaaaaaaaaaaaaa" t []).body.length ≤
      Service.maxBody := by
    rw [length_login]
    unfold Service.maxBody
    omega
  obtain ⟨pair, opened, later, isOpened, replies, session, seen⟩ := Service.login_opens (s := longer)
    Store.answer_working (guest_only email) (show (0 : Int64) ≠ Int64.maxValue by decide) longer_positive dated
    (longer_spans dated) (lobby_takes email t) (show RequestSignature.Apart [] by decide) "" own_derive email_ne
    verified fits
  exact ⟨pair, opened, later, replies, session, by rw [isOpened]; rfl, seen⟩

/-- The last second of the year 9999. -/
def lastSecond : Instant := ⟨253402300799, 0⟩

theorem lastSecond_dated : lastSecond.Dated := by
  constructor <;> decide

theorem abandoned_late : longer.Abandons (lobby "a") service.keys (guest "a") "b" lastSecond ⟨253402300800, 0⟩ := by
  obtain ⟨pair, opened, later, replies, session, isEmail, seen⟩ := @guest_enters "a" (by decide) (by decide +kernel)
    lastSecond lastSecond_dated
  have issued := TokenService.issueAt_of_issuePair session.issued
  rw [isEmail] at issued
  refine ⟨ownSecret, pair, opened, later, own_derive, replies, session, isEmail, ?_, by decide,
    ⟨by decide, by decide⟩, ?_, ?_⟩
  · exact TokenService.names_issued (by decide) issued (by decide) (by decide) (by decide)
  · refine ⟨by decide, by decide, ?_⟩
    rw [seen]
    decide +kernel
  · intro reply last
    exact Service.refresh_undated Store.answer_working (show RequestSignature.Apart [] by decide)
      (Time.Rfc3339.read?_write_late (by decide))

theorem abandoned_long {email : String} (plain : Json.Plain email)
    (least : 450000 ≤ email.toList.length) (most : email.toList.length ≤ 1000000) :
    longer.Abandons (lobby email) service.keys (guest email) "b" ⟨60, 0⟩ ⟨60, 0⟩ := by
  have dated := minute_dated (s := 60) (by decide) (by decide)
  have length := Json.length_rawOf plain
  have email_ne : email ≠ "" := by
    rintro rfl
    exact absurd least (by decide)
  obtain ⟨pair, opened, later, replies, session, isEmail, seen⟩ := guest_enters email_ne (by omega) dated
  have named := session.refreshToken
  rw [isEmail] at named
  refine ⟨ownSecret, pair, opened, later, own_derive, replies, session, isEmail, named, dated.onClock,
    longer_spans dated, ?_, ?_⟩
  · refine ⟨by decide, by decide, ?_⟩
    rw [seen]
    have other : ReplayGuard.key (Time.Rfc3339.write ⟨60, 0⟩) "bbbbbbbbbbbbbbbbbbbb" ∉
        ((ReplayGuard.new 8).touch (ReplayGuard.key (Time.Rfc3339.write ⟨60, 0⟩) "aaaaaaaaaaaaaaaaaaaa")).keys := by
      decide +kernel
    exact other
  · intro reply last
    have issued := TokenService.issueAt_of_issuePair session.issued
    rw [isEmail] at issued
    have isToken := (TokenService.issueAt_eq_some_iff.mp issued).2
    have tokenLength := TokenService.length_encode longer.tokens
      (TokenService.claims email longer.tokens.refreshLifetime ⟨60, 0⟩)
    rw [isToken] at tokenLength
    have rawLength := Json.length_le_rawOf pair.refreshToken
    have subject : (TokenService.claims email longer.tokens.refreshLifetime ⟨60, 0⟩).subject = email := rfl
    rw [subject] at tokenLength
    refine Service.large_refused ?_ (show Method.post ≠ .options by decide)
    rw [length_refresh]
    unfold Service.maxBody
    show 1048576 < (Json.rawOf email).length + _ + 31
    omega

/-- An email that is half as long as a body may be. -/
def longEmail : String := String.ofList (List.replicate 500000 'a')

end Sample

/-- A client may be left alone, if the year 9999 has passed, or if its email is so long that it does not fit a body
twice. -/
theorem Service.abandons_honest :
    Sample.longer.Abandons (Sample.lobby "a") Sample.service.keys (Sample.guest "a") "b" Sample.lastSecond
        ⟨253402300800, 0⟩ ∧
      Sample.longer.Abandons (Sample.lobby Sample.longEmail) Sample.service.keys (Sample.guest Sample.longEmail) "b"
        ⟨60, 0⟩ ⟨60, 0⟩ := by
  have isLong : Sample.longEmail.toList = List.replicate 500000 'a' := String.toList_ofList
  refine ⟨Sample.abandoned_late, Sample.abandoned_long ?_ ?_ ?_⟩
  · intro c member
    rw [isLong, List.mem_replicate] at member
    rw [member.2]
    decide
  · rw [isLong, List.length_replicate]
    omega
  · rw [isLong, List.length_replicate]
    omega

end Countersign
