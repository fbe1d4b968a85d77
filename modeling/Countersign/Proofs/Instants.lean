import Countersign.Proofs.Dates
import Countersign.Proofs.Requests
import Countersign.Proofs.Tokens

/-!
What can be done at an instant of the years 1970 to 9999.

A request can be signed then, and the guard takes it unless it has seen the nonce (`Http.Request.honest_valid`). Tokens
can be given out as long as their times are in the calendar, and name the user from then on
(`TokenService.issuePair_iff_spans`, `TokenService.names_now`).
-/

namespace Countersign

open Http (Header Headers Method Request)
open Json (Value)

/-! ### Signing at an instant -/

theorem Text.readable_padded (width n : Nat) : Header.Readable (padded width n) := by
  intro c member
  have digit : c.isDigit = true := by
    unfold padded at member
    rw [String.toList_ofList, List.mem_append, List.mem_replicate] at member
    rcases member with ⟨-, rfl⟩ | member
    · rfl
    · exact isDigit_of_mem_natDigits member
  have range := range_of_isDigit digit
  omega

/-- The text of an instant can stand in a header. -/
theorem Time.Rfc3339.readable_write (t : Instant) : Header.Readable (write t) := by
  have year (y : Int) : Header.Readable (yearText y) := by
    have sign : Header.Readable (if y < 0 then "-" else "+") := by split <;> decide
    unfold yearText
    split
    · exact Text.readable_padded _ _
    · exact sign.append (Text.readable_padded _ _)
  have two (n : Nat) : Header.Readable (Text.padded 2 n) := Text.readable_padded 2 n
  have dash : Header.Readable "-" := by decide
  have colon : Header.Readable ":" := by decide
  have theT : Header.Readable "T" := by decide
  have theZ : Header.Readable "Z" := by decide
  unfold write
  dsimp only
  exact ((((((((((((year _).append dash).append (two _)).append dash).append (two _)).append theT).append
    (two _)).append colon).append (two _)).append colon).append (two _)).append theZ)

/-- An instant is less than a second after the beginning of its second, so that this is in the window. -/
theorem Instant.inWindow_truncated (t : Instant) : Stamp.inWindow t t.truncated = true := by
  have parts := t.nanos_truncated_le
  rw [Stamp.inWindow_iff, since_truncated]
  unfold second
  omega

/-- The clock can show the years 1970 to 9999. -/
theorem Instant.onClock_of_nonneg {t : Instant} (first : 0 ≤ t.seconds) (last : t.seconds ≤ 253402300799) :
    t.onClock? = some t := by
  unfold onClock? inCalendar
  exact if_pos (by omega)

/-- An instant of the years 1970 to 9999, and not of the first half minute. -/
structure Instant.Dated (t : Instant) : Prop where
  first : TokenService.leeway ≤ t.seconds
  last : t.seconds ≤ 253402300799

namespace Instant.Dated

variable {t : Instant} (dated : t.Dated)
include dated

theorem nonneg : 0 ≤ t.seconds := Int.le_trans (by decide) dated.first

theorem onClock : t.onClock? = some t := onClock_of_nonneg dated.nonneg dated.last

theorem read?_write : Time.Rfc3339.read? (Time.Rfc3339.write t) = some t.truncated :=
  Time.Rfc3339.read?_write (Int.le_trans (by decide) dated.nonneg) dated.last

end Instant.Dated

/-- Whether a text has visible characters of ASCII only. -/
def Http.Header.Visible (s : String) : Prop := ∀ c ∈ s.toList, 33 ≤ c.toNat ∧ c.toNat ≤ 126

instance (s : String) : Decidable (Header.Visible s) := List.decidableBAll _ s.toList

theorem Http.Header.Visible.readable {s : String} (visible : Visible s) : Readable s := fun c member => by
  have := visible c member
  omega

/-- A nonce with which a request can be signed that a guard has not seen. -/
structure ReplayGuard.Takes (guard : ReplayGuard) (nonce : String) (t : Instant) : Prop where
  visible : Header.Visible nonce
  long : Signature.minNonceLength ≤ nonce.length
  unseen : key (Time.Rfc3339.write t) nonce ∉ guard.keys

namespace Http.Request

/-- The path of the place of sessions. -/
def sessions : String := "/api/v1/auth"

/-- A request to the place of sessions that is signed at an instant, beside other headers. -/
def honest (method : Method) (body : Value) (secret : SharedSecret) (nonce : String) (t : Instant) (others : Headers) :
    Request where
  method := method
  target := .ofText sessions
  headers := others ++ (RequestSignature.signAt method sessions (Bytes.ofText body.write) secret.bytes nonce t).headers
  body := Bytes.ofText body.write

/-- A login with a new key. -/
def login (client : KeyPair) (email password : String) (secret : SharedSecret) (nonce : String) (t : Instant)
    (others : Headers) : Request :=
  honest .put (LoginRequest.toValue ⟨client.publicKey.toText, email, password⟩) secret nonce t others

/-- The question for new tokens. -/
def refresh (email refreshToken : String) (secret : SharedSecret) (nonce : String) (t : Instant) (others : Headers) :
    Request :=
  honest .post (RefreshRequest.toValue ⟨email, refreshToken⟩) secret nonce t others

variable {method : Method} {body : Value} {secret : SharedSecret} {nonce : String} {t : Instant} {others : Headers}

theorem route?_sessions (s : Service) {request : Request} (isTarget : request.target = .ofText sessions) :
    s.route? request = some .auth := by
  unfold Service.route?
  rw [isTarget]
  cases s.docs <;> decide +kernel

theorem signedText_sessions : (Http.Target.ofText sessions).signedText = sessions := by decide +kernel

/-- What an honest request says about its signing. -/
def honestStamp (method : Method) (body : Value) (secret : SharedSecret) (nonce : String) (t : Instant) : Stamp where
  signature := (RequestSignature.signAt method sessions (Bytes.ofText body.write) secret.bytes nonce t).signature
  nonce := nonce
  timestamp := Time.Rfc3339.write t

theorem honest_valid {guard : ReplayGuard} (secret_ne : secret.bytes ≠ []) (dated : t.Dated)
    (takes : guard.Takes nonce t) (apart : RequestSignature.Apart others) :
    (honestStamp method body secret nonce t).Valid (honest method body secret nonce t others).signed secret.bytes
      t := by
  unfold honest Request.signed
  dsimp only
  rw [signedText_sessions]
  exact RequestSignature.valid apart secret_ne dated.onClock takes.visible.readable takes.long
    (Time.Rfc3339.readable_write t) dated.read?_write t.inWindow_truncated

theorem honest_signed (apart : RequestSignature.Apart others) :
    ((honest method body secret nonce t others).headers.first? Signature.signatureHeader).isSome = true := by
  have isSigned : (Signature.signatureHeader, (honestStamp method body secret nonce t).signature) ∈
      (RequestSignature.signAt method sessions (Bytes.ofText body.write) secret.bytes nonce t).texts := by
    simp [RequestSignature.texts, honestStamp]
  have given := RequestSignature.text?_headers apart isSigned (Base64.encode_readable .standard _)
  unfold Headers.text? at given
  obtain ⟨header, isHeader, -⟩ := Option.bind_eq_some_iff.mp given
  exact Option.isSome_iff_exists.mpr ⟨header, isHeader⟩

end Http.Request

/-! ### Tokens -/

/-- Whether the times of tokens that are given out at an instant are in the calendar. -/
structure TokenService.Spans (tokens : TokenService) (t : Instant) : Prop where
  session : Instant.inCalendar (t.seconds + tokens.sessionLifetime.seconds)
  refresh : Instant.inCalendar (t.seconds + tokens.refreshLifetime.seconds)

/-- Whether a token is good at an instant, for the user of an email. -/
def TokenService.Names (tokens : TokenService) (token : String) (t : Instant) (email : String) : Prop :=
  ∃ c, tokens.parse token t = some (.ok c) ∧ c.subject = email

namespace TokenService

variable {tokens : TokenService} {t : Instant}

/-- At an instant of the years 1970 to 9999, tokens are given out if their times are in the calendar, and only then. -/
theorem issuePair_iff_spans (first : 0 ≤ t.seconds) (last : t.seconds ≤ 253402300799)
    (positive : 0 < tokens.sessionLifetime.seconds ∧ 0 < tokens.refreshLifetime.seconds) (subject : String) :
    (∃ pair, tokens.issuePair subject t = some pair) ↔ tokens.Spans t := by
  have session : 0 ≤ tokens.sessionLifetime.seconds := Int.le_of_lt positive.1
  have refresh : 0 ≤ tokens.refreshLifetime.seconds := Int.le_of_lt positive.2
  constructor
  · rintro ⟨pair, issued⟩
    obtain ⟨-, isSession, isRefresh⟩ := issuePair_eq_some_iff.mp issued
    have sessionEnds := (issueAt_eq_some_iff.mp isSession).1.2
    have refreshEnds := (issueAt_eq_some_iff.mp isRefresh).1.2
    rw [expires_claims subject session] at sessionEnds
    rw [expires_claims subject refresh] at refreshEnds
    exact ⟨sessionEnds, refreshEnds⟩
  · intro spans
    exact ⟨⟨_, _⟩, issuePair_eq_some_iff.mpr ⟨Instant.onClock_of_nonneg first last,
      issueAt_of_inCalendar first session spans.session, issueAt_of_inCalendar first refresh spans.refresh⟩⟩

theorem names_issued {subject token : String} {lifetime : Lifetime} {t' : Instant} (late : leeway ≤ t.seconds)
    (issued : tokens.issueAt subject lifetime t = some token)
    (begun : (claims subject lifetime t).notBefore ≤ t'.seconds + leeway)
    (unended : t'.seconds - leeway ≤ t.seconds + lifetime.seconds) (lateToo : leeway ≤ t'.seconds) :
    tokens.Names token t' subject := by
  have least : 0 ≤ leeway := by decide
  have read := read_of_issueAt issued late (by omega)
  have ends : t.seconds + lifetime.seconds ≤ (claims subject lifetime t).expires := t.le_seconds_plus _
  exact ⟨_, parse_eq_ok_iff.mpr ⟨read, lateToo, by omega, begun, rfl, rfl⟩, rfl⟩

theorem names_now {subject token : String} {lifetime : Lifetime} (dated : t.Dated) (positive : 0 < lifetime.seconds)
    (issued : tokens.issueAt subject lifetime t = some token) : tokens.Names token t subject := by
  have least : 1 ≤ leeway := by decide
  refine names_issued dated.first issued ?_ (by omega) dated.first
  rw [notBefore_claims]
  split <;> omega

/-- A token names the same user as long as it is good. -/
theorem Names.later {token email : String} {t' : Instant} {c : Claims} (names : tokens.Names token t email)
    (parsed : tokens.parse token t' = some (.ok c)) : tokens.Names token t' email := by
  obtain ⟨d, parsedBefore, subject⟩ := names
  have same := (parse_eq_ok_iff.mp parsedBefore).1.symm.trans (parse_eq_ok_iff.mp parsed).1
  cases same
  exact ⟨_, parsed, subject⟩

end TokenService

end Countersign
