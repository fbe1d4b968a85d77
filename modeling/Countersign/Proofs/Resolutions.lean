import Countersign.Proofs.Discretion
import Countersign.Proofs.Outages

/-!
Whose a token is, whatever the store.

The store may be of any kind, and answer the look-up of a subject with any record. A token resolves to the record that
it has answered with, if that has the subject for its email, letter for letter, and holds the token if it is one for a
refresh (`Session.Resolves`); otherwise it resolves to nothing. A token that does not parse is refused before anything
is asked. So the places behind a session answer 200 only to requests that present a token of their own
(`Service.resolution_exact`).
-/

namespace Countersign

open Http (Request Response)

/-- A token that is refused is so for its own sake, and not for a failure of the system. -/
theorem TokenService.ofToken_of_parse {service : TokenService} {token : String} {now : Instant} {e : TokenError}
    (refused : service.parse token now = some (.error e)) : AuthError.ofToken e = .invalidToken := by
  have read_error (e : TokenError) (unread : service.read token = .error e) : AuthError.ofToken e = .invalidToken := by
    unfold read at unread
    dsimp only at unread
    repeat' split at unread
    all_goals cases unread
    all_goals rfl
  have claims_error (c : Claims) (second : Int) (e : TokenError) (bad : checkClaims c second = .error e) :
      AuthError.ofToken e = .invalidToken := by
    unfold checkClaims at bad
    repeat' split at bad
    all_goals cases bad
    all_goals rfl
  unfold parse at refused
  split at refused
  next unread =>
    cases refused
    exact read_error _ unread
  next c _ =>
    split at refused
    · cases refused
    · exact claims_error c now.seconds e (Option.some.inj refused)

theorem Program.Settled.ends_eq {σ α : Type} {ends : α → Prop} {p : Program α} (settled : p.Settled ends)
    {backend : StoreCall → σ → Option StoreAnswer × σ} {w left : WorldOf σ} {a : α}
    (ran : p.run (WorldOf.answer backend) w = (some a, left)) : ends a := by
  obtain ⟨b, ended, isEnd⟩ := settled.ends_of backend w
  rw [ran] at ended
  cases ended
  exact isEnd

namespace Session

section

variable {σ : Type} {tokens : TokenService} {token : String} {kind : TokenKind} {now : Instant}

/-- What is found out about a token in a run on a store of any kind. -/
def resolved (tokens : TokenService) (backend : StoreCall → σ → Option StoreAnswer × σ) (w : WorldOf σ)
    (token : String) (kind : TokenKind) (now : Instant) : Option (Except AuthError User) :=
  ((resolve tokens token kind now).run.run (WorldOf.answer backend) w).1

/-- What comes of a token by what the store answers for its subject. -/
def judge (token : String) (kind : TokenKind) (subject : String) : StoreAnswer → Except AuthError User
  | .ok user =>
    if user.email = subject ∧ (kind = .refresh → user.refreshToken = some token) then .ok user
    else .error .invalidToken
  | .error .notFound => .error .invalidToken
  | .error e => .error (AuthError.ofStore e)

theorem resolved_of_parses {claims : Claims} (parses : tokens.parse token now = some (.ok claims))
    (backend : StoreCall → σ → Option StoreAnswer × σ) (w : WorldOf σ) :
    resolved tokens backend w token kind now =
      (backend (.findByEmail claims.subject) w.store).1.map (judge token kind claims.subject) := by
  unfold resolved resolve
  rw [parses]
  show (Program.run (WorldOf.answer backend) (.call (.store (.findByEmail claims.subject)) _) w).1 = _
  rw [Program.run, WorldOf.answer_store]
  rcases backend (.findByEmail claims.subject) w.store with ⟨answer, store⟩
  cases answer with
  | none => rfl
  | some answer =>
    cases answer with
    | error e => cases e <;> rfl
    | ok user =>
      show (Program.run (WorldOf.answer backend) (ExceptT.run (if _ then _ else if _ then _ else _ : Attempt User)) _).1 =
        some (judge token kind claims.subject (.ok user))
      unfold judge
      dsimp only
      by_cases named : user.email = claims.subject
      · rw [if_neg (fun other => other named)]
        by_cases kept : kind = .refresh → user.refreshToken = some token
        · rw [if_neg (fun both => both.2 (kept both.1)), if_pos ⟨named, kept⟩]
          rfl
        · rw [if_pos (Classical.not_imp.mp kept), if_neg (fun both => kept both.2)]
          rfl
      · rw [if_pos named, if_neg (fun both => named both.1)]
        rfl

/-- A token that is refused has the store asked for nothing. -/
theorem resolve_of_refused {e : TokenError} (refused : tokens.parse token now = some (.error e)) :
    (resolve tokens token kind now).run = .done (.error .invalidToken) := by
  rw [← TokenService.ofToken_of_parse refused]
  unfold resolve
  rw [refused]
  rfl

theorem resolve_of_unread (unread : tokens.parse token now = none) :
    (resolve tokens token kind now).run = .abort := by
  unfold resolve
  rw [unread]
  rfl

theorem judge_eq_ok_iff {subject : String} {answer : StoreAnswer} {user : User} :
    judge token kind subject answer = .ok user ↔
      answer = .ok user ∧ user.email = subject ∧ (kind = .refresh → user.refreshToken = some token) := by
  cases answer with
  | error e => cases e <;> simp [judge]
  | ok found =>
    unfold judge
    dsimp only
    constructor
    · intro passed
      split at passed
      next both =>
        cases passed
        exact ⟨rfl, both⟩
      · cases passed
    · rintro ⟨⟨⟩, both⟩
      rw [if_pos both]

theorem judge_eq_system_iff {subject text : String} {answer : StoreAnswer} :
    judge token kind subject answer = .error (.systemError text) ↔
      ∃ detail, answer = .error (.unavailable detail) ∧ text = (StoreError.unavailable detail).message := by
  cases answer with
  | error e => cases e <;> simp [judge, AuthError.ofStore, eq_comm]
  | ok found =>
    unfold judge
    dsimp only
    split <;> simp

end

/-- A token and the user to whom it resolves, by what the store answers. -/
structure Resolves (tokens : TokenService) (answered : StoreCall → Option StoreAnswer) (token : String)
    (kind : TokenKind) (now : Instant) (claims : Claims) (user : User) : Prop where
  parses : tokens.parse token now = some (.ok claims)
  found : answered (.findByEmail claims.subject) = some (.ok user)
  named : user.email = claims.subject
  kept : kind = .refresh → user.refreshToken = some token

section

variable {σ : Type} {tokens : TokenService} {token : String} {kind : TokenKind} {now : Instant}
  {backend : StoreCall → σ → Option StoreAnswer × σ} {w : WorldOf σ}

/-- Whatever is found out about a token, but that it is refused, is found out from the store. -/
theorem resolved_eq_some_iff {result : Except AuthError User} (result_ne : result ≠ .error .invalidToken) :
    resolved tokens backend w token kind now = some result ↔
      ∃ claims answer, tokens.parse token now = some (.ok claims) ∧
        (backend (.findByEmail claims.subject) w.store).1 = some answer ∧
        judge token kind claims.subject answer = result := by
  match parsed : tokens.parse token now with
  | none =>
    unfold resolved
    rw [resolve_of_unread parsed]
    simp [Program.run]
  | some (.error e) =>
    unfold resolved
    rw [resolve_of_refused parsed]
    simpa [Program.run] using result_ne.symm
  | some (.ok claims) =>
    rw [resolved_of_parses parsed, Option.map_eq_some_iff]
    simp

theorem resolved_eq_ok_iff {user : User} : resolved tokens backend w token kind now = some (.ok user) ↔
    ∃ claims, Resolves tokens (fun call => (backend call w.store).1) token kind now claims user := by
  rw [resolved_eq_some_iff (by simp)]
  constructor
  · rintro ⟨claims, answer, parses, answered, judged⟩
    obtain ⟨rfl, named, kept⟩ := judge_eq_ok_iff.mp judged
    exact ⟨claims, parses, answered, named, kept⟩
  · rintro ⟨claims, parses, found, named, kept⟩
    exact ⟨claims, .ok user, parses, found, judge_eq_ok_iff.mpr ⟨rfl, named, kept⟩⟩

/-- It is a failure of the system exactly if the store is unavailable. -/
theorem resolved_eq_system_iff {text : String} :
    resolved tokens backend w token kind now = some (.error (.systemError text)) ↔
      ∃ claims detail, tokens.parse token now = some (.ok claims) ∧
        (backend (.findByEmail claims.subject) w.store).1 = some (.error (.unavailable detail)) ∧
        text = (StoreError.unavailable detail).message := by
  rw [resolved_eq_some_iff (by simp)]
  constructor
  · rintro ⟨claims, answer, parses, answered, judged⟩
    obtain ⟨detail, rfl, same⟩ := judge_eq_system_iff.mp judged
    exact ⟨claims, detail, parses, answered, same⟩
  · rintro ⟨claims, detail, parses, answered, same⟩
    exact ⟨claims, _, parses, answered, judge_eq_system_iff.mpr ⟨detail, rfl, same⟩⟩

end

end Session

/-! ### Places behind a session -/

/-- The places that ask for a session before anything else. -/
inductive Route.Gated : Route → Prop
  | me : Gated .me
  | user (segment : String) : Gated (.user segment)

namespace Service

variable {σ : Type} {s : Service} {backend : StoreCall → σ → Option StoreAnswer × σ} {w left : WorldOf σ}
  {request : Request} {now : Instant} {response : Response}

/-- A request presents a token that resolves to a user. -/
def Presents (s : Service) (backend : StoreCall → σ → Option StoreAnswer × σ) (w : WorldOf σ) (request : Request)
    (now : Instant) : Prop :=
  ∃ token claims user, Session.presented? request.headers = some token ∧
    Session.Resolves s.tokens (fun call => (backend call w.store).1) token .session now claims user

/-- A request is answered before anything is known of a principal, and not with 200. -/
def Refuses (r : Except Response (Option Principal)) : Prop :=
  ∃ refusal, r = .error refusal ∧ refusal.status ≠ 200

/-- What is known of the principal of a request: there is none because no token is presented, or the token that is
presented resolves; otherwise the request is refused. -/
theorem principalOf_cases {r : Except Response (Option Principal)}
    (ran : (s.principalOf request now).run (WorldOf.answer backend) w = (some r, left)) :
    r = .ok none ∨ s.Presents backend w request now ∨ Refuses r := by
  unfold principalOf at ran
  split at ran
  · cases ran
    exact .inl rfl
  next token presented =>
    rw [Program.run_bind] at ran
    split at ran
    next result later resolved =>
      cases result with
      | ok user =>
        obtain ⟨claims, resolves⟩ := Session.resolved_eq_ok_iff.mp (congrArg Prod.fst resolved)
        exact .inr (.inl ⟨token, claims, user, presented, resolves⟩)
      | error e =>
        refine .inr (.inr (Program.Settled.ends_eq ?_ ran))
        split
        next same => cases same
        · exact Program.settled_bind (Program.settled_logAll _ ⟨_, rfl, AuthError.response_ne_ok _⟩)
        · exact ⟨_, rfl, AuthError.response_ne_ok _⟩
    · cases ran

theorem presents_of_withPrincipal {use : Option Principal → Program Response}
    (refuses : (use none).Settled fun r => r.status ≠ 200)
    (ran : (s.withPrincipal request now use).run (WorldOf.answer backend) w = (some response, left))
    (ok : response.status = 200) : s.Presents backend w request now := by
  unfold withPrincipal at ran
  rw [Program.run_bind] at ran
  split at ran
  next r later found =>
    rcases principalOf_cases found with rfl | presents | ⟨refusal, rfl, refused⟩
    · exact absurd ok (refuses.ends_eq ran)
    · exact presents
    · cases ran
      exact absurd ok refused
  · cases ran

/-- Nothing but 401 without a session. -/
theorem settled_required (use : Principal → Program Response) :
    (required none use).Settled fun r => r.status ≠ 200 := by
  show Program.Settled _ (Program.logAll _ >>= fun _ => pure _)
  exact Program.settled_bind (Program.settled_logAll _ (AuthError.response_ne_ok _))

theorem wrongMethod_ne_ok : wrongMethod.status ≠ 200 := by decide

theorem presents_of_endpoint {route : Route} (gated : route.Gated)
    (ran : (s.endpoint route request now).run (WorldOf.answer backend) w = (some response, left))
    (ok : response.status = 200) : s.Presents backend w request now := by
  cases gated with
  | me =>
    refine presents_of_withPrincipal ?_ ran ok
    split
    · exact settled_required _
    · exact wrongMethod_ne_ok
  | user segment =>
    refine presents_of_withPrincipal ?_ ran ok
    unfold userEndpoint
    split
    · exact settled_required _
    split
    · exact settled_required _
    · exact wrongMethod_ne_ok

/-- What is answered at a place is what its endpoint answers there, but for a browser that asks what it may do. -/
theorem presents_of_handle {route : Route} (place : s.route? request = some route) (gated : route.Gated)
    (notOptions : request.method ≠ .options) {newId : String}
    (ran : (s.handle request newId now).run (WorldOf.answer backend) w = (some response, left))
    (ok : response.status = 200) : s.Presents backend w request now := by
  unfold handle at ran
  rw [if_neg notOptions, Program.run_bind] at ran
  split at ran
  next answered later found =>
    cases ran
    -- What is done with every response leaves its status.
    have sameStatus : answered.status = 200 := by
      rw [← ok]
      show _ = Response.status (if _ then _ else _)
      split <;> rfl
    unfold logged at found
    split at found
    · cases found
      cases sameStatus
    · rw [place, Program.run_bind] at found
      dsimp only at found
      split at found
      next r later' ended =>
        cases found
        exact presents_of_endpoint gated ended sameStatus
      · cases found
  · cases ran

/-- On a store of any kind, a token resolves to a user exactly if the store has that record for its subject and the
record is that of the subject and of the token; it fails for the system exactly if the store is unavailable; and if it
does not parse, no call is made at all. So a place behind a session answers 200 only to a request whose token resolves;
the methods that a browser may use are told without a look at the place. -/
theorem resolution_exact (s : Service) (backend : StoreCall → σ → Option StoreAnswer × σ) (w : WorldOf σ)
    (now : Instant) :
    (∀ token kind user, Session.resolved s.tokens backend w token kind now = some (.ok user) ↔
      ∃ claims, Session.Resolves s.tokens (fun call => (backend call w.store).1) token kind now claims user) ∧
    (∀ token kind text, Session.resolved s.tokens backend w token kind now = some (.error (.systemError text)) ↔
      ∃ claims detail, s.tokens.parse token now = some (.ok claims) ∧
        (backend (.findByEmail claims.subject) w.store).1 = some (.error (.unavailable detail)) ∧
        text = (StoreError.unavailable detail).message) ∧
    (∀ token kind, (∀ claims, s.tokens.parse token now ≠ some (.ok claims)) →
      (Session.resolve s.tokens token kind now).run = .abort ∨
      (Session.resolve s.tokens token kind now).run = .done (.error .invalidToken)) ∧
    ∀ route request, route.Gated →
      (∀ response left, (s.endpoint route request now).run (WorldOf.answer backend) w = (some response, left) →
        response.status = 200 → s.Presents backend w request now) ∧
      ∀ newId response left, s.route? request = some route → request.method ≠ .options →
        (s.handle request newId now).run (WorldOf.answer backend) w = (some response, left) →
        response.status = 200 → s.Presents backend w request now := by
  refine ⟨fun _ _ _ => Session.resolved_eq_ok_iff, fun _ _ _ => Session.resolved_eq_system_iff, ?_, ?_⟩
  · intro token kind unparsed
    match parsed : s.tokens.parse token now with
    | none => exact .inl (Session.resolve_of_unread parsed)
    | some (.error e) => exact .inr (Session.resolve_of_refused parsed)
    | some (.ok claims) => exact absurd parsed (unparsed claims)
  · intro route request gated
    exact ⟨fun _ _ ran ok => presents_of_endpoint gated ran ok,
      fun _ _ _ place notOptions ran ok => presents_of_handle place gated notOptions ran ok⟩

end Service

/-! ### The user of the small service -/

/-- A store that knows one user only, and whom nothing changes. -/
def Sample.only (user : User) : StoreCall → Unit → Option StoreAnswer × Unit := fun _ _ => (some (.ok user), ())

/-- A record that the store takes for another one's is of no use. -/
example : Session.resolved Sample.service.tokens (Sample.only { Sample.user with email := "A" }) ⟨(), .new 0, []⟩
    Sample.token .session ⟨60, 0⟩ = some (.error .invalidToken) := by
  rw [Session.resolved_of_parses Sample.token_parses]
  rfl

/-- Whoever presents a session is told who they are. -/
theorem Service.run_me {σ : Type} {s : Service} {backend : StoreCall → σ → Option StoreAnswer × σ} {w : WorldOf σ}
    {request : Request} {now : Instant} {token : String} {user : User}
    (presented : Session.presented? request.headers = some token) (reads : request.method = .get)
    (resolved : Session.resolved s.tokens backend w token .session now = some (.ok user)) :
    ∃ left, (s.endpoint .me request now).run (WorldOf.answer backend) w =
      (some (currentUser (Principal.ofUser user)), left) := by
  show ∃ left, Program.run _ (withPrincipal _ _ _ _) _ = (_, left)
  unfold withPrincipal principalOf
  rw [presented, Program.run_bind, Program.run_bind]
  rcases ran : (Session.resolve s.tokens token .session now).run.run (WorldOf.answer backend) w with ⟨result, left⟩
  have isUser : result = some (.ok user) := (congrArg Prod.fst ran).symm.trans resolved
  subst isUser
  refine ⟨left, ?_⟩
  show Program.run _ (if _ then _ else _) _ = _
  rw [if_pos (.inl reads)]
  rfl

theorem Sample.whoAmI_resolved :
    Session.resolved service.tokens (only user) ⟨(), .new 0, []⟩ token .session ⟨60, 0⟩ = some (.ok user) := by
  rw [Session.resolved_of_parses token_parses]
  rfl

theorem Sample.whoAmI_presented : Session.presented? whoAmI.headers = some token :=
  Session.presented?_bearer token_plain token_ne []

theorem Service.resolution_exact_whoAmI :
    (Service.currentUser (Principal.ofUser Sample.user)).status = 200 ∧
      Sample.service.Presents (Sample.only Sample.user) ⟨(), .new 0, []⟩ Sample.whoAmI ⟨60, 0⟩ := by
  obtain ⟨-, -, -, places⟩ := Service.resolution_exact Sample.service (Sample.only Sample.user) ⟨(), .new 0, []⟩ ⟨60, 0⟩
  obtain ⟨left, ran⟩ := Service.run_me (s := Sample.service) Sample.whoAmI_presented rfl Sample.whoAmI_resolved
  exact ⟨rfl, (places .me Sample.whoAmI .me).1 _ _ ran rfl⟩

end Countersign
