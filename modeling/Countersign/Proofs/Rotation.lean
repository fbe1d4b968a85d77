import Countersign.Proofs.Refreshes

/-!
Refresh tokens that are spent or revoked.

Whoever presents a refresh token as such must be the user whom it names, with whom it must be kept: one that has been
removed from its user, or replaced, refreshes nothing and ends no session (`Series.revoked_refused`). A refresh replaces
the token by one that tells the second of the refresh. So it is spent by being used, unless that is the second in which
it was given out itself, and as long as nothing is given out to the user in that second again (`Series.refresh_spends`).
-/

namespace Countersign

open Http (Request)
open Json (Node)

/-- A refresh that presents a token. -/
structure Http.Request.Refreshes (request : Request) (token : String) : Prop where
  post : request.method = .post
  presents : ∃ body, (Node.read? request.body).bind RefreshRequest.ofNode? = some body ∧ body.refreshToken = token

/-- A logout that presents a refresh token. -/
structure Http.Request.LogsOut (request : Request) (token : String) : Prop where
  delete : request.method = .delete
  presents : ∃ body, (Node.read? request.body).bind LogoutRequest.ofNode? = some body ∧
    Service.logoutToken body = some (token, .refresh)

theorem Sample.refreshes (nonce : String) : (refresh nonce).Refreshes refreshToken := ⟨rfl, _, refreshBody_read, rfl⟩

/-- Whoever a token belongs to is the one to whom it was given out. -/
theorem Session.Belongs.email_of_issueAt {tokens : TokenService} {token subject : String} {kind : TokenKind}
    {now issued : Instant} {user : User} {lifetime : Lifetime} (belongs : Belongs tokens token kind now user)
    (wasIssued : tokens.issueAt subject lifetime issued = some token) : user.email = subject := by
  obtain ⟨c, parsed, isEmail⟩ := belongs.parses
  obtain ⟨rfl, -⟩ := (TokenService.read_iff_of_issueAt wasIssued).mp (TokenService.parse_eq_ok_iff.mp parsed).1
  exact isEmail.symm

namespace Series

variable {r : Series} {n : Nat} {token : String}

/-- A refresh that succeeds replaces the token that it presents by one given out now. -/
theorem changes_of_refreshes (working : r.backend.Working) (refreshes : (r.request n).Refreshes token)
    (succeeded : r.Succeeded n) :
    ∃ old new fresh, r.Changes n old new ∧ Session.Belongs r.service.tokens token .refresh (r.now n) old ∧
      new.refreshToken = some fresh ∧
      r.service.tokens.issueAt old.email r.service.tokens.refreshLifetime (r.now n) = some fresh := by
  have post := refreshes.post
  obtain ⟨old, new, changes⟩ := succeeded_changes working succeeded post (by decide)
  have mediates := changes.2.2
  cases mediates with
  | login put => exact absurd (post.symm.trans put) (by decide)
  | logout delete => exact absurd (post.symm.trans delete) (by decide)
  | rename patch => exact absurd (post.symm.trans patch) (by decide)
  | refresh _ place isBody belongs named held accepted issued =>
    obtain ⟨body, isBodyToo, isToken⟩ := refreshes.presents
    cases Option.some.inj (isBody.symm.trans isBodyToo)
    subst isToken
    exact ⟨old, _, _, changes, belongs, rfl, TokenService.issueAt_of_issuePair issued⟩

theorem changes_of_logsOut (working : r.backend.Working) (logsOut : (r.request n).LogsOut token)
    (succeeded : r.Succeeded n) :
    ∃ old new, r.Changes n old new ∧ Session.Belongs r.service.tokens token .refresh (r.now n) old := by
  have delete := logsOut.delete
  obtain ⟨old, new, changes⟩ := succeeded_changes working succeeded delete (by decide)
  have mediates := changes.2.2
  cases mediates with
  | login put => exact absurd (delete.symm.trans put) (by decide)
  | refresh post => exact absurd (delete.symm.trans post) (by decide)
  | rename patch => exact absurd (delete.symm.trans patch) (by decide)
  | logout _ place isBody presented belongs named =>
    obtain ⟨body, isBodyToo, isToken⟩ := logsOut.presents
    cases Option.some.inj (isBody.symm.trans isBodyToo)
    cases Option.some.inj (presented.symm.trans isToken)
    exact ⟨old, _, changes, belongs⟩

/-- A refresh token that is not kept with its user any more is refused wherever one is asked for. -/
theorem revoked_refused (r : Series) (working : r.backend.Working) (start : r.start.store.Apart) {user : User}
    {issued : Instant}
    (wasIssued : r.service.tokens.issueAt user.email r.service.tokens.refreshLifetime issued = some token)
    (known : (r.world n).store.find? user.id = some user) (revoked : user.refreshToken ≠ some token) :
    ((r.request n).Refreshes token → ¬ r.Succeeded n) ∧ ((r.request n).LogsOut token → ¬ r.Succeeded n) := by
  have notUsed {old new : User} (changes : r.Changes n old new) :
      ¬ Session.Belongs r.service.tokens token .refresh (r.now n) old := by
    intro belongs
    have isUser : old = user := apart working start n changes.1.was known (belongs.email_of_issueAt wasIssued)
    exact revoked (isUser ▸ belongs.kept rfl)
  constructor
  · intro refreshes succeeded
    obtain ⟨old, new, _, changes, belongs, -⟩ := changes_of_refreshes working refreshes succeeded
    exact notUsed changes belongs
  · intro logsOut succeeded
    obtain ⟨old, new, changes, belongs⟩ := changes_of_logsOut working logsOut succeeded
    exact notUsed changes belongs

theorem revoked_refused_rotation : ¬ (Sample.rotation ⟨61, 0⟩).Succeeded 2 := by
  obtain ⟨token, other, -, stored⟩ := Sample.replaced
  obtain ⟨-, still⟩ := Sample.questioned (by decide) (by decide) stored
  have revoked : (Sample.renewed token).refreshToken ≠ some Sample.refreshToken :=
    fun same => other (Option.some.inj same)
  have wasIssued : Sample.longer.tokens.issueAt (Sample.renewed token).email Sample.longer.tokens.refreshLifetime
      ⟨60, 0⟩ = some Sample.refreshToken := Sample.refreshToken_issued
  have refused := revoked_refused (Sample.rotation ⟨61, 0⟩) Store.answer_working
    (Sample.rotation_ordered _).apart wasIssued (Sample.find?_renewed still) revoked
  exact refused.1 (Sample.refreshes _)

/-- One second later the token is not kept any more, and still passes for one of a session. -/
theorem revoked_token_answers :
    Sample.longer.tokens.sessionLifetime ≠ Sample.longer.tokens.refreshLifetime ∧
    (∃ user : User, ((Sample.rotation ⟨61, 0⟩).world 1).store.find? user.id = some user ∧
      Sample.longer.tokens.issueAt user.email Sample.longer.tokens.refreshLifetime ⟨60, 0⟩ = some Sample.refreshToken ∧
      user.refreshToken ≠ some Sample.refreshToken) ∧
    ((Sample.rotation ⟨61, 0⟩).request 1).method = .get ∧
    Session.presented? ((Sample.rotation ⟨61, 0⟩).request 1).headers = some Sample.refreshToken ∧
    (Sample.rotation ⟨61, 0⟩).Succeeded 1 := by
  obtain ⟨token, other, -, stored⟩ := Sample.replaced
  obtain ⟨answered, -⟩ := Sample.questioned (by decide) (by decide) stored
  refine ⟨by decide, ⟨Sample.renewed token, Sample.find?_renewed stored, Sample.refreshToken_issued, ?_⟩, rfl,
    Sample.question_presents, answered⟩
  exact fun same => other (Option.some.inj same)

/-- No user has the token. -/
def Unheld (r : Series) (n : Nat) (token : String) : Prop :=
  ∀ user : User, (r.world n).store.find? user.id = some user → user.refreshToken ≠ some token

/-- Whether the user of an email is given tokens at a step, by a login or a refresh, in the second of an instant. -/
def Grants (r : Series) (n : Nat) (email : String) (second : Instant) : Prop :=
  ∃ old new, r.Changes n old new ∧ old.email = email ∧
    ((r.request n).method = .put ∨ (r.request n).method = .post) ∧ (r.now n).truncated = second.truncated

/-- A token that nobody has comes back only if its user is given tokens in its second again. -/
theorem Unheld.later (working : r.backend.Working) {email : String} {issued : Instant}
    (wasIssued : r.service.tokens.issueAt email r.service.tokens.refreshLifetime issued = some token)
    (unheld : r.Unheld n token) {m : Nat} (order : n ≤ m)
    (never : ∀ k, n ≤ k → k < m → ¬ r.Grants k email issued) : r.Unheld m token := by
  induction m with
  | zero =>
    cases Nat.le_zero.mp order
    exact unheld
  | succ m ih =>
    rcases Nat.le_succ_iff.mp order with earlier | rfl
    · have still := ih earlier fun k first last => never k first (by omega)
      rcases step working m with same | ⟨old, new, changes⟩
      · intro user found
        rw [same] at found
        exact still user found
      · intro user found kept
        rcases changes.1.cases found with rfl | ⟨was, -⟩
        · rcases changes.2.2.refreshToken kept with before | ⟨grants, issuedNow⟩
          · exact still old changes.1.was before
          -- It has just been given out, so this is its second.
          · obtain ⟨isEmail, sameSecond⟩ := TokenService.issueAt_injective issuedNow wasIssued
            exact never m earlier (Nat.lt_succ_self m) ⟨old, _, changes, isEmail, grants, sameSecond⟩
        · exact still user was kept
    · exact unheld

/-- A refresh spends the token that it presents if it comes in another second than the one in which the token was given
out: the token is then refused by every later refresh, unless a login or a refresh of the user has come between, and in
that second again. -/
theorem refresh_spends (r : Series) (working : r.backend.Working)
    (start : r.start.store.Ordered r.service.tokens) (refreshes : (r.request n).Refreshes token)
    (succeeded : r.Succeeded n) :
    ∃ old new issued, r.Changes n old new ∧ old.refreshToken = some token ∧
      r.service.tokens.issueAt old.email r.service.tokens.refreshLifetime issued = some token ∧
      (new.refreshToken = some token ↔ (r.now n).truncated = issued.truncated) ∧
      ((r.now n).truncated ≠ issued.truncated → ∀ m, n < m →
        (∀ k, n < k → k < m → ¬ r.Grants k old.email issued) → (r.request m).Refreshes token → ¬ r.Succeeded m) := by
  have ordered := Series.ordered working start n
  obtain ⟨old, new, fresh, changes, belongs, isFresh, issuedNow⟩ := changes_of_refreshes working refreshes succeeded
  have kept := belongs.kept rfl
  have differs := changes.1
  obtain ⟨issued, wasIssued⟩ := ordered.issued differs.was kept
  have replaced : new.refreshToken = some token ↔ (r.now n).truncated = issued.truncated := by
    constructor
    · intro same
      cases Option.some.inj (isFresh.symm.trans same)
      exact (TokenService.issueAt_injective issuedNow wasIssued).2
    · intro same
      rw [TokenService.issueAt_congr same, wasIssued] at issuedNow
      rw [isFresh, issuedNow]
  refine ⟨old, new, issued, changes, kept, wasIssued, replaced, ?_⟩
  intro otherSecond m order never again succeededAgain
  have unheld : r.Unheld (n + 1) token := by
    intro user found isKept
    rcases differs.cases found with rfl | ⟨was, other⟩
    · exact otherSecond (replaced.mp isKept)
    -- Nobody else had it before.
    · exact other (congrArg User.id (ordered.holder was isKept differs.was kept))
  have unheldLater := unheld.later working wasIssued order fun k first last => never k first last
  obtain ⟨old', new', _, changes', belongs', -⟩ := changes_of_refreshes working again succeededAgain
  exact unheldLater old' changes'.1.was (belongs'.kept rfl)

theorem refresh_spends_rotation : ¬ (Sample.rotation ⟨61, 0⟩).Succeeded 2 := by
  obtain ⟨token, -, succeeded, -⟩ := Sample.replaced
  obtain ⟨old, new, issued, -, -, wasIssued, -, refused⟩ := refresh_spends (Sample.rotation ⟨61, 0⟩)
    Store.answer_working (Sample.rotation_ordered _) (n := 0) (Sample.refreshes _) succeeded
  have sameSecond := (TokenService.issueAt_injective wasIssued Sample.refreshToken_issued).2
  have otherSecond : Instant.truncated ⟨61, 0⟩ ≠ issued.truncated := by
    rw [sameSecond]
    decide
  refine refused otherSecond 2 (by decide) ?_ (Sample.refreshes _)
  rintro k - - ⟨-, -, -, -, -, same⟩
  exact otherSecond same

/-- A refresh in the second in which its token was given out leaves the user with the same token. -/
theorem refresh_keeps_token : ((Sample.rotation ⟨60, 0⟩).request 0).Refreshes Sample.refreshToken ∧
    (Sample.rotation ⟨60, 0⟩).Succeeded 0 ∧
    ∃ user : User, ((Sample.rotation ⟨60, 0⟩).world 1).store.find? user.id = some user ∧
      user.refreshToken = some Sample.refreshToken := by
  obtain ⟨pair, issued, succeeded, stored⟩ := Sample.rotated (s := 60) (by decide) (by decide)
  have same : pair.refreshToken = Sample.refreshToken := by
    have issuedNow := TokenService.issueAt_of_issuePair issued
    exact Option.some.inj (issuedNow.symm.trans Sample.refreshToken_issued)
  exact ⟨Sample.refreshes _, succeeded, Sample.renewed pair.refreshToken, Sample.find?_renewed stored,
    congrArg some same⟩

end Series

end Countersign
