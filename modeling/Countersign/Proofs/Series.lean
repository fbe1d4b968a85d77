import Countersign.Proofs.Mediation
import Countersign.Proofs.Tokens

/-!
Requests one after the other, and whose refresh tokens are kept in the course of it.

A request that is handled leaves the store as it is or changes one record (`Series.step`), and one that is answered
200 for a change has changed one (`Series.succeeded_changes`). So no two users come to have one email
(`Series.apart`), and a store stays in order (`Series.ordered`): each refresh token that is kept has been given out to
the user who has it. In such a store a token is kept with one user at most (`Store.Ordered.holder`).
-/

namespace Countersign

open Http (Method Request Response)

/-- Requests that are handled one after the other, each when it arrives. -/
structure Series where
  service : Service
  backend : Backend
  start : World
  request : Nat → Request
  newId : Nat → String
  now : Nat → Instant

namespace Series

/-- What a request of the series is answered in a world, and the world afterwards. -/
def handled (r : Series) (n : Nat) (w : World) : Option Response × World :=
  (r.service.handle (r.request n) (r.newId n) (r.now n)).run (World.answerWith r.backend) w

/-- The world after so many requests. -/
def world (r : Series) : Nat → World
  | 0 => r.start
  | n + 1 => (r.handled n (r.world n)).2

def Succeeded (r : Series) (n : Nat) : Prop :=
  ∃ response, (r.handled n (r.world n)).1 = some response ∧ response.status = 200

/-- How a request of the series may turn a record into another. -/
def Mediates (r : Series) (n : Nat) (old new : User) : Prop :=
  Countersign.Mediates r.service (r.world n) (r.request n) (r.now n) old new

def Changes (r : Series) (n : Nat) (old new : User) : Prop :=
  (r.world n).store.Differs (r.world (n + 1)).store old new ∧ new.Follows old ∧ r.Mediates n old new

variable {r : Series}

theorem step (working : r.backend.Working) (n : Nat) :
    (r.world (n + 1)).store = (r.world n).store ∨ ∃ old new, r.Changes n old new := by
  rcases r.service.writes_once working (r.world n) (r.request n) (r.newId n) (r.now n) rfl with same | wrote
  · exact .inl same
  · obtain ⟨before, handler, after, old, fields, new, saved, reached, writes, hears, grants, written⟩ := wrote
    exact .inr ⟨old, reached.changes working writes hears grants written⟩

theorem succeeded_changes (working : r.backend.Working) {n : Nat} (succeeded : r.Succeeded n) {m : Method}
    (isMethod : (r.request n).method = m) (changing : m ∈ [.post, .delete, .patch]) :
    ∃ old new, r.Changes n old new := by
  obtain ⟨response, answered, ok⟩ := succeeded
  have ran : r.handled n (r.world n) = (some response, r.world (n + 1)) := Prod.ext answered rfl
  subst isMethod
  rcases Service.answered_changes working ran ok with (get | head | options) | ⟨put, -⟩ | changed
  · rw [get] at changing
    exact absurd changing (by decide)
  · rw [head] at changing
    exact absurd changing (by decide)
  · rw [options] at changing
    exact absurd changing (by decide)
  · rw [put] at changing
    exact absurd changing (by decide)
  · exact changed

end Series

/-! ### Stores in order -/

theorem Store.Differs.cases {before after : Store} {old new : User} (differs : before.Differs after old new)
    {user : User} (found : after.find? user.id = some user) :
    user = new ∨ (before.find? user.id = some user ∧ user.id ≠ old.id) := by
  by_cases same : user.id = old.id
  · left
    rw [same, differs.is] at found
    exact (Option.some.inj found).symm
  · right
    rw [differs.others user.id same] at found
    exact ⟨found, same⟩

/-- The refresh token that a request leaves with a user: the one there was, or one that has just been given out. -/
theorem Mediates.refreshToken {s : Service} {w : World} {request : Request} {now : Instant} {old new : User}
    (mediates : Mediates s w request now old new) {token : String} (kept : new.refreshToken = some token) :
    old.refreshToken = some token ∨
    ((request.method = .put ∨ request.method = .post) ∧
      s.tokens.issueAt old.email s.tokens.refreshLifetime now = some token) := by
  cases mediates with
  | login put place signed isBody named verified agreed accepted issued =>
    cases Option.some.inj kept
    exact .inr ⟨.inl put, TokenService.issueAt_of_issuePair issued⟩
  | refresh post place isBody belongs named held accepted issued =>
    cases Option.some.inj kept
    exact .inr ⟨.inr post, TokenService.issueAt_of_issuePair issued⟩
  | logout delete place isBody presented belongs named => cases kept
  | rename patch place isId presented known belongs granted held accepted isBody named => exact .inl kept

/-- No two users have one email. -/
def Store.Apart (store : Store) : Prop :=
  ∀ {u v : User}, store.find? u.id = some u → store.find? v.id = some v → u.email = v.email → u = v

theorem Series.apart {r : Series} (working : r.backend.Working) (start : r.start.store.Apart) (n : Nat) :
    (r.world n).store.Apart := by
  induction n with
  | zero => exact start
  | succ n ih =>
    rcases step working n with same | ⟨old, new, differs, follows, -⟩
    · rw [same]
      exact ih
    -- A changed record has the email of the one that was there, and its id, which no other record has.
    · intro u v foundU foundV emails
      rcases differs.cases foundU with rfl | ⟨wasU, otherU⟩ <;> rcases differs.cases foundV with rfl | ⟨wasV, otherV⟩
      · rfl
      · have isOld : old = v := ih differs.was wasV (follows.email.symm.trans emails)
        exact absurd (congrArg User.id isOld.symm) otherV
      · have isOld : u = old := ih wasU differs.was (emails.trans follows.email)
        exact absurd (congrArg User.id isOld) otherU
      · exact ih wasU wasV emails

/-- No two users have one email, and each refresh token has been given out to the user with whom it is kept. -/
structure Store.Ordered (tokens : TokenService) (store : Store) : Prop where
  apart : store.Apart
  issued : ∀ {u : User} {token : String}, store.find? u.id = some u → u.refreshToken = some token →
    ∃ t, tokens.issueAt u.email tokens.refreshLifetime t = some token

namespace Store.Ordered

variable {tokens : TokenService} {store : Store} {u v : User} {token : String}

theorem holder (ordered : store.Ordered tokens) (found : store.find? u.id = some u)
    (kept : u.refreshToken = some token) (foundToo : store.find? v.id = some v)
    (keptToo : v.refreshToken = some token) : u = v := by
  obtain ⟨_, issued⟩ := ordered.issued found kept
  obtain ⟨_, issuedToo⟩ := ordered.issued foundToo keptToo
  exact ordered.apart found foundToo (TokenService.issueAt_injective issued issuedToo).1

end Store.Ordered

theorem Series.ordered {r : Series} (working : r.backend.Working) (start : r.start.store.Ordered r.service.tokens)
    (n : Nat) : (r.world n).store.Ordered r.service.tokens := by
  refine ⟨apart working start.apart n, ?_⟩
  induction n with
  | zero => exact start.issued
  | succ n ih =>
    rcases step working n with same | ⟨old, new, differs, follows, mediates⟩
    · rw [same]
      exact ih
    · intro u token found kept
      rcases differs.cases found with rfl | ⟨was, -⟩
      · rw [follows.email]
        rcases mediates.refreshToken kept with still | ⟨-, issued⟩
        · exact ih differs.was still
        · exact ⟨_, issued⟩
      · exact ih was kept

end Countersign
