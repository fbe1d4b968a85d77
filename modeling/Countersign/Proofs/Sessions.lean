import Countersign.Proofs.Base64
import Countersign.Proofs.Updates

/-!
Sessions stay whole.

A user has a refresh token and a shared secret, or neither (`User.Whole`). A refresh writes the token alone, on
the strength of a secret that it has read before; since updates are granted only on what has been read, no
logout can come between (`Handling.whole`).
-/

namespace Countersign

/-- A user without a session, or with both parts of one, the secret being some octets. -/
inductive User.Whole (user : User) : Prop
  | closed (noToken : user.refreshToken = none) (noSecret : user.sharedSecret = none)
  | opened {token text : String} {secret : SharedSecret} (isToken : user.refreshToken = some token)
      (isText : user.sharedSecret = some text) (isSecret : SharedSecret.ofText? text = some secret)
      (secret_ne : secret.bytes ≠ [])

def Store.Whole (store : Store) : Prop := ∀ id user, store.find? id = some user → user.Whole

theorem SharedSecret.ofText?_toText {secret : SharedSecret} (secret_ne : secret.bytes ≠ []) :
    ofText? secret.toText = some secret := by
  have read : Base64.decode? .standard secret.toText = some secret.bytes :=
    Base64.decode?_encode .standard secret.bytes
  have text_ne : ¬ secret.toText.isEmpty = true := by
    intro empty
    rw [String.isEmpty_iff.mp empty] at read
    exact secret_ne (Option.some.inj read).symm
  rw [ofText?, if_neg text_ne, read]
  rfl

theorem SharedSecret.ofText?_eq_some_iff {text : String} {secret : SharedSecret} :
    ofText? text = some secret ↔ secret.bytes ≠ [] ∧ secret.toText = text := by
  constructor
  · intro read
    by_cases empty : text.isEmpty = true
    · simp [ofText?, empty] at read
    · obtain ⟨b, isBytes, rfl⟩ : ∃ b, Base64.decode? .standard text = some b ∧ ⟨b⟩ = secret := by
        simpa [ofText?, empty] using read
      have written : Base64.encode .standard b = text := Base64.encode_of_decode? isBytes
      refine ⟨?_, written⟩
      rintro rfl
      exact empty (by rw [← written]; rfl)
  · rintro ⟨some_octet, rfl⟩
    exact ofText?_toText some_octet

/-- The secret of a principal's session has octets, whatever text is kept. -/
theorem Principal.secret_ne {p : Principal} {secret : SharedSecret} (held : p.sharedSecret = some secret) :
    secret.bytes ≠ [] := by
  obtain ⟨text, -, read⟩ := Option.bind_eq_some_iff.mp held
  exact (SharedSecret.ofText?_eq_some_iff.mp read).1

namespace Handler.Writes

variable {s : Service} {now : Instant} {handler : Handler} {h : List Exchange} {old new : User}
  {fields : List UserField}

theorem whole (writes : handler.Writes s now h old fields new) (oldWhole : old.Whole) : new.Whole := by
  cases writes with
  | login signed isBody agreed valid verified issued =>
    exact .opened rfl rfl (SharedSecret.ofText?_toText valid.secret_ne) valid.secret_ne
  | refresh isBody belongs named held valid issued =>
    -- A refresh goes by the secret, so there is a session to be refreshed.
    cases oldWhole with
    | closed noToken noSecret =>
      rw [noSecret] at held
      cases held
    | opened isToken isText isSecret secret_ne => exact .opened rfl isText isSecret secret_ne
  | logout isBody presented belongs named => exact .closed rfl rfl
  | rename passed isBody named =>
    cases oldWhole with
    | closed noToken noSecret => exact .closed noToken noSecret
    | opened isToken isText isSecret secret_ne => exact .opened isToken isText isSecret secret_ne

/-- A refresh token that a handler writes has been issued to the user. -/
theorem issued (writes : handler.Writes s now h old fields new) (written : .refreshToken ∈ fields)
    {token : String} (isToken : new.refreshToken = some token) :
    ∃ pair, s.tokens.issuePair old.email now = some pair ∧ pair.refreshToken = token := by
  cases writes with
  | login signed isBody agreed valid verified issued =>
    exact ⟨_, issued, Option.some.inj isToken⟩
  | refresh isBody belongs named held valid issued => exact ⟨_, issued, Option.some.inj isToken⟩
  | logout isBody presented belongs named => cases isToken
  | rename passed isBody named => simp at written

theorem sameEmail (writes : handler.Writes s now h old fields new) : new.email = old.email := by
  cases writes <;> rfl

end Handler.Writes

theorem User.Whole.inVersion {user : User} (whole : user.Whole) (version : Int64) :
    User.Whole { user with version } := by
  cases whole with
  | closed noToken noSecret => exact .closed noToken noSecret
  | opened isToken isText isSecret secret_ne => exact .opened isToken isText isSecret secret_ne

theorem Store.Whole.insert {store : Store} (whole : store.Whole) {user : User} (userWhole : user.Whole) :
    Store.Whole (store.insert user) := by
  intro id other found
  by_cases same : user.id = id
  · rw [← same, Catalog.find?_insert_self] at found
    exact Option.some.inj found ▸ userWhole
  · rw [Catalog.find?_insert_of_ne _ _ same] at found
    exact whole id other found

namespace Handling

variable {ι : Type} [DecidableEq ι] {c : Handling ι}

/-- Whole users stay whole at every turn. -/
theorem whole (working : c.backend.Working) (start : c.start.store.Whole) (n : Nat) : (c.store n).Whole := by
  induction n with
  | zero => exact start
  | succ n ih =>
    rcases Interleaving.store_succ (r := c.run) working n with ⟨new, fields, saved, single⟩ | ⟨same, -⟩
    · obtain ⟨_, _, _, old, _, grants, _⟩ := granted working ⟨rfl, single⟩
      rw [grants.leaves]
      refine ih.insert ?_
      rw [grants.saves]
      exact (grants.writes.whole (ih old.id old grants.found)).inVersion _
    · rw [show c.store (n + 1) = c.store n from same]
      exact ih

/-- However handlers take turns, sessions stay whole, and every refresh token that is written has been issued
to its user. -/
theorem sessions_whole (c : Handling ι) (working : c.backend.Working) (start : c.start.store.Whole) :
    (∀ n, (c.store n).Whole) ∧
      ∀ n i new fields saved token, c.run.Hears n i (.store (.update new fields) (.ok saved)) →
        .refreshToken ∈ fields → saved.refreshToken = some token →
          ∃ pair, c.service.tokens.issuePair saved.email (c.now i) = some pair ∧
            pair.refreshToken = token := by
  refine ⟨whole working start, ?_⟩
  intro n i new fields saved token hears written isToken
  obtain ⟨_, _, _, old, _, grants, _⟩ := granted working hears
  have email : saved.email = old.email := by
    rw [grants.saves]
    exact grants.writes.sameEmail
  rw [email]
  rw [grants.saves] at isToken
  exact grants.writes.issued written isToken

end Handling

theorem Sample.world_whole : world.store.Whole := by
  intro id other found
  have member : other ∈ [user] := (Catalog.mem_of_find? found).1
  rw [List.mem_singleton.mp member]
  exact .opened rfl rfl (show SharedSecret.ofText? "AA" = some ⟨[0]⟩ by decide +kernel) (by decide)

theorem Handling.sessions_whole_logouts : (∀ n, (Sample.logouts.store n).Whole) ∧
    ∀ n i new fields saved token, Sample.logouts.run.Hears n i (.store (.update new fields) (.ok saved)) →
      .refreshToken ∈ fields → saved.refreshToken = some token →
        ∃ pair, Sample.service.tokens.issuePair saved.email ⟨60, 0⟩ = some pair ∧ pair.refreshToken = token :=
  Handling.sessions_whole Sample.logouts Store.answer_working Sample.world_whole

end Countersign
