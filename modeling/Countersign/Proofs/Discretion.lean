import Countersign.Proofs.Commitments

/-!
Reads tell no secret.

Two runs are compared, on stores whose users are equal but for their password records, refresh tokens and shared
secrets. Programs that put the same look-ups and write the same notes, however such stores answer them, come to the
same end on both (`Program.Same.run`). The endpoints that read are of that kind: a session token is not compared with
what is stored, the gate asks for a secret only where something is to be changed, and no view of a user holds one. So
a read is answered and logged alike (`Service.reads_conceal`).
-/

namespace Countersign

open Http (Request Response)
open Session (Attempt)

/-! ### Users but for their secrets -/

/-- A user without what is kept secret: the password record, the refresh token and the shared secret. -/
def User.bare (u : User) : User := { u with passwordHash := none, refreshToken := none, sharedSecret := none }

/-- What a view shows of users that are equal but for secrets is the same, if it shows no secret. -/
theorem User.eq_of_bare {α : Type} (view : User → α) (isOpen : ∀ u : User, view u.bare = view u) {u v : User}
    (same : u.bare = v.bare) : view u = view v := by
  rw [← isOpen u, same, isOpen v]

/-- Two stores that are equal but for what is kept secret of their users. -/
def Store.Alike (first second : Store) : Prop := first.entries.map User.bare = second.entries.map User.bare

/-- Two answers of a store that are equal but for secrets. -/
def StoreAnswer.Alike (a b : StoreAnswer) : Prop := a.map User.bare = b.map User.bare

/-- A backend that goes by no secret when it looks up records: stores that are alike stay so, and answer alike, if they
answer at all. -/
def Backend.Discreet (backend : Backend) : Prop :=
  ∀ (call : StoreCall) (first second : Store), call.LooksUp → first.Alike second →
    Option.Rel StoreAnswer.Alike (backend call first).1 (backend call second).1 ∧
      (backend call first).2.Alike (backend call second).2

namespace Store

variable {first second : Store}

/-- Whoever is looked for by what is no secret is found in both or in neither. -/
theorem Alike.found (alike : first.Alike second) {p : User → Bool} (isOpen : ∀ u : User, p u.bare = p u) :
    (first.entries.find? p).map User.bare = (second.entries.find? p).map User.bare := by
  have bared (store : Store) : (store.entries.find? p).map User.bare = (store.entries.map User.bare).find? p := by
    have same : p ∘ User.bare = p := funext isOpen
    rw [List.find?_map, same]
  rw [bared, bared, alike]

theorem Alike.findByEmail (alike : first.Alike second) (email : String) :
    StoreAnswer.Alike (first.findByEmail email) (second.findByEmail email) := by
  have found := alike.found (p := fun u => u.email == email) fun u => rfl
  unfold StoreAnswer.Alike Store.findByEmail
  cases isFirst : first.entries.find? fun u => u.email == email <;>
    cases isSecond : second.entries.find? fun u => u.email == email <;>
    simp_all [Except.map]

theorem Alike.findById (alike : first.Alike second) (id : Int64) :
    StoreAnswer.Alike (first.findById id) (second.findById id) := by
  have found : (first.find? id).map User.bare = (second.find? id).map User.bare := alike.found fun u => rfl
  unfold StoreAnswer.Alike Store.findById
  cases isFirst : first.find? id <;> cases isSecond : second.find? id <;> simp_all [Except.map]

theorem answer_discreet : Backend.Discreet Store.answer := by
  intro call first second looks alike
  cases call with
  | update user fields => exact looks.elim
  | findByEmail email => exact ⟨.some (alike.findByEmail email), alike⟩
  | findById id => exact ⟨.some (alike.findById id), alike⟩

end Store

/-! ### Programs that go by no secret -/

namespace Program

variable {α β : Type}

/-- Two programs that put the same look-ups and write the same notes as long as they are answered alike, and come to
ends that `ends` allows. -/
inductive Same (ends : α → α → Prop) : Program α → Program α → Prop
  | done {a b : α} (ended : ends a b) : Same ends (.done a) (.done b)
  | abort : Same ends .abort .abort
  | log {e : Event} {next next' : (Call.log e).Answer → Program α} (rest : Same ends (next ()) (next' ())) :
      Same ends (.call (.log e) next) (.call (.log e) next')
  | lookUp {call : StoreCall} {next next' : (Call.store call).Answer → Program α} (looks : call.LooksUp)
      (rest : ∀ a b : StoreAnswer, a.Alike b → Same ends (next a) (next' b)) :
      Same ends (.call (.store call) next) (.call (.store call) next')

namespace Same

theorem bind {R : α → α → Prop} {ends : β → β → Prop} {p q : Program α} {f g : α → Program β}
    (same : Same R p q) (rest : ∀ a b, R a b → Same ends (f a) (g b)) : Same ends (p >>= f) (q >>= g) := by
  induction same with
  | done ended => exact rest _ _ ended
  | abort => exact .abort
  | log _ ih => exact .log ih
  | lookUp looks _ ih => exact .lookUp looks ih

/-- Notes ask for nothing that could be a secret. -/
theorem logAll (events : List Event) : Same Eq (Program.logAll events) (Program.logAll events) := by
  unfold Program.logAll
  induction events with
  | nil => exact .done rfl
  | cons e events ih => exact .log ih

/-- On stores that are alike they come to the same end, and write the same notes. -/
theorem run {backend : Backend} (discreet : backend.Discreet) {p q : Program α} (same : Same Eq p q) {w v : World}
    (alike : w.store.Alike v.store) :
    (p.run (World.answerWith backend) w).1 = (q.run (World.answerWith backend) v).1 ∧
      ∃ events, (p.run (World.answerWith backend) w).2.log = w.log ++ events ∧
        (q.run (World.answerWith backend) v).2.log = v.log ++ events := by
  induction same generalizing w v with
  | done ended => exact ⟨congrArg some ended, [], by simp [Program.run]⟩
  | abort => exact ⟨rfl, [], by simp [Program.run]⟩
  | @log e next next' _ ih =>
    obtain ⟨sameEnd, events, left, right⟩ :=
      ih (w := { w with log := w.log ++ [e] }) (v := { v with log := v.log ++ [e] }) alike
    refine ⟨sameEnd, e :: events, ?_, ?_⟩
    · rw [List.append_cons]
      exact left
    · rw [List.append_cons]
      exact right
  | @lookUp call next next' looks _ ih =>
    obtain ⟨answered, stillAlike⟩ := discreet call w.store v.store looks alike
    generalize isLeft : backend call w.store = left at answered stillAlike
    generalize isRight : backend call v.store = right at answered stillAlike
    obtain ⟨a, store⟩ := left
    obtain ⟨b, store'⟩ := right
    rw [run_store isLeft, run_store isRight]
    cases answered with
    | none => exact ⟨rfl, [], by simp⟩
    | some alikeToo => exact ih _ _ alikeToo (w := { w with store }) (v := { v with store := store' }) stillAlike

end Same

end Program

section

variable {ε α β : Type}

/-- What `Program.Same` says of steps that may fail: their failures are the same. -/
def Mirrors (ends : α → α → Prop) (x y : ExceptT ε Program α) : Prop :=
  Program.Same (fun r r' => match r, r' with
    | .ok a, .ok b => ends a b
    | .error e, .error e' => e = e'
    | _, _ => False) x.run y.run

/-- Steps fail alike or come to ends that are alike, and programs go on from there. -/
theorem same_of_mirrors {R : α → α → Prop} {ends : β → β → Prop} {x y : ExceptT ε Program α}
    {f g : Except ε α → Program β} (mirrors : Mirrors R x y)
    (failed : ∀ e, Program.Same ends (f (.error e)) (g (.error e)))
    (rest : ∀ a b, R a b → Program.Same ends (f (.ok a)) (g (.ok b))) : Program.Same ends (x.run >>= f) (y.run >>= g) := by
  refine Program.Same.bind mirrors ?_
  rintro (e | a) (e' | b) ended
  · cases ended
    exact failed e
  · exact ended.elim
  · exact ended.elim
  · exact rest a b ended

theorem mirrors_bind {R : α → α → Prop} {ends : β → β → Prop} {x y : ExceptT ε Program α}
    {f g : α → ExceptT ε Program β} (mirrors : Mirrors R x y) (rest : ∀ a b, R a b → Mirrors ends (f a) (g b)) :
    Mirrors ends (x >>= f) (y >>= g) :=
  same_of_mirrors (f := ExceptT.bindCont f) (g := ExceptT.bindCont g) mirrors (fun _ => .done rfl) rest

theorem mirrors_pure {ends : α → α → Prop} {a b : α} (ended : ends a b) :
    Mirrors ends (pure a : ExceptT ε Program α) (pure b) :=
  .done ended

theorem mirrors_throw {ends : α → α → Prop} (e : ε) : Mirrors ends (throw e : ExceptT ε Program α) (throw e) :=
  .done rfl

theorem mirrors_lift {ends : α → α → Prop} {p q : Program α} (same : Program.Same ends p q) :
    Mirrors ends (ExceptT.lift p : ExceptT ε Program α) (ExceptT.lift q) :=
  same.bind (f := fun a => pure (Except.ok a)) (g := fun a => pure (Except.ok a)) fun _ _ ended => .done ended

end

/-! ### Steps of the endpoints that read -/

theorem Session.mirrors_failWith {α : Type} {ends : α → α → Prop} (event : Event) (e : AuthError) :
    Mirrors ends (failWith event e : Attempt α) (failWith event e) :=
  .log (.done rfl)

/-- A session token is looked up by its subject, and found good or not without a look at any secret. -/
theorem Session.mirrors_resolve (tokens : TokenService) (token : String) (now : Instant) :
    Mirrors (fun u v : User => u.bare = v.bare) (resolve tokens token .session now)
      (resolve tokens token .session now) := by
  unfold resolve
  refine mirrors_bind (R := Eq) (mirrors_lift ?_) ?_
  · cases tokens.parse token now with
    | none => exact .abort
    | some parsed => exact .done rfl
  rintro (e | claims) _ rfl
  · exact mirrors_throw _
  refine mirrors_bind (R := StoreAnswer.Alike) (mirrors_lift (.lookUp trivial fun a b alike => .done alike)) ?_
  rintro (e | u) (e' | v) alike
  · cases alike
    cases e with
    | notFound => exact mirrors_bind (R := fun _ _ => False) (mirrors_failWith _ _) fun _ _ => False.elim
    | versionConflict => exact mirrors_throw _
    | unavailable detail => exact mirrors_throw _
  · cases alike
  · cases alike
  · have same : u.bare = v.bare := Except.ok.inj alike
    have email : u.email = v.email := User.eq_of_bare User.email (fun _ => rfl) same
    have id : u.id = v.id := User.eq_of_bare User.id (fun _ => rfl) same
    have noRefresh (user : User) : ¬ (TokenKind.session = .refresh ∧ user.refreshToken ≠ some token) := by simp
    show Mirrors _ (if u.email ≠ claims.subject then _ else if TokenKind.session = .refresh ∧ _ then _ else _)
      (if v.email ≠ claims.subject then _ else if TokenKind.session = .refresh ∧ _ then _ else _)
    rw [if_neg (noRefresh u), if_neg (noRefresh v), email, id]
    by_cases other : v.email ≠ claims.subject
    · rw [if_pos other, if_pos other]
      exact mirrors_failWith _ _
    · rw [if_neg other, if_neg other]
      exact mirrors_pure same

namespace Service

variable {s : Service} {now : Instant}

theorem mirrors_masking {α : Type} {ends : α → α → Prop} (mask : AuthError → AuthError) {x y : Attempt α}
    (mirrors : Mirrors ends x y) : Mirrors ends (masking mask x) (masking mask y) :=
  same_of_mirrors (f := pure ∘ Except.mapError mask) (g := pure ∘ Except.mapError mask) mirrors
    (fun _ => .done rfl) fun _ _ ended => .done ended

theorem mirrors_readBody {α : Type} (request : SignedRequest) (read : Json.Node → Option α) :
    Mirrors Eq (readBody request read) (readBody request read) := by
  unfold readBody
  cases (Json.Node.read? request.body).bind read with
  | some a => exact mirrors_pure rfl
  | none => exact Session.mirrors_failWith _ _

theorem same_answerAttempt {x y : Attempt Response} (mirrors : Mirrors Eq x y) :
    Program.Same Eq (answerAttempt x) (answerAttempt y) :=
  same_of_mirrors mirrors (fun _ => (Program.Same.logAll _).bind fun _ _ _ => .done rfl) fun _ _ ended => .done ended

theorem same_answerTask {x y : Task Response} (mirrors : Mirrors Eq x y) :
    Program.Same Eq (answerTask x) (answerTask y) :=
  same_of_mirrors mirrors (fun _ => .done rfl) fun _ _ ended => .done ended

theorem mirrors_attempting {α : Type} {ends : α → α → Prop} {x y : Attempt α} (mirrors : Mirrors ends x y) :
    Mirrors ends (attempting x) (attempting y) := by
  unfold attempting
  refine mirrors_bind (mirrors_lift mirrors) ?_
  rintro (e | a) (e' | b) ended
  · cases ended
    exact mirrors_bind (mirrors_lift (Program.Same.logAll _)) fun _ _ _ => mirrors_throw _
  · exact ended.elim
  · exact ended.elim
  · exact mirrors_pure ended

theorem mirrors_asking {call : StoreCall} (looks : call.LooksUp) :
    Mirrors (fun u v : User => u.bare = v.bare) (asking call) (asking call) := by
  unfold asking
  refine mirrors_bind (R := StoreAnswer.Alike) (mirrors_lift (.lookUp looks fun a b alike => .done alike)) ?_
  rintro (e | u) (e' | v) alike
  · cases alike
    exact mirrors_bind (mirrors_lift (Program.Same.logAll _)) fun _ _ _ => mirrors_throw _
  · cases alike
  · cases alike
  · exact mirrors_pure (Except.ok.inj alike)

/-! ### The endpoints that read -/

/-- What users are shown as holds no secret. -/
theorem mirrors_summary {ε : Type} {u v : User} (same : u.bare = v.bare) :
    Mirrors Eq (pure (Response.json 200 u.summary.toValue) : ExceptT ε Program Response)
      (pure (Response.json 200 v.summary.toValue)) := by
  rw [User.eq_of_bare User.summary (fun _ => rfl) same]
  exact mirrors_pure rfl

theorem same_current (request : SignedRequest) :
    Program.Same Eq (answerAttempt (s.current request now)) (answerAttempt (s.current request now)) := by
  apply same_answerAttempt
  have resolved (token : String) := mirrors_masking asInvalidToken (Session.mirrors_resolve s.tokens token now)
  unfold current
  cases Session.presented? request.headers with
  | some token => exact mirrors_bind (resolved token) fun u v same => mirrors_summary same
  | none =>
    dsimp only
    by_cases empty : request.body.isEmpty
    · rw [if_pos empty]
      exact mirrors_throw _
    · rw [if_neg empty]
      refine mirrors_bind (mirrors_masking _ (mirrors_readBody request _)) ?_
      rintro body _ rfl
      refine mirrors_bind (resolved body.token) fun u v same => ?_
      have email : u.email = v.email := User.eq_of_bare User.email (fun _ => rfl) same
      have id : u.id = v.id := User.eq_of_bare User.id (fun _ => rfl) same
      rw [email, id]
      by_cases other : v.email ≠ body.email
      · rw [if_pos other, if_pos other]
        exact mirrors_bind (R := Eq) (Session.mirrors_failWith _ _) fun _ _ _ => mirrors_summary same
      · rw [if_neg other, if_neg other]
        exact mirrors_summary same

theorem same_ready : Program.Same Eq ready ready := by
  refine .lookUp trivial fun a b alike => .done ?_
  rcases a with (_ | _) <;> rcases b with (_ | _)
  · cases alike
    rfl
  · cases alike
  · cases alike
  · rfl

end Service

/-- Whoever only reads passes the gate by privilege alone, so no secret is asked for. -/
theorem Gate.same_checkMethod {p q : Principal} (same : p.user.bare = q.user.bare) {request : SignedRequest}
    (reads : request.method.isMutating = false) (resource : String) (now : Instant) :
    Program.Same Eq (checkMethod p resource request now) (checkMethod q resource request now) := by
  have id : p.id = q.id := User.eq_of_bare User.id (fun _ => rfl) same
  have privileges : p.privileges = q.privileges := User.eq_of_bare User.privileges (fun _ => rfl) same
  unfold checkMethod
  rw [id]
  cases Action.ofMethod? request.method with
  | none => exact .log (.done rfl)
  | some action =>
    dsimp only
    unfold check
    rw [id, privileges, reads]
    cases PrivilegeSet.decide q.privileges resource action with
    | noResource => exact .log (.done rfl)
    | denied => exact .log (.done rfl)
    | granted => exact .done rfl

namespace Service

variable {s : Service} {request : Request} {now : Instant}

theorem same_getUser {p q : Principal} (same : p.user.bare = q.user.bare) {signed : SignedRequest}
    (reads : signed.method.isMutating = false) (id : Int64) :
    Program.Same Eq (answerTask (getUser p id signed now)) (answerTask (getUser q id signed now)) := by
  apply same_answerTask
  have passed : Mirrors Eq (passing p signed now) (passing q signed now) := by
    refine mirrors_attempting (mirrors_bind (mirrors_lift (Gate.same_checkMethod same reads _ _)) ?_)
    rintro (denial | ⟨⟩) _ rfl
    · exact mirrors_throw _
    · exact mirrors_pure rfl
  refine mirrors_bind passed fun _ _ _ => ?_
  exact mirrors_bind (mirrors_asking trivial) fun u v alike => mirrors_summary alike

/-! ### From endpoints to requests -/

/-- What the session of a request leads to on both stores: principals that are equal but for secrets, none, or the same
refusal. -/
inductive Resolved : Except Response (Option Principal) → Except Response (Option Principal) → Prop
  | nobody : Resolved (.ok none) (.ok none)
  | known {p q : Principal} (same : p.user.bare = q.user.bare) : Resolved (.ok (some p)) (.ok (some q))
  | refused (refusal : Response) : Resolved (.error refusal) (.error refusal)

theorem same_principalOf : Program.Same Resolved (s.principalOf request now) (s.principalOf request now) := by
  unfold principalOf
  cases Session.presented? request.headers with
  | none => exact .done .nobody
  | some token =>
    refine same_of_mirrors (Session.mirrors_resolve s.tokens token now) (fun e => ?_) fun _ _ same => .done (.known same)
    cases e <;> exact .log (.done (.refused _))

theorem same_withPrincipal {use : Option Principal → Program Response} (anonymous : Program.Same Eq (use none) (use none))
    (known : ∀ p q : Principal, p.user.bare = q.user.bare → Program.Same Eq (use (some p)) (use (some q))) :
    Program.Same Eq (s.withPrincipal request now use) (s.withPrincipal request now use) := by
  refine same_principalOf.bind ?_
  rintro _ _ (_ | same | refusal)
  · exact anonymous
  · exact known _ _ same
  · exact .done rfl

theorem same_userEndpoint (reads : request.method = .get ∨ request.method = .head) (segment : String) :
    Program.Same Eq (s.withPrincipal request now (userEndpoint request.method segment request.signed now))
      (s.withPrincipal request now (userEndpoint request.method segment request.signed now)) := by
  have unchanging : request.method.isMutating = false := Http.Request.Reads.not_mutating (reads.imp_right .inl)
  unfold userEndpoint
  apply same_withPrincipal
  · rw [if_pos reads]
    exact same_answerAttempt (mirrors_throw _)
  · intro p q same
    rw [if_pos reads, if_pos reads]
    show Program.Same Eq (withUserId segment _) (withUserId segment _)
    unfold withUserId
    cases userId segment with
    | error text => exact .done rfl
    | ok id => exact same_getUser same unchanging id

theorem same_endpoint (reads : request.method = .get ∨ request.method = .head) (route : Route) :
    Program.Same Eq (s.endpoint route request now) (s.endpoint route request now) := by
  have other {m : Http.Method} (notGet : m ≠ .get) (notHead : m ≠ .head) : request.method ≠ m := by
    rintro rfl
    exact reads.elim notGet notHead
  cases route with
  | auth =>
    show Program.Same Eq (if _ then _ else if _ then _ else if _ then _ else if _ then _ else _)
      (if _ then _ else if _ then _ else if _ then _ else if _ then _ else _)
    rw [if_neg (other (by decide) (by decide)), if_neg (other (by decide) (by decide)),
      if_neg (other (by decide) (by decide)), if_pos reads]
    exact same_current _
  | ready =>
    show Program.Same Eq (if _ then _ else _) (if _ then _ else _)
    rw [if_pos reads]
    exact same_ready
  | me =>
    refine same_withPrincipal ?_ fun p q same => ?_
    · rw [if_pos reads]
      exact same_answerAttempt (mirrors_throw _)
    · rw [if_pos reads, if_pos reads]
      show Program.Same Eq (pure (currentUser p)) (pure (currentUser q))
      unfold currentUser
      rw [User.eq_of_bare User.summary (fun _ => rfl) same]
      exact .done rfl
  | user segment => exact same_userEndpoint reads segment
  | authHealth | health | description | docs | docsPage name | docsDisabled => exact .done rfl

theorem same_handle (reads : request.method = .get ∨ request.method = .head) (newId : String) :
    Program.Same Eq (s.handle request newId now) (s.handle request newId now) := by
  have logged : Program.Same Eq (s.logged request now) (s.logged request now) := by
    unfold Service.logged
    split
    · exact .log (.done rfl)
    · cases s.route? request with
      | none => exact .log (.done rfl)
      | some route =>
        refine (same_endpoint reads route).bind ?_
        rintro response _ rfl
        exact .log (.done rfl)
  unfold handle
  dsimp only
  split
  · exact .done rfl
  · refine logged.bind ?_
    rintro response _ rfl
    exact .done rfl

/-- Two stores that are equal but for secrets cannot be told apart by reading: the response is the same, and the log
is told the same. -/
theorem reads_conceal {backend : Backend} (discreet : backend.Discreet) (s : Service) {w v : World} {request : Request}
    (reads : request.method = .get ∨ request.method = .head) (alike : w.store.Alike v.store) (newId : String)
    (now : Instant) :
    let left := (s.handle request newId now).run (World.answerWith backend) w
    let right := (s.handle request newId now).run (World.answerWith backend) v
    left.1 = right.1 ∧ ∃ events, left.2.log = w.log ++ events ∧ right.2.log = v.log ++ events :=
  (same_handle reads newId).run discreet alike

end Service

/-! ### The user of the small service, with other secrets -/

namespace Sample

/-- The user asks for their own record. -/
def whoAmI : Request where
  method := .get
  target := .ofText "/api/v1/users/me"
  headers := [.ofText "authorization" ("Bearer " ++ token)]
  body := []

/-- The same user after another login. -/
def elsewhere : World where
  store := .ofList [{ user with refreshToken := some token, sharedSecret := some "AQ", passwordHash := some "" }]
  replay := .new 0

theorem world_alike : world.store.Alike elsewhere.store := rfl

end Sample

theorem Service.reads_conceal_whoAmI :
    Sample.world.store.entries ≠ Sample.elsewhere.store.entries ∧
      let left := (Sample.service.handle Sample.whoAmI "" ⟨60, 0⟩).run (World.answerWith Store.answer) Sample.world
      let right :=
        (Sample.service.handle Sample.whoAmI "" ⟨60, 0⟩).run (World.answerWith Store.answer) Sample.elsewhere
      left.1 = right.1 ∧ ∃ events, left.2.log = Sample.world.log ++ events ∧
        right.2.log = Sample.elsewhere.log ++ events :=
  ⟨by decide, Service.reads_conceal Store.answer_discreet Sample.service (.inl rfl) Sample.world_alike "" ⟨60, 0⟩⟩

end Countersign
