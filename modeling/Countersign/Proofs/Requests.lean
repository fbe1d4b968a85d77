import Countersign.Proofs.Handlers
import Countersign.Router

/-!
Which handlers requests get to, and what has been heard on the way.

Only `Service.Reaches` leads to a handler that writes. `Service.handle_keeps` gives the conduct of a request
as a whole: updates are asked for by the handler that it reaches and by nobody else, and a request that
does not only read is answered 200 only if that handler succeeds.
-/

namespace Countersign

open Http (Method Request Response)

/-- A request as its signature covers it. -/
def Http.Request.signed (r : Request) : SignedRequest :=
  ⟨r.method, r.target.signedText, r.headers, r.body⟩

/-- Requests that ask for something to be read, or what may be asked. -/
def Http.Request.Reads (r : Request) : Prop := r.method = .get ∨ r.method = .head ∨ r.method = .options

theorem Http.Request.Reads.not_mutating {r : Request} (reads : r.Reads) : r.method.isMutating = false := by
  rcases reads with isGet | isHead | isOptions
  · rw [isGet]
    decide
  · rw [isHead]
    decide
  · rw [isOptions]
    decide

/-- The handler that a request gets to, and what has been heard by then: for user records, whose session it
presents. -/
inductive Service.Reaches (s : Service) (request : Request) (now : Instant) :
    List Exchange → Handler → Prop
  | login (put : request.method = .put) (place : s.route? request = some .auth) :
      Reaches s request now [] (.login request.signed)
  | refresh (post : request.method = .post) (place : s.route? request = some .auth) :
      Reaches s request now [] (.refresh request.signed)
  | logout (delete : request.method = .delete) (place : s.route? request = some .auth) :
      Reaches s request now [] (.logout request.signed)
  | rename {segment token : String} {id : Int64} {caller : User} (patch : request.method = .patch)
      (place : s.route? request = some (.user segment)) (named : Service.userId segment = .ok id)
      (presented : Session.presented? request.headers = some token)
      (belongs : Session.Belongs s.tokens token .session now caller) :
      Reaches s request now [.store (.findByEmail caller.email) (.ok caller)]
        (.rename (Principal.ofUser caller) id request.signed)

/-- What a request may ask of the store: updates only through the handler that it reaches. -/
def Service.asks (s : Service) (request : Request) (now : Instant) : Questions := fun h call =>
  ∀ new fields, call = .update new fields → ∃ before handler after old,
    s.Reaches request now before handler ∧ h = before ++ after ∧ handler.Writes s now after old fields new

/-- What has been heard when a request is answered 200: it only reads, or the handler that it reaches has
succeeded. -/
def Service.Succeeds (s : Service) (request : Request) (now : Instant) (h : List Exchange) : Prop :=
  request.Reads ∨ ∃ before handler after,
    s.Reaches request now before handler ∧ h = before ++ after ∧ handler.Succeeds s now after

namespace Service

variable {s : Service} {request : Request} {now : Instant}

theorem asks_of_looksUp (h : List Exchange) (call : StoreCall) (looks : call.LooksUp) :
    s.asks request now h call := by
  rintro new fields rfl
  exact looks.elim

/-! ### Endpoints that only read -/

section

variable {asks : Questions} (looksUp : ∀ h (call : StoreCall), call.LooksUp → asks h call)
include looksUp

section

variable {ends : List Exchange → Response → Prop} {h : List Exchange}

theorem keeps_ready (answered : ∀ h r, ends h r) : ready.Keeps asks ends h := by
  unfold ready
  rw [Program.keeps_bind, Program.keeps_store]
  exact ⟨looksUp _ _ trivial, fun _ => answered _ _⟩

theorem keeps_current (signed : SignedRequest) (answered : ∀ h r, ends h r) :
    (answerAttempt (s.current signed now)).Keeps asks ends h := by
  rw [keeps_answerAttempt]
  unfold current
  split
  next token presented =>
    rw [meets_bind, meets_masking]
    exact meets_resolve (fun _ => looksUp _ _ trivial) (fun _ _ => answered _ _)
      fun _ _ => answered _ _
  next unpresented =>
    dsimp only
    rw [meets_ite, meets_bind, meets_throw]
    refine ⟨fun _ => answered _ _, fun _ => ?_⟩
    rw [meets_bind, meets_masking, meets_readBody]
    refine ⟨fun body _ => ?_, fun _ => answered _ _⟩
    rw [meets_bind, meets_masking]
    refine meets_resolve (fun _ => looksUp _ _ trivial) (fun _ _ => answered _ _) fun user _ => ?_
    rw [meets_ite, meets_bind, meets_failWith]
    exact ⟨fun _ => answered _ _, fun _ => answered _ _⟩

theorem keeps_getUser (p : Principal) (id : Int64) (signed : SignedRequest)
    (answered : ∀ h r, ends h r) :
    (answerTask (getUser p id signed now)).Keeps asks ends h := by
  rw [keeps_answerTask]
  unfold getUser
  rw [meets_bind]
  refine meets_passing (fun _ _ => answered _ _) fun noted _ => ?_
  rw [meets_bind, meets_asking]
  exact ⟨looksUp _ _ trivial, fun _ => answered _ _, fun _ => answered _ _⟩

end

/-! ### The session of a request -/

theorem keeps_withPrincipal {use : Option Principal → Program Response}
    {ends : List Exchange → Response → Prop}
    (refused : ∀ h e, ends h (AuthError.response e))
    (anonymous : Session.presented? request.headers = none → (use none).Keeps asks ends [])
    (known : ∀ token caller, Session.presented? request.headers = some token →
      Session.Belongs s.tokens token .session now caller →
      (use (some (Principal.ofUser caller))).Keeps asks ends
        [.store (.findByEmail caller.email) (.ok caller)]) :
    (s.withPrincipal request now use).Keeps asks ends [] := by
  unfold withPrincipal
  rw [Program.keeps_bind]
  unfold principalOf
  split
  next unpresented => exact anonymous unpresented
  next token presented =>
    rw [Program.keeps_bind]
    have resolved : Meets asks
        (fun h caller => h = [.store (.findByEmail caller.email) (.ok caller)] ∧
          Session.Belongs s.tokens token .session now caller) (fun _ _ => True)
        (Session.resolve s.tokens token .session now) [] :=
      meets_resolve (fun _ => looksUp _ _ trivial) (fun _ _ => trivial)
        fun caller belongs => ⟨rfl, belongs⟩
    refine Program.keeps_mono ?_ resolved
    rintro h (e | caller) found
    · split
      next same => cases same
      next detail same =>
        rw [Program.keeps_bind, Program.keeps_logAll]
        exact refused _ _
      next e' same =>
        rw [Program.keeps_bind, Program.keeps_log]
        exact refused _ _
    · obtain ⟨rfl, belongs⟩ := found
      exact known token caller presented belongs

end

/-! ### From endpoints to requests -/

theorem keeps_handler {before : List Exchange} {handler : Handler}
    (reached : s.Reaches request now before handler) :
    (handler.program s now).Keeps (s.asks request now)
      (fun h r => r.status = 200 → s.Succeeds request now h) before := by
  rw [← List.append_nil before]
  refine Program.keeps_after ?_ ?_ (handler.kept s now)
  · intro h call asked new fields isUpdate
    obtain ⟨old, writes⟩ := asked new fields isUpdate
    exact ⟨before, handler, h, old, reached, rfl, writes⟩
  · intro h r succeeds ok
    exact .inr ⟨before, handler, h, reached, rfl, succeeds ok⟩

theorem keeps_required {asks : Questions} {ends : List Exchange → Response → Prop} {h : List Exchange}
    {p : Option Principal} {use : Principal → Program Response}
    (refused : ∀ h e, ends h (AuthError.response e))
    (known : ∀ q, p = some q → (use q).Keeps asks ends h) :
    (required p use).Keeps asks ends h := by
  cases p with
  | none =>
    show (answerAttempt (throw .missingSession)).Keeps asks ends h
    rw [keeps_answerAttempt, meets_throw]
    exact refused _ _
  | some q => exact known q rfl

theorem keeps_withUserId {asks : Questions} {ends : List Exchange → Response → Prop} {h : List Exchange}
    {segment : String} {use : Int64 → Program Response}
    (refused : ∀ h text, ends h (.plain 400 text))
    (read : ∀ id, userId segment = .ok id → (use id).Keeps asks ends h) :
    (withUserId segment use).Keeps asks ends h := by
  unfold withUserId
  split
  next id isId => exact read id isId
  next text _ => exact refused _ _

theorem answered {r : Response} (refused : r.status ≠ 200) (h : List Exchange) :
    r.status = 200 → s.Succeeds request now h :=
  fun ok => absurd ok refused

theorem keeps_userEndpoint {segment : String} (place : s.route? request = some (.user segment)) :
    (s.withPrincipal request now (userEndpoint request.method segment request.signed now)).Keeps
      (s.asks request now) (fun h r => r.status = 200 → s.Succeeds request now h) [] := by
  have refused : ∀ (h : List Exchange) (e : AuthError),
      e.response.status = 200 → s.Succeeds request now h := fun h e => answered e.response_ne_ok h
  refine keeps_withPrincipal asks_of_looksUp refused ?_ ?_
  · intro _
    unfold userEndpoint
    split
    · exact keeps_required refused fun q isNone => by cases isNone
    · split
      · exact keeps_required refused fun q isNone => by cases isNone
      · exact answered (by decide) _
  · intro token caller presented belongs
    unfold userEndpoint
    split
    next reading =>
      refine keeps_required refused fun q isCaller => ?_
      refine keeps_withUserId (fun h text => answered (by simp [Response.plain]) h) fun id _ => ?_
      exact keeps_getUser asks_of_looksUp q id _ fun h r _ => .inl (reading.imp_right .inl)
    · split
      next patch =>
        refine keeps_required refused fun q isCaller => ?_
        cases isCaller
        refine keeps_withUserId (fun h text => answered (by simp [Response.plain]) h) fun id named => ?_
        exact keeps_handler (.rename patch place named presented belongs)
      · exact answered (by decide) _

theorem keeps_endpoint {route : Route} (place : s.route? request = some route) :
    (s.endpoint route request now).Keeps (s.asks request now)
      (fun h r => r.status = 200 → s.Succeeds request now h) [] := by
  have refused : ∀ (h : List Exchange) (e : AuthError),
      e.response.status = 200 → s.Succeeds request now h := fun h e => answered e.response_ne_ok h
  -- Places that only read answer other methods with 405.
  have reads : ∀ (r : Response) (h : List Exchange),
      (if request.method = .get ∨ request.method = .head then r else wrongMethod).status = 200 →
        s.Succeeds request now h := by
    intro r h
    split
    next reading => exact fun _ => .inl (reading.imp_right .inl)
    · exact answered (by decide) h
  unfold endpoint
  rw [Program.keeps_bind]
  show Program.Keeps _ _ _ _
  cases route with
  | auth =>
    show (if _ then _ else if _ then _ else if _ then _ else if _ then _ else _ : Program Response).Keeps _ _ _
    split
    next put => exact keeps_handler (.login put place)
    · split
      next post => exact keeps_handler (.refresh post place)
      · split
        next delete => exact keeps_handler (.logout delete place)
        · split
          next reading => exact keeps_current asks_of_looksUp _ fun h r _ => .inl (reading.imp_right .inl)
          · exact answered (by decide) _
  | authHealth => exact reads alive []
  | health => exact reads alive []
  | ready =>
    show (if _ then _ else _ : Program Response).Keeps _ _ _
    split
    next reading => exact keeps_ready asks_of_looksUp fun h r _ => .inl (reading.imp_right .inl)
    · exact answered (by decide) _
  | me =>
    refine keeps_withPrincipal asks_of_looksUp refused (fun _ => ?_) fun token caller _ _ => ?_
    · split
      · exact keeps_required refused fun q isNone => by cases isNone
      · exact answered (by decide) _
    · split
      next reading => exact fun _ => .inl (reading.imp_right .inl)
      · exact answered (by decide) _
  | user segment => exact keeps_userEndpoint place
  | description => exact reads interfaceDocument []
  | docs => exact reads docsEntry []
  | docsPage name => exact reads (docsPage name) []
  | docsDisabled => exact answered (by simp [docsDisabled, ApiError.response, Response.json]) _

/-- The conduct of a request, from its arrival to its answer. -/
theorem handle_keeps (s : Service) (request : Request) (newId : String) (now : Instant) :
    (s.handle request newId now).Keeps (s.asks request now)
      (fun h r => r.status = 200 → s.Succeeds request now h) [] := by
  have logged : (s.logged request now).Keeps (s.asks request now)
      (fun h r => r.status = 200 → s.Succeeds request now h) [] := by
    unfold Service.logged
    split
    · rw [Program.keeps_bind, Program.keeps_log]
      exact answered (by simp [ApiError.response, Response.json, ApiError.bodyTooLarge]) _
    · split
      next route place =>
        rw [Program.keeps_bind]
        refine Program.keeps_mono (fun h r succeeds => ?_) (keeps_endpoint place)
        rw [Program.keeps_bind, Program.keeps_log]
        exact succeeds
      next nowhere =>
        show ((Program.log _ >>= fun _ => pure (Response.empty 404)).Keeps _ _ _)
        rw [Program.keeps_bind, Program.keeps_log]
        exact answered (by decide) _
  unfold handle
  dsimp only
  by_cases options : request.method = .options
  · rw [if_pos options]
    exact fun _ => .inl (.inr (.inr options))
  · rw [if_neg options, Program.keeps_bind]
    refine Program.keeps_mono (fun h r succeeds => ?_) logged
    show Response.status (if _ then _ else _) = 200 → _
    split <;> exact succeeds

end Service

end Countersign
