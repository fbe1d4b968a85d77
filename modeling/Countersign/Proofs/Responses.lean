import Countersign.Proofs.Endpoints

/-!
Requests are in order, and so are handlers (`Service.handle_orderly`, `Handler.orderly`).

Failures become responses on the way from endpoints to requests, and no response tells the detail of a failure of the
system. What a place answers while the store is out is therefore one response, of status 503 where the service is asked
whether its store answers, and else of status 500.
-/

namespace Countersign

open Http (Request Response)
open Session (Attempt)

namespace Service

/-- An end with a given response of a given status. -/
def Answers (status : Nat) (response r : Response) : Prop := r = response ∧ r.status = status

/-- How a request may be answered: 200 once an update has been granted, and once the store is out, by one response of a
given status. -/
abbrev Responds (status : Nat) : Ends Response Response := ⟨fun _ => True, (·.status = 200), Answers status⟩

/-- No response tells the detail of a failure of the system. -/
theorem response_isSystem {e : AuthError} (failed : e.IsSystem) :
    Answers 500 (AuthError.systemError "").response e.response := by
  obtain ⟨detail, rfl⟩ := failed
  exact ⟨rfl, rfl⟩

variable {may : String → String → Prop} {s : Service} {now : Instant}

/-- A program may end after it has told the log of a failure. -/
theorem orderly_told {ι α : Type} (e : AuthError) {a : α} {ends : Ends ι α} (ended : ends.ever a) :
    (do
      Program.logAll (Event.ofAuthError e)
      return a).Orderly ends may :=
  (Program.orderly_logAll fun _ => Event.refusal?_ofAuthError).bind_silent (.of_only fun _ _ => .done ended)

theorem orderly_answerAttempt {x : Attempt Response} (orderly : x.run.Orderly (Answered AuthError.IsSystem) may) :
    (answerAttempt x).Orderly (Responds 500) may := by
  unfold answerAttempt
  refine orderly.bind_silent ⟨?_, ?_, fun _ => ⟨(AuthError.systemError "").response, ?_⟩⟩
  · rintro (e | response) -
    · exact orderly_told e trivial
    · exact .done trivial
  · rintro _ ⟨response, rfl, ok⟩
    exact ok
  · rintro _ ⟨e, rfl, failed⟩
    exact Program.settled_bind (Program.settled_logAll _ (response_isSystem failed))

theorem orderly_answerTask {x : Task Response} (orderly : x.run.Orderly (Answered ApiError.IsInternal) may) :
    (answerTask x).Orderly (Responds 500) may := by
  unfold answerTask
  refine orderly.bind_silent ⟨?_, ?_, fun _ => ⟨(ApiError.internal "Internal server error").response, ?_⟩⟩
  · rintro (e | response) - <;> exact .done trivial
  · rintro _ ⟨response, rfl, ok⟩
    exact ok
  · rintro _ ⟨e, rfl, rfl⟩
    exact ⟨rfl, rfl⟩

/-- What a service says of itself whose store is out. -/
def degraded : Response :=
  .json 503 (.object [("status", .string "degraded"),
    ("checks", .object [("service", .string "ok"), ("store", .string "unavailable")])])

theorem orderly_ready : ready.Orderly (Responds 503) may :=
  .lookUp trivial degraded (fun _ => ⟨rfl, rfl⟩) fun _ => .done trivial

theorem orderly_principalOf {request : Request} : (s.principalOf request now).Orderly
    ⟨fun _ => True, fun _ => False, fun (_ : Unit) r => r = .error (AuthError.systemError "").response⟩ may := by
  unfold principalOf
  split
  · exact .done trivial
  next token presented =>
    refine (Session.orderly_resolve s.tokens token .session now).bind_silent ⟨?_, ?_, fun _ => ⟨(), ?_⟩⟩
    · rintro (e | user) -
      · split
        next same => cases same
        · exact orderly_told _ trivial
        · exact .log (by simp) (.done trivial)
      · exact .done trivial
    · rintro _ ⟨_, _, impossible⟩
      exact impossible.elim
    · rintro _ ⟨e, rfl, detail, rfl⟩
      exact Program.settled_bind (Program.settled_logAll _ rfl)

theorem orderly_withPrincipal {request : Request} {use : Option Principal → Program Response}
    (used : ∀ p, (use p).Orderly (Responds 500) may) : (s.withPrincipal request now use).Orderly (Responds 500) may := by
  unfold withPrincipal
  refine orderly_principalOf.bind ⟨?_, fun _ => False.elim, fun _ => ⟨(AuthError.systemError "").response, ?_⟩⟩
  · rintro (refusal | p) -
    · exact .done trivial
    · exact used p
  · rintro _ rfl
    exact ⟨rfl, rfl⟩

theorem orderly_required {p : Option Principal} {use : Principal → Program Response}
    (used : ∀ p, (use p).Orderly (Responds 500) may) : (required p use).Orderly (Responds 500) may := by
  cases p with
  | none => exact orderly_answerAttempt (orderly_throw _)
  | some p => exact used p

theorem orderly_withUserId {segment : String} {use : Int64 → Program Response}
    (used : ∀ id, (use id).Orderly (Responds 500) may) : (withUserId segment use).Orderly (Responds 500) may := by
  unfold withUserId
  split
  · exact used _
  · exact .done trivial

theorem orderly_endpoint (route : Route) (request : Request) : (s.endpoint route request now).Orderly
    (Responds (if route = .ready then 503 else 500)) (Changes request.signed) := by
  have changing {m : Http.Method} (isMethod : request.method = m) (mutating : m.isMutating = true) (timestamp nonce)
      (bears : request.signed.Bears timestamp nonce) : Changes request.signed timestamp nonce :=
    ⟨show request.method.isMutating = true by rw [isMethod, mutating], bears⟩
  unfold endpoint
  show Program.Orderly _ _ _
  cases route with
  | auth =>
    show (if _ then _ else if _ then _ else if _ then _ else if _ then _ else _ : Program Response).Orderly
      (Responds 500) _
    split
    next put => exact orderly_answerAttempt ((orderly_login _).mono (changing put (by decide)))
    split
    next post => exact orderly_answerAttempt ((orderly_refresh _).mono (changing post (by decide)))
    split
    · exact orderly_answerAttempt (orderly_logout _)
    split
    · exact orderly_answerAttempt (orderly_current _)
    · exact .done trivial
  | ready =>
    show (if _ then _ else _ : Program Response).Orderly (Responds 503) _
    split
    · exact orderly_ready
    · exact .done trivial
  | me =>
    refine orderly_withPrincipal fun p => ?_
    split
    · exact orderly_required fun _ => .done trivial
    · exact .done trivial
  | user segment =>
    refine orderly_withPrincipal fun p => ?_
    unfold userEndpoint
    split
    · exact orderly_required fun p => orderly_withUserId fun id => orderly_answerTask (orderly_getUser ..)
    split
    · exact orderly_required fun p => orderly_withUserId fun id => orderly_answerTask (orderly_rename ..)
    · exact .done trivial
  | authHealth | health | description | docs | docsPage name | docsDisabled => exact .done trivial

/-- What is done with every response alike. -/
theorem orderly_finished {p : Program Response} {status : Nat} (orderly : p.Orderly (Responds status) may)
    (finish : Response → Response) (sameStatus : ∀ r, (finish r).status = r.status) :
    (p >>= fun r => pure (finish r)).Orderly (Responds status) may := by
  refine orderly.bind_silent ⟨fun _ _ => .done trivial, fun r ok => (sameStatus r).trans ok, fun r => ⟨finish r, ?_⟩⟩
  rintro _ ⟨rfl, isStatus⟩
  exact ⟨rfl, (sameStatus _).trans isStatus⟩

/-- A request is answered as its place answers it. -/
theorem orderly_handle {request : Request} {status : Nat} (placed : ∀ route, s.route? request = some route →
      (s.endpoint route request now).Orderly (Responds status) may) (newId : String) :
    (s.handle request newId now).Orderly (Responds status) may := by
  have logged : (s.logged request now).Orderly (Responds status) may := by
    unfold Service.logged
    split
    · exact .log (by simp) (.done trivial)
    split
    next route place =>
      refine (placed route place).bind_silent ⟨fun r _ => .log (by simp) (.done trivial), fun r ok => ok, ?_⟩
      exact fun response => ⟨response, fun r answers => answers⟩
    · exact .log (by simp) (.done trivial)
  unfold handle
  dsimp only
  split
  · exact .done trivial
  · refine orderly_finished logged _ fun r => ?_
    show Response.status (if _ then _ else _) = r.status
    split <;> rfl

/-- Whatever a request is answered, it is noted once at most, under its own pair, and only if it asks for a change; it is
answered 200 once an update has been granted, and as its place is once the store is out. -/
theorem handle_orderly (s : Service) (request : Request) (newId : String) (now : Instant) :
    (s.handle request newId now).Orderly (Responds (if s.route? request = some .ready then 503 else 500))
      (Changes request.signed) := by
  refine orderly_handle (fun route place => ?_) newId
  simpa [place] using orderly_endpoint route request

end Service

theorem Handler.orderly (handler : Handler) (s : Service) (now : Instant) :
    ∃ may, (handler.program s now).Orderly (Service.Responds 500) may := by
  cases handler with
  | login request => exact ⟨_, Service.orderly_answerAttempt (Service.orderly_login request)⟩
  | refresh request => exact ⟨_, Service.orderly_answerAttempt (Service.orderly_refresh request)⟩
  | logout request => exact ⟨fun _ _ => False, Service.orderly_answerAttempt (Service.orderly_logout request)⟩
  | rename p id request => exact ⟨_, Service.orderly_answerTask (Service.orderly_rename p id request)⟩

end Countersign
