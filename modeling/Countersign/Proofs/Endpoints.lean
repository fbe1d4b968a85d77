import Countersign.Proofs.Agreement
import Countersign.Proofs.Discipline
import Countersign.Proofs.Replays
import Countersign.Proofs.Requests
import Countersign.Proofs.Sessions

/-!
The endpoints are in order, step by step.

A request is noted under the pair that its own headers bear, at the gate only if its method asks for a change. A refresh
is checked twice, but the first check goes without a secret and ends before the guard. No secret is found empty, since
what is agreed on has octets, and so has what is read from a kept text. A store that is out makes an endpoint fail with
an error of the system, and masks let these through.
-/

namespace Countersign

open Http (Request Response)
open Session (Attempt)

/-! ### Checks -/

theorem bind_ne_error {ε α β : Type} {e : ε} {x : Except ε α} {f : α → Except ε β} (first : x ≠ .error e)
    (rest : ∀ a, f a ≠ .error e) : x >>= f ≠ .error e := by
  cases x with
  | error other => simpa [bind, Except.bind] using first
  | ok a => exact rest a

/-- No headers say anything of a secret. -/
theorem Stamp.read_ne_emptySecret (headers : Http.Headers) (now : Instant) :
    read headers now ≠ .error .emptySecret := by
  have header_ne (name : String) : header headers name ≠ .error .emptySecret := by
    unfold header
    cases headers.text? name with
    | none => simp
    | some text => by_cases empty : text.isEmpty = true <;> simp [empty]
  unfold read
  refine bind_ne_error (header_ne _) fun signature => bind_ne_error (header_ne _) fun nonce => ?_
  split
  · rintro ⟨⟩
  refine bind_ne_error (header_ne _) fun timestamp => ?_
  split
  · rintro ⟨⟩
  · split <;> rintro ⟨⟩

namespace Signature

theorem refusal?_refusal (request : SignedRequest) (e : SignatureError) : (refusal request e).refusal? = some e := by
  cases e <;> rfl

theorem orderly_refuse {may : String → String → Prop} (request : SignedRequest) {e : SignatureError}
    (other : e ≠ .emptySecret) : (refuse request e).Orderly (.only (· ≠ .error .emptySecret)) may :=
  .log (by rw [refusal?_refusal]; simpa using other) (.done (by simpa using other))

theorem orderly_checkStamp {request : SignedRequest} {stamp : Stamp}
    (bears : request.Bears stamp.timestamp stamp.nonce) {secret : Bytes} (some_octet : secret ≠ []) :
    (checkStamp request stamp secret).Orderly (.only (· ≠ .error .emptySecret)) request.Bears := by
  unfold checkStamp
  rw [if_neg (by simpa using some_octet)]
  split
  · refine .record bears fun (fresh : Bool) => ?_
    show (if fresh then (if _ then pure _ else _) else _ : Program (Except SignatureError Unit)).Orderly _ _
    split
    · split
      · exact .done (by simp)
      · exact orderly_refuse request (by simp)
    · exact orderly_refuse request (by simp)
  · exact orderly_refuse request (by simp)

/-- The check of a signature notes the pair of the request, and none if there is no secret to compare with. -/
theorem orderly_check (request : SignedRequest) {secret : Option Bytes} (some_octet : secret ≠ some [])
    (now : Instant) : (check request secret now).Orderly (.only (· ≠ .error .emptySecret)) fun timestamp nonce =>
      secret.isSome = true ∧ request.Bears timestamp nonce := by
  unfold check
  cases now.onClock? with
  | none => exact .abort
  | some now =>
    show (checkAt request secret now).Orderly _ _
    unfold checkAt
    cases read : Stamp.read request.headers now with
    | error e =>
      apply orderly_refuse
      rintro rfl
      exact Stamp.read_ne_emptySecret _ _ read
    | ok stamp =>
      cases secret with
      | none => exact .done (by simp)
      | some secret =>
        have checked := orderly_checkStamp (Stamp.texts_of_read read) (by simpa using some_octet)
        exact checked.mono fun _ _ bears => ⟨rfl, bears⟩

end Signature

/-- The pairs that the gate may note. -/
abbrev Service.Changes (request : SignedRequest) (timestamp nonce : String) : Prop :=
  request.method.isMutating = true ∧ request.Bears timestamp nonce

namespace Gate

open Service (Changes)

variable {p : Principal} {resource : String} {request : SignedRequest} {now : Instant}

theorem orderly_deny {may : String → String → Prop} {event : Event} {denial : Denial}
    (keyed : event.refusal? ≠ some .emptySecret) (other : denial ≠ .signature .emptySecret) :
    (deny event denial).Orderly (.only (· ≠ .error (.signature .emptySecret))) may :=
  .log keyed (.done (by simpa using other))

theorem orderly_check (action : Action) : (check p resource action request now).Orderly
    (.only (· ≠ .error (.signature .emptySecret))) (Changes request) := by
  unfold check
  split
  · exact orderly_deny (by simp) (by simp)
  · exact orderly_deny (by simp) (by simp)
  · split
    next changes =>
      split
      · exact orderly_deny (by simp) (by simp)
      next secret held =>
        have some_octet : some secret.bytes ≠ some [] := by simpa using Principal.secret_ne held
        have checked := Signature.orderly_check request some_octet now
        refine (checked.mono fun _ _ noted => ⟨changes, noted.2⟩).bind_silent (.of_only ?_)
        rintro (e | _) other
        · exact .done (by simpa [Except.mapError] using other)
        · exact .done (by simp [Except.mapError])
    · exact .done (by simp)

theorem orderly_checkMethod : (checkMethod p resource request now).Orderly
    (.only (· ≠ .error (.signature .emptySecret))) (Changes request) := by
  unfold checkMethod
  split
  · exact orderly_deny (by simp) (by simp)
  · exact orderly_check _

end Gate

/-! ### Failures -/

/-- The failures of authentication that an outage may be shown as. -/
def AuthError.IsSystem (e : AuthError) : Prop := ∃ detail, e = .systemError detail

/-- The failure of a request that an outage is shown as. -/
def ApiError.IsInternal (e : ApiError) : Prop := e = .internal "Internal server error"

theorem Event.refusal?_ofAuthError {error : AuthError} {e : Event} (told : e ∈ ofAuthError error) :
    e.refusal? ≠ some .emptySecret := by
  cases error with
  | systemError detail =>
    rw [List.mem_singleton.mp told]
    simp
  | _ => cases told

theorem Event.refusal?_ofStoreError {error : StoreError} {e : Event} (told : e ∈ ofStoreError error) :
    e.refusal? ≠ some .emptySecret := by
  cases error with
  | unavailable detail =>
    rw [List.mem_singleton.mp told]
    simp
  | _ => cases told

/-! ### Steps of the endpoints -/

/-- A look-up is no update that could be granted. -/
theorem Program.Orderly.lookUp {ι α : Type} {ends : Ends ι α} {may : String → String → Prop} {call : StoreCall}
    {next : (Call.store call).Answer → Program α} (looks : call.LooksUp) (i : ι)
    (out : ∀ detail, (next (.error (.unavailable detail))).Settled (ends.out i))
    (rest : ∀ answer, (next answer).Orderly ends may) : (Program.call (.store call) next).Orderly ends may := by
  refine .store i out ?_ rest
  rintro user fields rfl
  exact looks.elim

section

variable {α β : Type} {may : String → String → Prop} {yields granted : α → Prop} {fails : AuthError → Prop}

namespace Session

theorem orderly_failWith {event : Event} (keyed : event.refusal? ≠ some .emptySecret) (e : AuthError) :
    (failWith event e : Attempt α).run.Orderly (.step yields granted fails) may :=
  .log keyed (orderly_throw e)

/-- Nothing goes on after a failure. -/
theorem orderly_failWith_bind {f : β → Attempt α} {event : Event} (keyed : event.refusal? ≠ some .emptySecret)
    (e : AuthError) : (failWith event e >>= f).run.Orderly (.step yields granted fails) may :=
  .log keyed (orderly_throw e)

theorem orderly_resolve (tokens : TokenService) (token : String) (kind : TokenKind) (now : Instant) :
    (resolve tokens token kind now).run.Orderly (.lookUp (fun _ => True) AuthError.IsSystem) may := by
  unfold resolve
  cases tokens.parse token now with
  | none => exact .abort
  | some parsed =>
    cases parsed with
    | error e => exact orderly_throw _
    | ok claims =>
      refine .lookUp trivial () (fun _ => ⟨_, rfl, _, rfl⟩) ?_
      rintro (e | user)
      · cases e with
        | notFound => exact orderly_failWith (by simp) _
        | versionConflict => exact orderly_throw _
        | unavailable detail => exact orderly_throw _
      · show (ExceptT.run (if _ then _ else if _ then _ else _ : Attempt User)).Orderly _ _
        split
        · exact orderly_failWith (by simp) _
        split
        · exact orderly_failWith (by simp) _
        · exact orderly_pure trivial

end Session

namespace Service

open Session (orderly_failWith orderly_failWith_bind)

variable {s : Service} {now : Instant}

theorem orderly_masking {others : AuthError → Prop} {mask : AuthError → AuthError}
    (shown : ∀ e, fails e → others (mask e)) {x : Attempt α} (orderly : x.run.Orderly (.step yields granted fails) may) :
    (masking mask x).run.Orderly (.step yields granted others) may := by
  refine Program.Orderly.bind_silent (f := pure ∘ Except.mapError mask) orderly ⟨?_, ?_, fun _ => ⟨(), ?_⟩⟩
  · rintro (e | a) ended
    · exact orderly_throw (mask e)
    · exact orderly_pure (ended a rfl)
  · rintro _ ⟨a, rfl, isGranted⟩
    exact ⟨a, rfl, isGranted⟩
  · rintro _ ⟨e, rfl, failed⟩
    exact ⟨mask e, rfl, shown e failed⟩

/-- Credentials may be wrong, but not for a failure of the system. -/
theorem isSystem_asCredentials (e : AuthError) (failed : e.IsSystem) : e.asCredentials.IsSystem := by
  obtain ⟨detail, rfl⟩ := failed
  exact ⟨detail, rfl⟩

theorem isSystem_asInvalidToken (e : AuthError) (failed : e.IsSystem) : (asInvalidToken e).IsSystem := by
  obtain ⟨detail, rfl⟩ := failed
  exact ⟨detail, rfl⟩

theorem orderly_attempting {others : ApiError → Prop} (shown : ∀ e, fails e → others (.ofAuth e)) {x : Attempt α}
    (orderly : x.run.Orderly (.step yields granted fails) may) :
    (attempting x).run.Orderly (.step yields granted others) may := by
  unfold attempting
  refine orderly_lift orderly ⟨?_, ?_, fun _ => ⟨(), ?_⟩⟩
  · rintro (e | a) ended
    · exact orderly_refused (fun _ => Event.refusal?_ofAuthError) _
    · exact orderly_pure (ended a rfl)
  · rintro _ ⟨a, rfl, isGranted⟩
    exact ⟨a, rfl, isGranted⟩
  · rintro _ ⟨e, rfl, failed⟩
    exact settled_refused ⟨_, rfl, shown e failed⟩

theorem orderly_readBody (request : SignedRequest) (read : Json.Node → Option α) :
    (readBody request read).run.Orderly (.lookUp (fun _ => True) fails) may := by
  unfold readBody
  split
  · exact orderly_pure trivial
  · exact orderly_failWith (by simp) _

/-- What is agreed on with a peer has octets. -/
theorem orderly_agree (peer : String) :
    (s.agree peer).run.Orderly (.lookUp (fun secret => secret.bytes ≠ []) fails) may := by
  unfold agree
  split
  next secret agreed => exact orderly_pure (KeyPair.secret_ne agreed)
  · exact orderly_failWith (by simp) _

theorem orderly_checking (request : SignedRequest) {secret : Option Bytes} (some_octet : secret ≠ some []) :
    (checking request secret now).run.Orderly (.lookUp (fun _ => True) fails) fun timestamp nonce =>
      secret.isSome = true ∧ request.Bears timestamp nonce := by
  unfold checking
  refine orderly_lift (Signature.orderly_check request some_octet now) (.of_only ?_)
  rintro (e | ⟨⟩) -
  · exact orderly_throw _
  · exact orderly_pure trivial

theorem orderly_checking_none (request : SignedRequest) :
    (checking request none now).run.Orderly (.lookUp (fun _ => True) fails) may := by
  refine (orderly_checking request (by simp)).mono ?_
  rintro _ _ ⟨never, -⟩
  cases never

theorem orderly_checking_some (request : SignedRequest) {secret : Bytes} (some_octet : secret ≠ []) :
    (checking request (some secret) now).run.Orderly (.lookUp (fun _ => True) fails) request.Bears :=
  (orderly_checking request (by simpa using some_octet)).mono fun _ _ => And.right

theorem orderly_userByEmail (email : String) :
    (userByEmail email).run.Orderly (.lookUp (fun _ => True) AuthError.IsSystem) may := by
  refine .lookUp trivial () (fun _ => ⟨_, rfl, _, rfl⟩) ?_
  rintro (e | user)
  · exact orderly_throw _
  · exact orderly_pure trivial

theorem orderly_checkPassword (user : User) (candidate : String) :
    (checkPassword user candidate).run.Orderly (.lookUp (fun _ => True) fails) may := by
  unfold checkPassword
  split
  · exact orderly_pure trivial
  · exact orderly_failWith (by simp) _
  · exact orderly_failWith (by simp) _
  · exact orderly_throw _

theorem orderly_issuing (subject : String) :
    (s.issuing subject now).run.Orderly (.lookUp (fun _ => True) fails) may := by
  unfold issuing
  cases s.tokens.issuePair subject now with
  | none => exact .abort
  | some pair => exact orderly_pure trivial

theorem orderly_saving (user : User) (fields : List UserField) :
    (saving user fields).run.Orderly (.step (fun _ => True) (fun _ => True) AuthError.IsSystem) may := by
  refine .store () (fun _ => ⟨_, rfl, _, rfl⟩) (fun _ _ _ saved => ⟨saved, rfl, trivial⟩) ?_
  rintro (e | saved)
  · exact orderly_throw _
  · exact orderly_pure trivial

theorem orderly_asking {call : StoreCall} {granted : User → Prop}
    (written : ∀ user fields, call = .update user fields → ∀ saved, granted saved) :
    (asking call).run.Orderly (.step (fun _ => True) granted ApiError.IsInternal) may := by
  refine .store () (fun _ => ⟨_, rfl, rfl⟩)
    (fun user fields update saved => ⟨saved, rfl, written user fields update saved⟩) ?_
  rintro (e | user)
  · exact orderly_refused (fun _ => Event.refusal?_ofStoreError) _
  · exact orderly_pure trivial

theorem orderly_finding (id : Int64) :
    (asking (.findById id)).run.Orderly (.lookUp (fun _ => True) ApiError.IsInternal) may :=
  orderly_asking fun _ _ update => by cases update

theorem orderly_passing (p : Principal) (request : SignedRequest) {fails : ApiError → Prop} :
    (passing p request now).run.Orderly (.lookUp (fun _ => True) fails) (Changes request) := by
  unfold passing
  refine orderly_attempting (fun _ (never : False) => never.elim) ?_
  refine orderly_lift Gate.orderly_checkMethod (.of_only ?_)
  rintro (denial | ⟨⟩) -
  · exact orderly_throw _
  · exact orderly_pure trivial

/-! ### Endpoints -/

/-- How an endpoint may end: its answer is 200 once an update has been granted. -/
abbrev Answered {ε : Type} (fails : ε → Prop) : Ends Unit (Except ε Response) :=
  .step (fun _ => True) (fun response => response.status = 200) fails

/-- The last part of an endpoint that writes. -/
theorem orderly_writing {ε : Type} {fails : ε → Prop} {x : ExceptT ε Program User} {event : User → Event}
    {answer : User → Response} (writes : x.run.Orderly (.step (fun _ => True) (fun _ => True) fails) may)
    (keyed : ∀ saved, (event saved).refusal? ≠ some .emptySecret) (ok : ∀ saved, (answer saved).status = 200) :
    (do
      let saved ← x
      Program.log (event saved)
      return answer saved).run.Orderly (Answered fails) may := by
  refine writes.bind_silent (f := ExceptT.bindCont _) (leads_step ?_ ?_)
  · exact fun saved _ => .log (keyed saved) (orderly_pure trivial)
  · exact fun saved _ => ⟨_, rfl, ok saved⟩

theorem orderly_login (request : SignedRequest) :
    (s.loginOrKey request now).run.Orderly (Answered AuthError.IsSystem) request.Bears := by
  unfold loginOrKey
  split
  · exact orderly_pure trivial
  unfold login
  refine orderly_after (orderly_readBody request _) fun body _ => ?_
  dsimp only
  split
  · exact orderly_throw _
  split
  · exact orderly_throw _
  refine orderly_after (orderly_agree _) fun secret some_octet => ?_
  refine orderly_before (orderly_checking_some request some_octet) fun _ _ => ?_
  refine orderly_after (orderly_userByEmail _) fun user _ => ?_
  refine orderly_after (orderly_checkPassword user _) fun _ _ => ?_
  refine orderly_after (orderly_issuing _) fun pair _ => ?_
  exact orderly_writing (orderly_saving ..) (fun _ => by simp) fun _ => rfl

theorem orderly_refresh (request : SignedRequest) :
    (s.refresh request now).run.Orderly (Answered AuthError.IsSystem) request.Bears := by
  unfold refresh
  refine orderly_after (orderly_checking_none request) fun _ _ => ?_
  refine orderly_after (orderly_readBody request _) fun body _ => ?_
  refine orderly_after (orderly_masking isSystem_asCredentials (Session.orderly_resolve ..)) fun user _ => ?_
  dsimp only
  split
  · exact orderly_failWith_bind (by simp) _
  split
  next secret held =>
    obtain ⟨text, -, isSecret⟩ := Option.bind_eq_some_iff.mp held
    have some_octet : secret.bytes ≠ [] := (SharedSecret.ofText?_eq_some_iff.mp isSecret).1
    refine orderly_pure_bind ?_
    refine orderly_before (orderly_checking_some request some_octet) fun _ _ => ?_
    refine orderly_after (orderly_issuing _) fun pair _ => ?_
    exact orderly_writing (orderly_saving ..) (fun _ => by simp) fun _ => rfl
  · exact orderly_failWith_bind (by simp) _

theorem orderly_logout (request : SignedRequest) :
    (s.logout request now).run.Orderly (Answered AuthError.IsSystem) may := by
  unfold logout
  refine orderly_after (orderly_readBody request _) fun body _ => ?_
  dsimp only
  split
  next presented _ =>
    refine orderly_pure_bind ?_
    refine orderly_after (orderly_masking isSystem_asCredentials (Session.orderly_resolve ..)) fun user _ => ?_
    split
    · exact orderly_failWith_bind (by simp) _
    · exact orderly_writing (orderly_saving ..) (fun _ => by simp) fun _ => rfl
  · exact orderly_throw _

theorem orderly_current (request : SignedRequest) :
    (s.current request now).run.Orderly (Answered AuthError.IsSystem) may := by
  unfold current
  split
  · exact orderly_after (orderly_masking isSystem_asInvalidToken (Session.orderly_resolve ..)) fun user _ =>
      orderly_pure trivial
  dsimp only
  split
  · exact orderly_throw _
  -- The mask of the body hides everything, but reading it does not ask the store.
  refine orderly_after (orderly_masking (fun _ (never : False) => never.elim) (orderly_readBody request _))
    fun body _ => ?_
  refine orderly_after (orderly_masking isSystem_asInvalidToken (Session.orderly_resolve ..)) fun user _ => ?_
  split
  · exact orderly_failWith_bind (by simp) _
  · exact orderly_pure trivial

theorem orderly_getUser (p : Principal) (id : Int64) (request : SignedRequest) :
    (getUser p id request now).run.Orderly (Answered ApiError.IsInternal) (Changes request) := by
  unfold getUser
  refine orderly_before (orderly_passing p request) fun _ _ => ?_
  refine orderly_after (orderly_finding id) fun user _ => ?_
  exact orderly_pure trivial

theorem orderly_rename (p : Principal) (id : Int64) (request : SignedRequest) :
    (renameUser p id request now).run.Orderly (Answered ApiError.IsInternal) (Changes request) := by
  unfold renameUser
  refine orderly_before (orderly_passing p request) fun _ _ => ?_
  have read : (attempting (readBody request RenameRequest.ofNode?)).run.Orderly
      (.lookUp (fun _ => True) ApiError.IsInternal) fun _ _ => False :=
    orderly_attempting (fun _ (never : False) => never.elim) (orderly_readBody request _)
  refine orderly_after read fun body _ => ?_
  dsimp only
  split
  · exact orderly_throw _
  refine orderly_after (orderly_finding id) fun user _ => ?_
  exact orderly_writing (orderly_asking fun _ _ _ _ => trivial) (fun _ => by simp) fun _ => rfl

end Service

end

end Countersign
