import Countersign.Proofs.Digests
import Countersign.Proofs.Interleaving
import Countersign.Proofs.Requests
import Countersign.Proofs.Signing
import Countersign.Proofs.Tokens

/-!
Requests that are in order get their answer.

`Program.Follows` is the other side of `Program.Keeps`: a history that a program can hear, in so many calls.
What the world would answer so is what happens, in a run on its own (`Program.Follows.run`) and in as many
turns as there are calls (`Interleaving.follows`). `Service.follows_rename` tells of a new name, from the
arrival of the request to its answer.
-/

namespace Countersign

open Http (Request Response)
open Json (Node)

/-- Whether a program can hear what stands at the beginning of a history, with so many calls left, and end as
`ends` allows with what remains of both. -/
def Program.Follows {α : Type} (ends : Nat → List Exchange → α → Prop) : Program α → Nat → List Exchange → Prop
  | .done a, n, h => ends n h a
  | .abort, _, _ => False
  | .call c next, n, h => ∃ answer m rest, n = m + 1 ∧ h = c.heard answer ++ rest ∧
      Follows ends (next answer) m rest

namespace Program

variable {α β : Type} {backend : Backend} {n : Nat} {h : List Exchange}

theorem follows_mono {ends others : Nat → List Exchange → α → Prop} (weaker : ∀ n h a, ends n h a → others n h a)
    {p : Program α} (follows : p.Follows ends n h) : p.Follows others n h := by
  induction p generalizing n h with
  | done a => exact weaker n h a follows
  | abort => exact follows
  | call c next ih =>
    obtain ⟨answer, m, rest, isCount, isHistory, goesOn⟩ := follows
    exact ⟨answer, m, rest, isCount, isHistory, ih answer goesOn⟩

theorem follows_bind {ends : Nat → List Exchange → β → Prop} {p : Program α} {f : α → Program β}
    (follows : p.Follows (fun n h a => (f a).Follows ends n h) n h) : (p >>= f).Follows ends n h := by
  induction p generalizing n h with
  | done a => exact follows
  | abort => exact follows
  | call c next ih =>
    obtain ⟨answer, m, rest, isCount, isHistory, goesOn⟩ := follows
    exact ⟨answer, m, rest, isCount, isHistory, ih answer goesOn⟩

theorem follows_log {ends : Nat → List Exchange → Unit → Prop} {e : Event} (ended : ends n h ()) :
    (log e).Follows ends (n + 1) h :=
  ⟨(), n, h, rfl, rfl, ended⟩

theorem follows_logAll {ends : Nat → List Exchange → Unit → Prop} (events : List Event) (ended : ends n h ()) :
    (logAll events).Follows ends (n + events.length) h := by
  unfold logAll
  induction events with
  | nil => exact ended
  | cons e events ih => exact ⟨(), n + events.length, h, rfl, rfl, ih⟩

theorem follows_store {ends : Nat → List Exchange → StoreAnswer → Prop} {call : StoreCall}
    {answer : StoreAnswer} (ended : ends n h answer) :
    (store call).Follows ends (n + 1) (.store call answer :: h) :=
  ⟨answer, n, h, rfl, rfl, ended⟩

theorem follows_record {ends : Nat → List Exchange → Bool → Prop} {timestamp nonce : String} {fresh : Bool}
    (ended : ends n h fresh) :
    (record timestamp nonce).Follows ends (n + 1) (.record timestamp nonce fresh :: h) :=
  ⟨fresh, n, h, rfl, rfl, ended⟩

/-- What would be answered is what is answered. -/
theorem answerWith_of_hears {c : Call} {answer : c.Answer} {w : World}
    (hears : w.memory.Hears backend (c.heard answer)) : ∃ later,
      World.answerWith backend c w = (some answer, later) ∧
        later.memory = w.memory.after backend (c.heard answer) := by
  cases c with
  | log e => exact ⟨_, rfl, rfl⟩
  | store call =>
    have fits : (backend call w.store).1 = some answer := hears.1
    refine ⟨{ w with store := (backend call w.store).2 }, ?_, rfl⟩
    show ((backend call w.store).1, _) = _
    rw [fits]
    rfl
  | record timestamp nonce =>
    have fits : (w.replay.record timestamp nonce).1 = answer := hears.1
    refine ⟨{ w with replay := (w.replay.record timestamp nonce).2 }, ?_, rfl⟩
    show (some (w.replay.record timestamp nonce).1, _) = _
    rw [fits]
    rfl

/-- A history that is heard to its end, with a result. -/
def Ended (ends : α → Prop) : Nat → List Exchange → α → Prop := fun n h a => n = 0 ∧ h = [] ∧ ends a

theorem Follows.run {ends : α → Prop} {p : Program α} (follows : p.Follows (Ended ends) n h) {w : World}
    (hears : w.memory.Hears backend h) :
    (∃ a, (p.run (World.answerWith backend) w).1 = some a ∧ ends a) ∧
      (p.run (World.answerWith backend) w).2.memory = w.memory.after backend h := by
  induction p generalizing n h w with
  | done a =>
    obtain ⟨-, rfl, ended⟩ := follows
    exact ⟨⟨a, rfl, ended⟩, rfl⟩
  | abort => exact follows.elim
  | call c next ih =>
    obtain ⟨answer, m, rest, -, rfl, goesOn⟩ := follows
    obtain ⟨now, after⟩ := (Memory.hears_append ..).mp hears
    obtain ⟨later, answered, leads⟩ := answerWith_of_hears now
    rw [← leads] at after
    rw [Program.run, answered, Memory.after_append, ← leads]
    exact ih answer goesOn after

end Program

/-- A program that has as many turns as it has calls ends. -/
theorem Interleaving.follows {ι α : Type} [DecidableEq ι] {r : Interleaving ι α} {i : ι} {n m : Nat}
    {h : List Exchange} {ends : α → Prop} (follows : (r.rest n i).Follows (Program.Ended ends) m h)
    (hears : (r.world n).memory.Hears r.backend h) (only : ∀ t, n ≤ t → t < n + m → r.turns t = i) :
    (∃ a, r.rest (n + m) i = .done a ∧ ends a) ∧
      (r.world (n + m)).memory = (r.world n).memory.after r.backend h := by
  generalize isRest : r.rest n i = p at follows
  induction p generalizing n m h with
  | done a =>
    obtain ⟨rfl, rfl, ended⟩ := follows
    exact ⟨⟨a, isRest, ended⟩, rfl⟩
  | abort => exact follows.elim
  | call c next ih =>
    obtain ⟨answer, m, rest, rfl, rfl, goesOn⟩ := follows
    obtain ⟨now, after⟩ := (Memory.hears_append ..).mp hears
    obtain ⟨later, answered, leads⟩ := Program.answerWith_of_hears now
    have turn : r.turns n = i := only n (Nat.le_refl n) (by omega)
    have step : (Program.call c next).step r.backend (r.world n) = (c.heard answer, next answer, later) := by
      rw [Program.step, answered]
    have isWorld : r.world (n + 1) = later := by rw [world_succ, turn, isRest, step]
    have isNext : r.rest (n + 1) i = next answer := by rw [rest_succ, if_pos turn.symm, turn, isRest, step]
    rw [← leads, ← isWorld] at after
    rw [Memory.after_append, ← leads, ← isWorld, show n + (m + 1) = n + 1 + m by omega]
    exact ih answer after (fun t first last => only t (by omega) (by omega)) isNext goesOn

/-! ### Steps that do not fail -/

section

variable {ε α β : Type} {n : Nat} {h : List Exchange}

/-- What `Program.Follows` says of a step that may fail, and does not. -/
def Achieves (ends : Nat → List Exchange → α → Prop) (x : ExceptT ε Program α) (n : Nat) (h : List Exchange) :
    Prop :=
  x.run.Follows (fun n h r => match r with | .ok a => ends n h a | .error _ => False) n h

/-- What follows a step that does not fail goes on from what it gives. -/
theorem follows_of_achieves {ends : Nat → List Exchange → β → Prop} {x : ExceptT ε Program α}
    {f : Except ε α → Program β} (achieves : Achieves (fun n h a => (f (.ok a)).Follows ends n h) x n h) :
    (x.run >>= f).Follows ends n h := by
  refine Program.follows_bind (Program.follows_mono ?_ achieves)
  rintro n h (e | a) goesOn
  · exact goesOn.elim
  · exact goesOn

theorem achieves_bind {ends : Nat → List Exchange → β → Prop} {x : ExceptT ε Program α}
    {f : α → ExceptT ε Program β} (achieves : Achieves (fun n h a => Achieves ends (f a) n h) x n h) :
    Achieves ends (x >>= f) n h :=
  follows_of_achieves (f := ExceptT.bindCont f) achieves

theorem achieves_lift {ends : Nat → List Exchange → α → Prop} {p : Program α} (follows : p.Follows ends n h) :
    Achieves ends (ExceptT.lift p : ExceptT ε Program α) n h :=
  Program.follows_bind (f := fun a => pure (Except.ok a)) follows

theorem achieves_liftM {ends : Nat → List Exchange → α → Prop} {p : Program α} (follows : p.Follows ends n h) :
    Achieves ends (liftM p : ExceptT ε Program α) n h :=
  achieves_lift follows

end

theorem Signature.follows_check {request : SignedRequest} {secret : Bytes} {now : Instant} {stamp : Stamp}
    (valid : stamp.Valid request secret now) {n : Nat} {h : List Exchange}
    {ends : Nat → List Exchange → Except SignatureError Unit → Prop} (ended : ends n h (.ok ())) :
    (check request (some secret) now).Follows ends (n + 1)
      (.record stamp.timestamp stamp.nonce true :: h) := by
  have secret_ne : secret.isEmpty ≠ true := by simpa using valid.secret_ne
  unfold check
  rw [valid.onClock]
  show (checkAt request (some secret) now).Follows ends _ _
  unfold checkAt
  rw [valid.read]
  show (checkStamp request stamp secret).Follows ends _ _
  unfold checkStamp
  rw [if_neg secret_ne, if_pos valid.covers]
  refine Program.follows_bind (Program.follows_record ?_)
  rw [if_pos rfl, if_pos valid.signs]
  exact ended

theorem Session.achieves_resolve {tokens : TokenService} {token : String} {kind : TokenKind} {now : Instant}
    {user : User} (belongs : Belongs tokens token kind now user) {n : Nat} {h : List Exchange}
    {ends : Nat → List Exchange → User → Prop} (ended : ends n h user) :
    Achieves ends (resolve tokens token kind now) (n + 1) (.store (.findByEmail user.email) (.ok user) :: h) := by
  obtain ⟨claims, parsed, subject⟩ := belongs.parses
  have isKept : ¬ (kind = .refresh ∧ user.refreshToken ≠ some token) := fun ⟨refreshes, other⟩ =>
    other (belongs.kept refreshes)
  unfold resolve
  rw [parsed, ← subject]
  refine achieves_bind (achieves_lift ?_)
  show Achieves ends (liftM (Program.store (.findByEmail claims.subject)) >>= _) _ _
  refine achieves_bind (achieves_liftM (Program.follows_store ?_))
  show Achieves ends (if user.email ≠ claims.subject then _ else if _ then _ else _) n h
  rw [if_neg (by simp [subject]), if_neg isKept]
  exact ended

namespace Service

variable {n : Nat} {h : List Exchange}

theorem achieves_attempting {α : Type} {x : Session.Attempt α} {ends : Nat → List Exchange → α → Prop}
    (achieves : Achieves ends x n h) : Achieves ends (attempting x) n h := by
  unfold attempting
  refine achieves_bind (achieves_liftM (Program.follows_mono ?_ achieves))
  rintro n h (e | a) ended
  · exact ended.elim
  · exact ended

theorem achieves_passing {p : Principal} {request : SignedRequest} {now : Instant} {secret : SharedSecret}
    {stamp : Stamp} (patch : request.method = .patch)
    (granted : PrivilegeSet.decide p.privileges userResource .update = .granted)
    (held : p.sharedSecret = some secret) (valid : stamp.Valid request secret.bytes now)
    {ends : Nat → List Exchange → Unit → Prop} (ended : ends n h ()) :
    Achieves ends (passing p request now) (n + 1) (.record stamp.timestamp stamp.nonce true :: h) := by
  have checked : (Gate.checkMethod p userResource request now).Follows
      (fun n' h' r => n' = n ∧ h' = h ∧ r = .ok ()) (n + 1)
      (.record stamp.timestamp stamp.nonce true :: h) := by
    unfold Gate.checkMethod
    rw [patch]
    show (Gate.check p userResource .update request now).Follows _ _ _
    unfold Gate.check
    rw [granted]
    dsimp only
    rw [if_pos (by rw [patch]; decide), held]
    exact Program.follows_bind (Signature.follows_check valid ⟨rfl, rfl, rfl⟩)
  unfold passing
  refine achieves_attempting (achieves_bind (achieves_liftM (Program.follows_mono ?_ checked)))
  rintro _ _ _ ⟨rfl, rfl, rfl⟩
  exact ended

theorem achieves_asking {call : StoreCall} {user : User} {ends : Nat → List Exchange → User → Prop}
    (ended : ends n h user) : Achieves ends (asking call) (n + 1) (.store call (.ok user) :: h) := by
  unfold asking
  exact achieves_bind (achieves_liftM (Program.follows_store ended))

theorem achieves_readBody {α : Type} {request : SignedRequest} {read : Node → Option α} {a : α}
    (isBody : (Node.read? request.body).bind read = some a) {ends : Nat → List Exchange → α → Prop}
    (ended : ends n h a) : Achieves ends (readBody request read) n h := by
  unfold readBody
  rw [isBody]
  exact ended

/-- A new name is given by those whose roles allow it, in a request that is signed. -/
theorem achieves_renameUser {p : Principal} {id : Int64} {request : SignedRequest} {now : Instant}
    {secret : SharedSecret} {stamp : Stamp} {body : RenameRequest} (patch : request.method = .patch)
    (granted : PrivilegeSet.decide p.privileges userResource .update = .granted)
    (held : p.sharedSecret = some secret) (valid : stamp.Valid request secret.bytes now)
    (isBody : (Node.read? request.body).bind RenameRequest.ofNode? = some body)
    (named : Text.trim body.name.toList ≠ []) (old saved : User)
    {ends : Nat → List Exchange → Response → Prop}
    (ended : ends n h (.json 200 saved.summary.toValue)) :
    Achieves ends (renameUser p id request now) (n + 4)
      (.record stamp.timestamp stamp.nonce true :: .store (.findById id) (.ok old) ::
        .store (.update { old with name := String.ofList (Text.trim body.name.toList) } [.name]) (.ok saved) ::
          h) := by
  unfold renameUser
  refine achieves_bind (achieves_passing patch granted held valid ?_)
  refine achieves_bind (achieves_attempting (achieves_readBody isBody ?_))
  dsimp only
  rw [if_neg (by simpa using named)]
  refine achieves_bind (achieves_asking ?_)
  refine achieves_bind (achieves_asking ?_)
  exact achieves_bind (achieves_liftM (Program.follows_log ended))

theorem follows_answerTask {x : Task Response} {ends : Nat → List Exchange → Response → Prop}
    (achieves : Achieves ends x n h) : (answerTask x).Follows ends n h :=
  follows_of_achieves achieves

theorem follows_withPrincipal {s : Service} {request : Request} {now : Instant} {token : String} {caller : User}
    (presented : Session.presented? request.headers = some token)
    (belongs : Session.Belongs s.tokens token .session now caller)
    {use : Option Principal → Program Response} {ends : Nat → List Exchange → Response → Prop}
    (used : (use (some (Principal.ofUser caller))).Follows ends n h) :
    (s.withPrincipal request now use).Follows ends (n + 1)
      (.store (.findByEmail caller.email) (.ok caller) :: h) := by
  unfold withPrincipal
  refine Program.follows_bind ?_
  unfold principalOf
  rw [presented]
  exact follows_of_achieves (Session.achieves_resolve belongs used)

/-- How an endpoint answers a request, its arrival is answered, with more headers. -/
theorem follows_handled {s : Service} {request : Request} {now : Instant} {route : Route} {ends : Response → Prop}
    (small : request.body.length ≤ maxBody) (notOptions : request.method ≠ .options)
    (place : s.route? request = some route)
    (follows : (s.endpoint route request now).Follows (fun n h r => n = 1 ∧ h = [] ∧ ends r) n h)
    (newId : String) :
    (s.handle request newId now).Follows (Program.Ended fun r => ∃ answer, ends answer ∧ r.status = answer.status ∧
      (request.method ≠ .head → r.body = answer.body)) n h := by
  unfold handle
  dsimp only
  rw [if_neg notOptions]
  refine Program.follows_bind ?_
  unfold logged
  rw [if_neg (Nat.not_lt.mpr small), place]
  refine Program.follows_bind (Program.follows_mono ?_ follows)
  rintro _ _ answer ⟨rfl, rfl, ended⟩
  refine Program.follows_bind (Program.follows_log ⟨rfl, rfl, answer, ended, ?_⟩)
  by_cases head : s.headAlone request = true
  · rw [if_pos head]
    refine ⟨rfl, fun other => ?_⟩
    simp [headAlone, other] at head
  · rw [if_neg head]
    exact ⟨rfl, fun _ => rfl⟩

/-- What an endpoint achieves for a request, its arrival does. -/
theorem follows_handle {s : Service} {request : Request} {now : Instant} {route : Route}
    (small : request.body.length ≤ maxBody) (notOptions : request.method ≠ .options)
    (place : s.route? request = some route)
    (follows : (s.endpoint route request now).Follows (fun n h r => n = 1 ∧ h = [] ∧ r.status = 200) n h)
    (newId : String) : (s.handle request newId now).Follows (Program.Ended fun r => r.status = 200) n h := by
  refine Program.follows_mono ?_ (follows_handled small notOptions place follows newId)
  rintro n h r ⟨isEnd, isHeard, answer, ok, status, -⟩
  exact ⟨isEnd, isHeard, status.trans ok⟩

/-- A value that an endpoint answers is what is answered, unless only the head is asked for. -/
theorem follows_handle_json {s : Service} {request : Request} {now : Instant} {route : Route} {v : Json.Value}
    (small : request.body.length ≤ maxBody) (notOptions : request.method ≠ .options) (notHead : request.method ≠ .head)
    (place : s.route? request = some route)
    (follows : (s.endpoint route request now).Follows (fun n h r => n = 1 ∧ h = [] ∧ r = .json 200 v) n h)
    (newId : String) : (s.handle request newId now).Follows
      (Program.Ended fun r => r.status = 200 ∧ r.body = v.write) n h := by
  refine Program.follows_mono ?_ (follows_handled small notOptions place follows newId)
  rintro n h r ⟨isEnd, isHeard, answer, rfl, status, body⟩
  exact ⟨isEnd, isHeard, status, body notHead⟩

/-- A request for a new name that is in order is answered 200. -/
theorem follows_rename {s : Service} {request : Request} {now : Instant} {segment token : String} {id : Int64}
    {caller : User} {secret : SharedSecret} {stamp : Stamp} {body : RenameRequest}
    (small : request.body.length ≤ maxBody) (patch : request.method = .patch)
    (place : s.route? request = some (.user segment)) (isId : userId segment = .ok id)
    (presented : Session.presented? request.headers = some token)
    (belongs : Session.Belongs s.tokens token .session now caller)
    (granted : PrivilegeSet.decide caller.privileges userResource .update = .granted)
    (held : caller.sharedSecret.bind SharedSecret.ofText? = some secret)
    (valid : stamp.Valid request.signed secret.bytes now)
    (isBody : (Node.read? request.body).bind RenameRequest.ofNode? = some body)
    (named : Text.trim body.name.toList ≠ []) (old saved : User) (newId : String) :
    (s.handle request newId now).Follows (Program.Ended fun r => r.status = 200) 6
      [.store (.findByEmail caller.email) (.ok caller), .record stamp.timestamp stamp.nonce true,
        .store (.findById id) (.ok old),
        .store (.update { old with name := String.ofList (Text.trim body.name.toList) } [.name])
          (.ok saved)] := by
  have notOptions : request.method ≠ .options := by
    rw [patch]
    decide
  refine follows_handle small notOptions place ?_ newId
  show (s.withPrincipal request now
    (userEndpoint request.method segment request.signed now)).Follows _ (5 + 1) _
  refine follows_withPrincipal presented belongs ?_
  unfold userEndpoint
  rw [if_neg (by rw [patch]; decide), if_pos patch]
  show (withUserId segment _).Follows _ _ _
  unfold withUserId
  rw [isId]
  refine follows_answerTask ?_
  exact achieves_renameUser (p := Principal.ofUser caller) (n := 1) patch granted held valid isBody named old saved
    ⟨rfl, rfl, rfl⟩

end Service

/-! ### A new name for a user -/

/-- What is heard when a user is given a new name. -/
def nameChange (caller old : User) (stamp : Stamp) (name : String) : List Exchange :=
  [.store (.findByEmail caller.email) (.ok caller), .record stamp.timestamp stamp.nonce true,
    .store (.findById old.id) (.ok old),
    .store (.update { old with name } [.name]) (.ok { old with name, version := old.version + 1 })]

/-- A store and a guard let it happen, unless the record is at its last version. -/
theorem Memory.hears_nameChange {m : Memory} {caller old : User} {stamp : Stamp} (name : String)
    (found : m.store.findByEmail caller.email = .ok caller)
    (fresh : ReplayGuard.key stamp.timestamp stamp.nonce ∉ m.replay.keys)
    (isOld : m.store.find? old.id = some old) (notLast : old.version ≠ Int64.maxValue) :
    m.Hears Store.answer (nameChange caller old stamp name) ∧
      m.after Store.answer (nameChange caller old stamp name) =
        ⟨m.store.insert { old with name, version := old.version + 1 },
          m.replay.touch (ReplayGuard.key stamp.timestamp stamp.nonce)⟩ := by
  have updated : m.store.update { old with name } [.name] = _ := Store.update_of_read isOld rfl rfl rfl notLast
  have byId : m.store.findById old.id = .ok old := by
    unfold Store.findById
    rw [isOld]
  refine ⟨⟨congrArg some found, ?_, congrArg some byId, congrArg Prod.fst updated, trivial⟩, ?_⟩
  · show (!m.replay.keys.contains (ReplayGuard.key stamp.timestamp stamp.nonce)) = true
    simpa using fresh
  · show Memory.mk (m.store.update { old with name } [.name]).2 _ = _
    rw [updated]
    rfl

/-! ### A new name for the user of the small service -/

namespace Sample

def newName : Bytes := Bytes.ofText "\x7b\"name\":\"B\"\x7d"

def minute : String := "1970-01-01T00:01:00Z"

/-- The user asks for another name, in a request that is signed under the secret of the session. -/
def rename (nonce : String) : Request where
  method := .patch
  target := .ofText "/api/v1/users/0"
  headers := [.ofText "authorization" ("Bearer " ++ token)] ++
    (RequestSignature.sign .patch "/api/v1/users/0" newName [0] nonce minute).headers
  body := newName

/-- What the request says about its signing. -/
def stamp (nonce : String) : Stamp where
  signature := (RequestSignature.sign .patch "/api/v1/users/0" newName [0] nonce minute).signature
  nonce := nonce
  timestamp := minute

theorem minute_readable : Http.Header.Readable minute := by decide +kernel

theorem read?_minute : Time.Rfc3339.read? minute = some ⟨60, 0⟩ := by decide +kernel

theorem rename_valid {nonce : String} (readable : Http.Header.Readable nonce) (long : 20 ≤ nonce.length) :
    (stamp nonce).Valid (rename nonce).signed [0] ⟨60, 0⟩ := by
  have target : (Http.Target.ofText "/api/v1/users/0").signedText = "/api/v1/users/0" := by decide +kernel
  unfold rename Request.signed
  dsimp only
  rw [target]
  exact RequestSignature.valid (by decide) (by decide) (by decide) readable long minute_readable read?_minute
    (by decide)

theorem token_plain : Json.Plain token := by
  unfold token
  exact ((Json.Plain.ofList rfl).append (Json.Plain.ofList rfl)).append (Json.Plain.ofList rfl)

theorem rename_route (nonce : String) : service.route? (rename nonce) = some (.user "0") := by
  show Route.ofPath? false (Http.Target.ofText "/api/v1/users/0").routedPath = _
  decide +kernel

theorem token_ne : token ≠ "" := by
  unfold token
  simp

theorem rename_presented (nonce : String) : Session.presented? (rename nonce).headers = some token :=
  Session.presented?_bearer token_plain token_ne _

theorem token_parses : service.tokens.parse token ⟨60, 0⟩ =
    some (.ok ⟨"a", Claims.theIssuer, Claims.theAudience, 0, 0, 60⟩) := by
  have parts : Text.parts '.' token.toList = ["eyJhbGciOiJIUzI1NiJ9".toList,
      "eyJzdWIiOiJhIiwiaXNzIjoibXd1aSIsImF1ZCI6Im13dWktY2xpZW50cyIsImlhdCI6MCwibmJmIjowLCJleHAiOjYwfQ".toList,
      "YupE4Ov_aXKyHCbK8LbVIzs3KH1RQKszvwyUsH3kmHc".toList] := by
    decide +kernel
  have read : service.tokens.read token = .ok ⟨"a", Claims.theIssuer, Claims.theAudience, 0, 0, 60⟩ := by
    refine (TokenService.read_eq_ok_iff _).mpr ⟨_, _, _, parts, by decide +kernel, ?_, by decide +kernel, by decide,
      by decide⟩
    rw [Hash.hmac_eq]
    decide +kernel
  exact TokenService.parse_eq_ok_iff.mpr ⟨read, by decide, by decide, by decide, rfl, rfl⟩

/-- The user, whatever their version and name. -/
structure IsUser (u : User) : Prop where
  id : u.id = 0
  email : u.email = "a"
  roles : u.roles = user.roles
  sharedSecret : u.sharedSecret = some "AA"
  notLast : u.version ≠ Int64.maxValue

theorem user_isUser : IsUser user := ⟨rfl, rfl, rfl, rfl, by decide⟩

variable {nonce : String} {u : User}

theorem follows_rename (readable : Http.Header.Readable nonce) (long : 20 ≤ nonce.length) (isUser : IsUser u) :
    (service.handle (rename nonce) "" ⟨60, 0⟩).Follows (Program.Ended fun r => r.status = 200) 6
      (nameChange u u (stamp nonce) "B") := by
  have small : (rename nonce).body.length ≤ Service.maxBody := show newName.length ≤ _ by decide +kernel
  have isBody : (Node.read? (rename nonce).signed.body).bind RenameRequest.ofNode? = some ⟨"B"⟩ :=
    show (Node.read? newName).bind RenameRequest.ofNode? = _ by decide +kernel
  have belongs : Session.Belongs service.tokens token .session ⟨60, 0⟩ u :=
    ⟨⟨_, token_parses, isUser.email.symm⟩, fun refreshes => by cases refreshes⟩
  have granted : PrivilegeSet.decide u.privileges Service.userResource .update = .granted := by
    rw [User.privileges, isUser.roles]
    decide +kernel
  have held : u.sharedSecret.bind SharedSecret.ofText? = some ⟨[0]⟩ := by
    rw [isUser.sharedSecret]
    decide +kernel
  have named : Service.userId "0" = .ok u.id := by
    rw [isUser.id]
    rfl
  have trimmed : String.ofList (Text.trim "B".toList) = "B" := by decide +kernel
  have follows := Service.follows_rename small rfl (rename_route nonce) named (rename_presented nonce) belongs granted held
    (rename_valid readable long) isBody (by decide) u { u with name := "B", version := u.version + 1 } ""
  dsimp only at follows
  rw [trimmed] at follows
  exact follows

/-- The memory of a store and a guard in which the user is given the new name. -/
def next (m : Memory) (u : User) (nonce : String) : Memory :=
  ⟨m.store.insert { u with name := "B", version := u.version + 1 },
    m.replay.touch (ReplayGuard.key minute nonce)⟩

theorem hears_rename {m : Memory} (isUser : IsUser u) (found : m.store.findByEmail "a" = .ok u)
    (byId : m.store.find? 0 = some u) (fresh : ReplayGuard.key minute nonce ∉ m.replay.keys) :
    m.Hears Store.answer (nameChange u u (stamp nonce) "B") ∧
      m.after Store.answer (nameChange u u (stamp nonce) "B") = next m u nonce := by
  refine Memory.hears_nameChange "B" ?_ fresh ?_ isUser.notLast
  · rw [isUser.email]
    exact found
  · rw [isUser.id]
    exact byId

variable (nonce)

theorem rename_run (readable : Http.Header.Readable nonce) (long : 20 ≤ nonce.length) (isUser : IsUser u)
    {w : World} (found : w.store.findByEmail "a" = .ok u) (byId : w.store.find? 0 = some u)
    (fresh : ReplayGuard.key minute nonce ∉ w.replay.keys) :
    ((service.handle (rename nonce) "" ⟨60, 0⟩).run (World.answerWith Store.answer) w).2.store =
      w.store.insert { u with name := "B", version := u.version + 1 } := by
  obtain ⟨hears, after⟩ := hears_rename (m := w.memory) isUser found byId fresh
  -- Left to itself, `rfl` would run the program.
  rw [← World.memory_store, ((follows_rename readable long isUser).run hears).2, after]
  rfl

theorem rename_turns (readable : Http.Header.Readable nonce) (long : 20 ≤ nonce.length) (isUser : IsUser u)
    {ι : Type} [DecidableEq ι] {r : Interleaving ι Response} {i : ι} {n : Nat} {m : Memory}
    (isBackend : r.backend = Store.answer) (isMemory : (r.world n).memory = m)
    (isRest : r.rest n i = service.handle (rename nonce) "" ⟨60, 0⟩)
    (found : m.store.findByEmail "a" = .ok u) (byId : m.store.find? 0 = some u)
    (fresh : ReplayGuard.key minute nonce ∉ m.replay.keys) (only : ∀ t, n ≤ t → t < n + 6 → r.turns t = i) :
    r.Succeeded (n + 6) i ∧ (r.world (n + 6)).memory = next m u nonce := by
  obtain ⟨hears, after⟩ := hears_rename isUser found byId fresh
  have follows : (r.rest n i).Follows (Program.Ended fun r => r.status = 200) 6
      (nameChange u u (stamp nonce) "B") := by
    rw [isRest]
    exact follows_rename readable long isUser
  rw [← isMemory, ← isBackend] at hears after
  obtain ⟨succeeded, leads⟩ := Interleaving.follows follows hears only
  exact ⟨succeeded, leads.trans (after.trans (by rw [isMemory]))⟩

end Sample

end Countersign
