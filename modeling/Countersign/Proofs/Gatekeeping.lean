import Countersign.Gate
import Countersign.Proofs.Privileges
import Countersign.Proofs.Handlers
import Countersign.Proofs.Runs

/-!
Whom the gate lets pass.

`Gate.Ruling` has a case for each way in which the gate may rule on a request, with the world afterwards, and
`Gate.ruling` says that every request is ruled on in one of these ways. Privileges come first: whoever is not entitled
is refused without a look at the signature, so the replay guard is not asked (`Gate.passes_exactly`). And roles only
ever add up, in whatever order they are held, so that a further one shuts nobody out (`PrivilegeSet.merged_union`).
-/

namespace Countersign

open Http (Method)

/-- Reading is what needs no signature. -/
theorem Action.reads_iff {m : Method} {action : Action} (performs : Action.ofMethod? m = some action) :
    m.isMutating = false ↔ m = .get ∨ m = .head := by
  unfold Action.ofMethod? at performs
  by_cases reads : m = .get ∨ m = .head
  · obtain rfl | rfl := reads <;> decide
  · have changes : m = .post ∨ (m = .put ∨ m = .patch) ∨ m = .delete := by
      refine Classical.byContradiction fun other => ?_
      simp_all
    obtain rfl | (rfl | rfl) | rfl := changes <;> decide

namespace Gate

/-- A role of the user grants on the resource what the method does. -/
def Entitled (u : User) (resource : String) (m : Method) : Prop :=
  ∃ action, Action.ofMethod? m = some action ∧ ∃ role ∈ u.roles, PrivilegeSet.Grants role.privileges resource action

/-- Whoever is entitled stays so with more roles. -/
theorem Entitled.mono {u : User} {roles : List Role} {resource : String} {m : Method} (entitled : Entitled u resource m)
    (more : u.roles ⊆ roles) : Entitled { u with roles } resource m := by
  obtain ⟨action, performs, role, member, grants⟩ := entitled
  exact ⟨action, performs, role, more member, grants⟩

/-- The secret under which a user's requests are to be signed. -/
def secret? (u : User) : Option SharedSecret := u.sharedSecret.bind SharedSecret.ofText?

/-- The signature's check, as the gate makes it in a world. -/
def verified (backend : Backend) (request : SignedRequest) (secret : SharedSecret) (now : Instant) (w : World) :
    Option (Except SignatureError Unit) × World :=
  (Signature.check request (some secret.bytes) now).run (World.answerWith backend) w

/-- How the gate may rule on a user's request, and the world afterwards. -/
inductive Ruling (backend : Backend) (u : User) (resource : String) (request : SignedRequest) (now : Instant) (w : World) :
    Option (Except Denial Unit) × World → Prop
  | barred (event : Event) (lacking : ¬ Entitled u resource request.method) :
      Ruling backend u resource request now w (some (.error .missingPrivilege), { w with log := w.log ++ [event] })
  | reading (entitled : Entitled u resource request.method) (reads : request.method = .get ∨ request.method = .head) :
      Ruling backend u resource request now w (some (.ok ()), w)
  | unsigned (event : Event) (entitled : Entitled u resource request.method)
      (changes : ¬ (request.method = .get ∨ request.method = .head)) (unheld : secret? u = none) :
      Ruling backend u resource request now w (some (.error .noSharedSecret), { w with log := w.log ++ [event] })
  | signed {secret : SharedSecret} (entitled : Entitled u resource request.method)
      (changes : ¬ (request.method = .get ∨ request.method = .head)) (held : secret? u = some secret) :
      Ruling backend u resource request now w
        ((verified backend request secret now w).1.map (·.mapError .signature), (verified backend request secret now w).2)

section

variable (backend : Backend) {u : User} {resource : String} {request : SignedRequest} {now : Instant} {w : World}

theorem not_entitled {m : Method} {action : Action} (performs : Action.ofMethod? m = some action)
    (other : PrivilegeSet.decide (Principal.ofUser u).privileges resource action ≠ .granted) :
    ¬ Entitled u resource m := by
  rintro ⟨same, performsSame, granting⟩
  cases performs.symm.trans performsSame
  exact other (User.privileges_eq_granted_iff.mpr granting)

/-- The gate's ruling on one who is entitled to the action. -/
theorem ruling_check {action : Action} (performs : Action.ofMethod? request.method = some action)
    (granted : PrivilegeSet.decide (Principal.ofUser u).privileges resource action = .granted) :
    Ruling backend u resource request now w
      ((check (.ofUser u) resource action request now).run (World.answerWith backend) w) := by
  have entitled : Entitled u resource request.method :=
    ⟨action, performs, User.privileges_eq_granted_iff.mp granted⟩
  have isSecret : (Principal.ofUser u).sharedSecret = secret? u := rfl
  have reads_iff := Action.reads_iff performs
  unfold check
  rw [granted]
  dsimp only
  by_cases reads : request.method.isMutating = true
  · have changes : ¬ (request.method = .get ∨ request.method = .head) := by
      rw [← reads_iff]
      simp [reads]
    rw [if_pos reads, isSecret]
    cases held : secret? u with
    | none => exact .unsigned _ entitled changes held
    | some secret =>
      have came : Ruling backend u resource request now w _ := .signed entitled changes held
      rw [Program.run_bind]
      unfold verified at came
      rcases ran : (Signature.check request (some secret.bytes) now).run (World.answerWith backend) w with ⟨answer, left⟩
      rw [ran] at came
      cases answer <;> exact came
  · rw [if_neg reads]
    exact .reading entitled (reads_iff.mp (by simpa using reads))

/-- Every request is ruled on in one of the ways of `Ruling`. -/
theorem ruling (u : User) (resource : String) (request : SignedRequest) (now : Instant) (w : World) :
    Ruling backend u resource request now w
      ((checkMethod (.ofUser u) resource request now).run (World.answerWith backend) w) := by
  unfold checkMethod
  cases performs : Action.ofMethod? request.method with
  | none =>
    have lacking : ¬ Entitled u resource request.method := by
      rintro ⟨action, isAction, -⟩
      rw [performs] at isAction
      cases isAction
    exact .barred _ lacking
  | some action =>
    dsimp only
    cases decided : PrivilegeSet.decide (Principal.ofUser u).privileges resource action with
    | granted => exact ruling_check backend performs decided
    | noResource =>
      unfold check
      rw [decided]
      exact .barred _ (not_entitled performs (by simp [decided]))
    | denied =>
      unfold check
      rw [decided]
      exact .barred _ (not_entitled performs (by simp [decided]))

/-- The gate gives the answer of the signature's check, with its errors for denials. -/
theorem map_signature_eq_ok_iff {verdict : Option (Except SignatureError Unit)} :
    verdict.map (·.mapError Denial.signature) = some (.ok ()) ↔ verdict = some (.ok ()) := by
  rcases verdict with _ | error | ⟨⟨⟩⟩
  · constructor <;> intro impossible <;> cases impossible
  · constructor <;> intro impossible <;> cases impossible
  · exact iff_of_true rfl rfl

theorem map_signature_ne_error {verdict : Option (Except SignatureError Unit)} {denial : Denial}
    (other : ∀ e, denial ≠ .signature e) : verdict.map (·.mapError Denial.signature) ≠ some (.error denial) := by
  rcases verdict with _ | error | ⟨⟨⟩⟩ <;> intro same
  · cases same
  · cases same
    exact other error rfl
  · cases same

variable {answer : Option (Except Denial Unit)} {left : World}

namespace Ruling

variable {backend}

theorem missingPrivilege_iff (came : Ruling backend u resource request now w (answer, left)) :
    answer = some (.error .missingPrivilege) ↔ ¬ Entitled u resource request.method := by
  cases came with
  | barred event lacking => simp [lacking]
  | reading entitled reads => simp [entitled]
  | unsigned event entitled changes unheld => simp [entitled]
  | signed entitled changes held =>
    simp only [entitled, not_true_eq_false, iff_false]
    exact map_signature_ne_error (by simp)

theorem noSharedSecret_iff (came : Ruling backend u resource request now w (answer, left)) :
    answer = some (.error .noSharedSecret) ↔
      Entitled u resource request.method ∧ ¬ (request.method = .get ∨ request.method = .head) ∧ secret? u = none := by
  cases came with
  | barred event lacking => simp [lacking]
  | reading entitled reads => simp [reads]
  | unsigned event entitled changes unheld => simp [entitled, changes, unheld]
  | signed entitled changes held =>
    simp only [held, reduceCtorEq, and_false, iff_false]
    exact map_signature_ne_error (by simp)

theorem ok_iff (came : Ruling backend u resource request now w (answer, left)) :
    answer = some (.ok ()) ↔ Entitled u resource request.method ∧
      (request.method = .get ∨ request.method = .head ∨
        ∃ secret, secret? u = some secret ∧ (verified backend request secret now w).1 = some (.ok ())) := by
  rw [← or_assoc]
  cases came with
  | barred event lacking => simp [lacking]
  | reading entitled reads => simp [entitled, reads]
  | unsigned event entitled changes unheld => simp [changes, unheld]
  | signed entitled changes held =>
    simp only [entitled, changes, held, Option.some.injEq, exists_eq_left', true_and, false_or]
    exact map_signature_eq_ok_iff

/-- A refusal for want of a privilege or of a secret is noted, and nothing else happens. -/
theorem untouched (came : Ruling backend u resource request now w (answer, left))
    (refused : answer = some (.error .missingPrivilege) ∨ answer = some (.error .noSharedSecret)) :
    ∃ event, left = { w with log := w.log ++ [event] } := by
  cases came with
  | barred event lacking => exact ⟨event, rfl⟩
  | reading entitled reads => simp at refused
  | unsigned event entitled changes unheld => exact ⟨event, rfl⟩
  | signed entitled changes held =>
    obtain refused | refused := refused <;> exact absurd refused (map_signature_ne_error (by simp))

end Ruling

end

theorem run_missingPrivilege_iff (backend : Backend) (u : User) (resource : String) (request : SignedRequest)
    (now : Instant) (w : World) :
    ((checkMethod (.ofUser u) resource request now).run (World.answerWith backend) w).1 =
      some (.error .missingPrivilege) ↔ ¬ Entitled u resource request.method :=
  (ruling backend u resource request now w).missingPrivilege_iff

/-- The gate lets those pass whose roles entitle them, and of these the ones that change something only with a request
signed under their secret. Those without a privilege or a secret leave no trace but in the log. -/
theorem passes_exactly (backend : Backend) (u : User) (resource : String) (request : SignedRequest) (now : Instant)
    (w : World) : ∃ answer left,
      (checkMethod (.ofUser u) resource request now).run (World.answerWith backend) w = (answer, left) ∧
      (answer = some (.ok ()) ↔ Entitled u resource request.method ∧
        (request.method = .get ∨ request.method = .head ∨
          ∃ secret, secret? u = some secret ∧ (verified backend request secret now w).1 = some (.ok ()))) ∧
      (answer = some (.error .missingPrivilege) ↔ ¬ Entitled u resource request.method) ∧
      (answer = some (.error .noSharedSecret) ↔ Entitled u resource request.method ∧
        ¬ (request.method = .get ∨ request.method = .head) ∧ secret? u = none) ∧
      (answer = some (.error .missingPrivilege) ∨ answer = some (.error .noSharedSecret) →
        left.replay = w.replay ∧ left.store = w.store) := by
  have came := ruling backend u resource request now w
  rcases ran : (checkMethod (.ofUser u) resource request now).run (World.answerWith backend) w with ⟨answer, left⟩
  rw [ran] at came
  refine ⟨answer, left, rfl, came.ok_iff, came.missingPrivilege_iff, came.noSharedSecret_iff, fun refused => ?_⟩
  obtain ⟨event, rfl⟩ := came.untouched refused
  exact ⟨rfl, rfl⟩

/-- A user who may only rename is refused a removal, and the guard keeps what it knows. -/
theorem passes_exactly_removal :
    let w : World := { Sample.world with replay := (ReplayGuard.new 2).touch "t-n" }
    ∃ left, (checkMethod (.ofUser Sample.user) "app_user" ⟨.delete, "/app_user/0", [], []⟩ ⟨60, 0⟩).run
        (World.answerWith fun call store => store.answer call) w = (some (.error .missingPrivilege), left) ∧
      left.replay = w.replay ∧ left.store = w.store := by
  intro w
  obtain ⟨answer, left, ran, -, -, -, untouched⟩ := passes_exactly (fun call store => store.answer call) Sample.user
    "app_user" ⟨.delete, "/app_user/0", [], []⟩ ⟨60, 0⟩ w
  have refused : answer = some (.error .missingPrivilege) := (congrArg Prod.fst ran).symm
  subst refused
  exact ⟨left, ran, untouched (.inl rfl)⟩

end Gate

/-! ### Roles -/

/-- Of several sets the merged one is the union, an entry without any grant included. It does not depend on their order
and on repetitions, and merging has the laws of a union. So a set more takes nothing away, and a role more shuts nobody
out. -/
theorem PrivilegeSet.merged_union :
    (∀ sets resource action,
      (decide (merged sets) resource action = .granted ↔ ∃ set ∈ sets, Grants set resource action) ∧
      (decide (merged sets) resource action = .noResource ↔ ∀ set ∈ sets, ¬ Covers set resource) ∧
      (decide (merged sets) resource action = .denied ↔
        (∃ set ∈ sets, Covers set resource) ∧ ∀ set ∈ sets, ¬ Grants set resource action)) ∧
    (∀ sets others, (∀ set, set ∈ sets ↔ set ∈ others) → merged sets = merged others) ∧
    (∀ a b c, merge (merge a b) c = merge a (merge b c)) ∧
    (∀ a b, merge a b = merge b a) ∧
    (∀ a, merge a a = a) ∧
    (∀ sets set resource action, decide (merged sets) resource action = .granted →
      decide (merged (sets ++ [set])) resource action = .granted) ∧
    ∀ backend (u : User) roles resource request now w, u.roles ⊆ roles →
      ((Gate.checkMethod (.ofUser { u with roles }) resource request now).run (World.answerWith backend) w).1 =
        some (.error .missingPrivilege) →
      ((Gate.checkMethod (.ofUser u) resource request now).run (World.answerWith backend) w).1 =
        some (.error .missingPrivilege) := by
  refine ⟨?decisions, fun _ _ same => merged_congr same, merge_assoc, merge_comm, merge_self, ?more, ?roles⟩
  case decisions =>
    intro sets resource action
    exact ⟨merged_eq_granted_iff, merged_eq_noResource_iff, merged_eq_denied_iff⟩
  case more =>
    intro sets set resource action granted
    exact merged_mono (List.subset_append_left sets [set]) granted
  case roles =>
    intro backend u roles resource request now w more refused
    rw [Gate.run_missingPrivilege_iff] at refused ⊢
    intro entitled
    exact refused (entitled.mono more)

theorem PrivilegeSet.merged_union_clerk :
    let reading := grant .empty "app_user" [.read]
    let idle := grant .empty "param" []
    let clerk : User := { Sample.user with roles := [⟨1, "clerk", reading⟩] }
    let roles : List Role := ⟨2, "idle", idle⟩ :: clerk.roles
    let removal (u : User) := ((Gate.checkMethod (.ofUser u) "app_user" ⟨.delete, "/app_user/0", [], []⟩ ⟨60, 0⟩).run
      (World.answerWith fun call store => store.answer call) Sample.world).1
    merged [reading, idle] = merged [idle, reading, idle] ∧
      decide (merged [reading]) "app_user" .read = .granted ∧
      decide (merged ([reading] ++ [idle])) "app_user" .read = .granted ∧
      clerk.roles ⊆ roles ∧ removal { clerk with roles } = some (.error .missingPrivilege) ∧
      removal clerk = some (.error .missingPrivilege) := by
  intro reading idle clerk roles removal
  obtain ⟨-, congr, -, -, -, more, fewer⟩ := merged_union
  have granted : decide (merged [reading]) "app_user" .read = .granted := by decide +kernel
  have held : clerk.roles ⊆ roles := List.subset_cons_self _ _
  have lacking : ¬ Gate.Entitled { clerk with roles } "app_user" .delete :=
    Gate.not_entitled (show Action.ofMethod? .delete = some .delete from rfl) (by decide +kernel)
  have refused : removal { clerk with roles } = some (.error .missingPrivilege) :=
    (Gate.run_missingPrivilege_iff ..).mpr lacking
  refine ⟨congr _ _ fun set => ?_, granted, more _ idle _ _ granted, held, refused, fewer _ clerk roles _ _ _ _ held refused⟩
  simp only [List.mem_cons, List.not_mem_nil, or_false]
  constructor
  · rintro (rfl | rfl) <;> simp
  · rintro (rfl | rfl | rfl) <;> simp

end Countersign
