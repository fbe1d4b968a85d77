import Countersign.Proofs.Discretion
import Countersign.Proofs.Records

/-!
What is written of users and of their views is read back.

Views, roles and sets of privileges convey themselves; of a set the entries are read in their order, and those that
stand in order are filed as they stand (`Catalog.ofList_entries`). A user conveys all but the password record, the
refresh token and the shared secret (`User.conveys`), and the text does not depend on these (`User.write_eq_iff`).
-/

namespace Countersign

open Json (Node Value rawOf)

/-! ### Catalogs -/

namespace Catalog

variable {κ α : Type} [KeyOrder κ] {key : α → κ}

/-- What comes behind all entries is filed at their end. -/
theorem insertEntry_last {a : α} {entries : List α} (last : ∀ b ∈ entries, KeyOrder.before (key b) (key a) = true) :
    insertEntry key a entries = entries ++ [a] := by
  induction entries with
  | nil => rfl
  | cons b rest ih =>
    obtain ⟨first, later⟩ := List.forall_mem_cons.mp last
    have notBefore : ¬ KeyOrder.before (key a) (key b) = true := fun back => by
      have circle := KeyOrder.trans first back
      rw [KeyOrder.irrefl] at circle
      cases circle
    rw [insertEntry, if_neg notBefore, if_pos first, ih later, List.cons_append]

/-- Entries that stand in order are filed as they stand. -/
theorem ofList_entries (c : Catalog key) : ofList c.entries = c := by
  have filed (rest : List α) (held : Catalog key)
      (ascending : (held.entries ++ rest).Pairwise fun a b => KeyOrder.before (key a) (key b) = true) :
      (rest.foldl insert held).entries = held.entries ++ rest := by
    induction rest generalizing held with
    | nil => simp
    | cons a rest ih =>
      have last : ∀ b ∈ held.entries, KeyOrder.before (key b) (key a) = true := fun b member =>
        (List.pairwise_append.mp ascending).2.2 b member a List.mem_cons_self
      have grown : (held.insert a).entries = held.entries ++ [a] := insertEntry_last last
      rw [List.foldl_cons, ih _ (by rw [grown]; simpa using ascending), grown]
      simp
  exact ext (filed c.entries empty c.ascending)

end Catalog

open Json (Conveys conveys_int64 conveys_list conveys_members conveys_record conveys_text)

/-! ### Roles and their privileges -/

theorem ActionFlags.conveys (flags : ActionFlags) : Conveys ofNode? flags.toValue flags := by
  refine conveys_record (Action.all.map Action.name)
    (Action.all.map fun a => (a.name, .bool (flags.allows a)))
    rfl (by decide) (by simp [Action.all, Action.name]) (List.Subset.refl _) fun tree isRecord => ?_
  unfold ofNode?
  rw [isRecord]
  simp [Action.all, Action.name, List.lookup_cons, Node.defaulting, Node.bool?, allows]

theorem PrivilegeSet.conveys (set : PrivilegeSet) : Conveys ofNode? (toValue set) set := by
  have filed : Conveys ofNode? (toValue set) (Catalog.ofList set.entries) := by
    refine conveys_members set.entries (fun _ => Option.map_eq_bind.symm) fun p _ => ?_
    obtain ⟨n, isTree, reads⟩ := p.flags.conveys
    exact ⟨n, isTree, by simp [Json.Quoted.decode?_raw, reads]⟩
  rwa [Catalog.ofList_entries] at filed

theorem Role.conveys (r : Role) : Conveys ofNode? r.toValue r := by
  obtain ⟨id, isId, readsId⟩ := conveys_int64 r.id
  obtain ⟨name, isName, readsName⟩ := conveys_text r.name
  obtain ⟨privileges, arePrivileges, readsPrivileges⟩ := PrivilegeSet.conveys r.privileges
  refine conveys_record ["id", "name", "privileges"]
    [("id", id), ("name", name), ("privileges", privileges)]
    (by simp [Value.memberNodes?, isId, isName, arePrivileges]) (by simp) (by simp) (by simp) fun tree isRecord => ?_
  unfold ofNode?
  rw [isRecord]
  simp [List.lookup_cons, Node.required, Node.defaulting, readsId, readsName, readsPrivileges]

/-! ### Users and their views -/

/-- A user conveys all but the secrets: they have no members, and what is not given is null. -/
theorem User.conveys (u : User) : Conveys ofNode? u.toValue u.bare := by
  obtain ⟨id, isId, readsId⟩ := conveys_int64 u.id
  obtain ⟨version, isVersion, readsVersion⟩ := conveys_int64 u.version
  obtain ⟨email, isEmail, readsEmail⟩ := conveys_text u.email
  obtain ⟨name, isName, readsName⟩ := conveys_text u.name
  obtain ⟨roles, areRoles, readsRoles⟩ := conveys_list u.roles fun r _ => r.conveys
  refine conveys_record
    ["id", "version", "email", "name", "password_hash", "refresh_token", "shared_secret", "roles"]
    [("id", id), ("version", version), ("email", email), ("name", name), ("roles", roles)]
    (by simp [Value.memberNodes?, isId, isVersion, isEmail, isName, areRoles]) (by simp) (by simp) (by simp)
    fun tree isRecord => ?_
  unfold ofNode?
  rw [isRecord]
  simp [List.lookup_cons, Node.required, Node.defaulting, readsId, readsVersion, readsEmail, readsName, readsRoles, bare]

theorem UserSummary.conveys (s : UserSummary) : Conveys ofNode? s.toValue s := by
  obtain ⟨id, isId, readsId⟩ := conveys_int64 s.id
  obtain ⟨name, isName, readsName⟩ := conveys_text s.name
  obtain ⟨email, isEmail, readsEmail⟩ := conveys_text s.email
  obtain ⟨roles, areRoles, readsRoles⟩ := conveys_list s.roles fun role _ => conveys_text role
  refine conveys_record ["id", "name", "email", "roles"]
    [("id", id), ("name", name), ("email", email), ("roles", roles)]
    (by simp [Value.memberNodes?, isId, isName, isEmail, areRoles]) (by simp) (by simp) (by simp)
    fun tree isRecord => ?_
  unfold ofNode?
  rw [isRecord]
  simp [List.lookup_cons, Node.required, readsId, readsName, readsEmail, readsRoles]

theorem UserProfile.conveys (p : UserProfile) : Conveys ofNode? p.toValue p := by
  obtain ⟨id, isId, readsId⟩ := conveys_int64 p.id
  obtain ⟨name, isName, readsName⟩ := conveys_text p.name
  obtain ⟨email, isEmail, readsEmail⟩ := conveys_text p.email
  obtain ⟨roles, areRoles, readsRoles⟩ := conveys_list p.roles fun role _ => conveys_text role
  obtain ⟨privileges, arePrivileges, readsPrivileges⟩ := PrivilegeSet.conveys p.privileges
  refine conveys_record ["id", "name", "email", "roles", "privileges"]
    [("id", id), ("name", name), ("email", email), ("roles", roles), ("privileges", privileges)]
    (by simp [Value.memberNodes?, isId, isName, isEmail, areRoles, arePrivileges]) (by simp) (by simp) (by simp)
    fun tree isRecord => ?_
  unfold ofNode?
  rw [isRecord]
  simp [List.lookup_cons, Node.required, readsId, readsName, readsEmail, readsRoles, readsPrivileges]

/-- The texts of two users are the same exactly if the users are equal but for their secrets. -/
theorem User.write_eq_iff {u v : User} : u.toValue.write = v.toValue.write ↔ u.bare = v.bare := by
  constructor
  · intro same
    have read := u.conveys.read_write
    rw [same, v.conveys.read_write] at read
    exact (Option.some.inj read).symm
  · exact User.eq_of_bare (fun u => u.toValue.write) fun _ => rfl

/-- The text of a user depends on no secret, and tells all else: it is read as the user without secrets. The texts of
views, of roles and of sets of privileges are read as what they were written for. -/
theorem User.text_exact :
    (∀ u v : User, u.toValue.write = v.toValue.write ↔ u.bare = v.bare) ∧
    (∀ u : User, (Node.read? (Bytes.ofText u.toValue.write)).bind User.ofNode? =
      some { u with passwordHash := none, refreshToken := none, sharedSecret := none }) ∧
    (∀ s : UserSummary, (Node.read? (Bytes.ofText s.toValue.write)).bind UserSummary.ofNode? = some s) ∧
    (∀ p : UserProfile, (Node.read? (Bytes.ofText p.toValue.write)).bind UserProfile.ofNode? = some p) ∧
    (∀ r : Role, (Node.read? (Bytes.ofText r.toValue.write)).bind Role.ofNode? = some r) ∧
    ∀ set : PrivilegeSet, (Node.read? (Bytes.ofText (PrivilegeSet.toValue set).write)).bind PrivilegeSet.ofNode? =
      some set :=
  ⟨fun _ _ => write_eq_iff, fun u => u.conveys.read_write, fun s => s.conveys.read_write,
    fun p => p.conveys.read_write, fun r => r.conveys.read_write, fun set => (PrivilegeSet.conveys set).read_write⟩

end Countersign
