import Countersign.User

/-!
What merging makes of privileges.

A merged set decides as the higher one of what its parts decide, where "denied" is higher than "no entry" and "granted"
is the highest (`PrivilegeSet.decide_merge`). A set is known by what it decides (`PrivilegeSet.eq_of_decide`). So the
laws of merging are those of the higher one of two, and only which sets are merged matters, not how often or in which
order (`PrivilegeSet.merged_congr`).
-/

namespace Countersign

namespace Catalog

variable {κ α : Type} [KeyOrder κ] {key : α → κ}

theorem nodup (c : Catalog key) : c.entries.Nodup := by
  refine c.ascending.imp ?_
  rintro a b before rfl
  simp [KeyOrder.irrefl] at before

/-- The order leaves no choice: what a catalog holds determines it. -/
theorem eq_of_mem_iff {c d : Catalog key} (same : ∀ a, a ∈ c.entries ↔ a ∈ d.entries) : c = d := by
  have perm : c.entries.Perm d.entries := (List.perm_ext_iff_of_nodup c.nodup d.nodup).mpr same
  refine ext (perm.eq_of_pairwise ?_ c.ascending d.ascending)
  intro a b _ _ ab ba
  have circle := KeyOrder.trans ab ba
  simp [KeyOrder.irrefl] at circle

theorem find?_cons {a : α} {rest : List α}
    (ascending : (a :: rest).Pairwise fun a b => KeyOrder.before (key a) (key b) = true) (k : κ) [Decidable (key a = k)] :
    find? ⟨a :: rest, ascending⟩ k =
      if key a = k then some a else find? ⟨rest, (List.pairwise_cons.mp ascending).2⟩ k := by
  by_cases same : key a = k
  · subst same
    simp [find?, sameKey_iff.mpr rfl]
  · have apart : sameKey (key a) k = false := by simpa using mt sameKey_iff.mp same
    simp [find?, apart, same]

/-- The first key is that of no later entry. -/
theorem find?_rest {a : α} {rest : List α}
    (ascending : (a :: rest).Pairwise fun a b => KeyOrder.before (key a) (key b) = true) :
    find? ⟨rest, (List.pairwise_cons.mp ascending).2⟩ (key a) = none := by
  obtain ⟨first, later⟩ := List.pairwise_cons.mp ascending
  cases found : find? ⟨rest, later⟩ (key a) with
  | none => rfl
  | some b =>
    obtain ⟨member, same⟩ := mem_of_find? found
    have before := first b member
    rw [same, KeyOrder.irrefl] at before
    cases before

end Catalog

/-! ### Decisions -/

namespace Decision

/-- The one of two decisions that grants more. -/
def higher : Decision → Decision → Decision
  | .granted, _ => .granted
  | .noResource, d => d
  | .denied, .granted => .granted
  | .denied, _ => .denied

theorem higher_comm (c d : Decision) : c.higher d = d.higher c := by
  cases c <;> cases d <;> rfl

theorem higher_assoc (c d e : Decision) : (c.higher d).higher e = c.higher (d.higher e) := by
  cases c <;> cases d <;> cases e <;> rfl

theorem higher_self (d : Decision) : d.higher d = d := by
  cases d <;> rfl

theorem higher_noResource (d : Decision) : d.higher .noResource = d := by
  cases d <;> rfl

theorem higher_eq_granted {c d : Decision} : c.higher d = .granted ↔ c = .granted ∨ d = .granted := by
  cases c <;> cases d <;> simp [higher]

theorem higher_eq_noResource {c d : Decision} : c.higher d = .noResource ↔ c = .noResource ∧ d = .noResource := by
  cases c <;> cases d <;> simp [higher]

theorem eq_denied {d : Decision} : d = .denied ↔ d ≠ .noResource ∧ d ≠ .granted := by
  cases d <;> simp

/-- Decisions that agree at both ends of the line agree. -/
theorem eq_of_iff {c d : Decision} (granted : c = .granted ↔ d = .granted)
    (noResource : c = .noResource ↔ d = .noResource) : c = d := by
  cases c <;> cases d <;> simp_all

end Decision

namespace ActionFlags

theorem allows_union (a b : ActionFlags) (action : Action) :
    (a.union b).allows action = (a.allows action || b.allows action) := by
  cases action <;> rfl

theorem allows_empty (action : Action) : ({} : ActionFlags).allows action = false := by
  cases action <;> rfl

theorem eq_of_allows {a b : ActionFlags} (same : ∀ action, a.allows action = b.allows action) : a = b := by
  have read := same .read
  have create := same .create
  have update := same .update
  have delete := same .delete
  cases a
  cases b
  simp_all [allows]

end ActionFlags

namespace PrivilegeSet

/-- The set has an entry for the resource. -/
def Covers (set : PrivilegeSet) (resource : String) : Prop := ∃ flags, ⟨resource, flags⟩ ∈ set.entries

/-- An entry of the set grants the action on the resource. -/
def Grants (set : PrivilegeSet) (resource : String) (action : Action) : Prop :=
  ∃ flags, ⟨resource, flags⟩ ∈ set.entries ∧ flags.allows action = true

variable {set other : PrivilegeSet} {resource : String} {action : Action}

theorem flags?_eq_some_iff {flags : ActionFlags} : flags? set resource = some flags ↔ ⟨resource, flags⟩ ∈ set.entries := by
  unfold flags?
  rw [Option.map_eq_some_iff]
  constructor
  · rintro ⟨p, found, rfl⟩
    obtain ⟨member, rfl⟩ := Catalog.mem_of_find? found
    exact member
  · intro member
    exact ⟨_, Catalog.find?_of_mem member, rfl⟩

theorem decide_eq_noResource_iff : decide set resource action = .noResource ↔ ¬ Covers set resource := by
  unfold decide Covers
  simp only [← flags?_eq_some_iff]
  cases flags? set resource with
  | none => simp
  | some flags => by_cases allowed : flags.allows action = true <;> simp [allowed]

theorem decide_eq_granted_iff : decide set resource action = .granted ↔ Grants set resource action := by
  unfold decide Grants
  simp only [← flags?_eq_some_iff]
  cases flags? set resource with
  | none => simp
  | some flags => by_cases allowed : flags.allows action = true <;> simp [allowed]

/-- What is decided of every action tells the flags of a resource. -/
theorem flags?_congr (same : ∀ action, decide set resource action = decide other resource action) :
    flags? set resource = flags? other resource := by
  unfold decide at same
  generalize flags? set resource = held, flags? other resource = otherHeld at same
  cases held with
  | none =>
    cases otherHeld with
    | none => rfl
    | some others => by_cases allowed : others.allows .read = true <;> simpa [allowed] using same .read
  | some flags =>
    cases otherHeld with
    | none => by_cases allowed : flags.allows .read = true <;> simpa [allowed] using same .read
    | some others =>
      refine congrArg some (ActionFlags.eq_of_allows fun action => ?_)
      have agree := same action
      by_cases allowed : flags.allows action = true <;> by_cases otherAllowed : others.allows action = true <;>
        simp_all

/-- A set is known by what it decides. -/
theorem eq_of_decide (same : ∀ resource action, decide set resource action = decide other resource action) :
    set = other := by
  refine Catalog.eq_of_mem_iff fun p => ?_
  rw [← flags?_eq_some_iff, ← flags?_eq_some_iff, flags?_congr (same p.resource)]

/-! ### Merging -/

theorem flags?_add_self (set : PrivilegeSet) (p : Privilege) :
    flags? (add set p) p.resource = some (((flags? set p.resource).getD {}).union p.flags) := by
  unfold add
  rw [flags?_eq_some_iff]
  exact (Catalog.mem_of_find? (Catalog.find?_insert_self set _)).1

theorem flags?_add_of_ne (set : PrivilegeSet) {p : Privilege} (apart : p.resource ≠ resource) :
    flags? (add set p) resource = flags? set resource :=
  congrArg (Option.map _) (Catalog.find?_insert_of_ne set _ apart)

theorem decide_add_self (set : PrivilegeSet) (p : Privilege) (action : Action) :
    decide (add set p) p.resource action =
      (decide set p.resource action).higher (if p.flags.allows action then .granted else .denied) := by
  unfold decide
  rw [flags?_add_self]
  cases flags? set p.resource with
  | none => simp [ActionFlags.allows_union, ActionFlags.allows_empty, Decision.higher]
  | some flags =>
    by_cases before : flags.allows action = true <;> by_cases added : p.flags.allows action = true <;>
      simp [ActionFlags.allows_union, before, added, Decision.higher]

theorem decide_add_of_ne (set : PrivilegeSet) {p : Privilege} (apart : p.resource ≠ resource) :
    decide (add set p) resource action = decide set resource action := by
  unfold decide
  rw [flags?_add_of_ne set apart]

theorem decide_empty (resource : String) (action : Action) : decide .empty resource action = .noResource := rfl

/-- A merged set decides as the higher one of what its two parts decide. -/
theorem decide_merge (set other : PrivilegeSet) (resource : String) (action : Action) :
    decide (merge set other) resource action = (decide set resource action).higher (decide other resource action) := by
  obtain ⟨entries, ascending⟩ := other
  unfold merge
  dsimp only
  induction entries generalizing set with
  | nil => exact (Decision.higher_noResource _).symm
  | cons p rest ih =>
    have later := (List.pairwise_cons.mp ascending).2
    rw [List.foldl_cons, ih (add set p) later]
    by_cases same : p.resource = resource
    · -- No later entry is for this resource.
      subst same
      have alone : decide ⟨rest, later⟩ p.resource action = .noResource := by
        simp [decide, flags?, Catalog.find?_rest ascending]
      rw [alone, Decision.higher_noResource, decide_add_self]
      simp [decide, flags?, Catalog.find?_cons ascending]
    · rw [decide_add_of_ne set same]
      simp [decide, flags?, Catalog.find?_cons ascending, same]

theorem merge_assoc (a b c : PrivilegeSet) : merge (merge a b) c = merge a (merge b c) := by
  apply eq_of_decide
  intro resource action
  simp only [decide_merge, Decision.higher_assoc]

theorem merge_comm (a b : PrivilegeSet) : merge a b = merge b a := by
  apply eq_of_decide
  intro resource action
  rw [decide_merge, decide_merge, Decision.higher_comm]

theorem merge_self (a : PrivilegeSet) : merge a a = a := by
  apply eq_of_decide
  intro resource action
  rw [decide_merge, Decision.higher_self]

/-! ### Merging many -/

variable {sets others : List PrivilegeSet}

theorem foldl_merge_eq_granted_iff (start : PrivilegeSet) : decide (sets.foldl merge start) resource action = .granted ↔
    decide start resource action = .granted ∨ ∃ set ∈ sets, decide set resource action = .granted := by
  induction sets generalizing start with
  | nil => simp
  | cons set sets ih =>
    rw [List.foldl_cons, ih, decide_merge, Decision.higher_eq_granted]
    simp [or_assoc]

theorem foldl_merge_eq_noResource_iff (start : PrivilegeSet) :
    decide (sets.foldl merge start) resource action = .noResource ↔
      decide start resource action = .noResource ∧ ∀ set ∈ sets, decide set resource action = .noResource := by
  induction sets generalizing start with
  | nil => simp
  | cons set sets ih =>
    rw [List.foldl_cons, ih, decide_merge, Decision.higher_eq_noResource]
    simp [and_assoc]

theorem merged_eq_granted_iff :
    decide (merged sets) resource action = .granted ↔ ∃ set ∈ sets, Grants set resource action := by
  unfold merged
  rw [foldl_merge_eq_granted_iff, decide_empty]
  simp [decide_eq_granted_iff]

theorem merged_eq_noResource_iff :
    decide (merged sets) resource action = .noResource ↔ ∀ set ∈ sets, ¬ Covers set resource := by
  unfold merged
  rw [foldl_merge_eq_noResource_iff, decide_empty]
  simp [decide_eq_noResource_iff]

theorem merged_eq_denied_iff : decide (merged sets) resource action = .denied ↔
    (∃ set ∈ sets, Covers set resource) ∧ ∀ set ∈ sets, ¬ Grants set resource action := by
  rw [Decision.eq_denied, ne_eq, ne_eq, merged_eq_noResource_iff, merged_eq_granted_iff]
  simp

/-- Which sets are merged matters, not how often and in which order. -/
theorem merged_congr (same : ∀ set, set ∈ sets ↔ set ∈ others) : merged sets = merged others := by
  apply eq_of_decide
  intro resource action
  apply Decision.eq_of_iff
  · simp only [merged_eq_granted_iff, same]
  · simp only [merged_eq_noResource_iff, same]

/-- What some sets grant, more sets grant. -/
theorem merged_mono (more : sets ⊆ others) (granted : decide (merged sets) resource action = .granted) :
    decide (merged others) resource action = .granted := by
  obtain ⟨set, member, grants⟩ := merged_eq_granted_iff.mp granted
  exact merged_eq_granted_iff.mpr ⟨set, more member, grants⟩

end PrivilegeSet

/-- A user may do what one of their roles grants. -/
theorem User.privileges_eq_granted_iff {u : User} {resource : String} {action : Action} :
    PrivilegeSet.decide u.privileges resource action = .granted ↔
      ∃ role ∈ u.roles, PrivilegeSet.Grants role.privileges resource action := by
  unfold User.privileges
  rw [PrivilegeSet.merged_eq_granted_iff]
  constructor
  · rintro ⟨set, member, grants⟩
    obtain ⟨role, isRole, rfl⟩ := List.mem_map.mp member
    exact ⟨role, isRole, grants⟩
  · rintro ⟨role, isRole, grants⟩
    exact ⟨role.privileges, List.mem_map_of_mem isRole, grants⟩

end Countersign
