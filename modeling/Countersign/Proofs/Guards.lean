import Countersign.Replay

/-!
How long the replay guard remembers a key.

A key that has been noted stays until as many others have been noted as the guard has room for. `Remembers`
says so for the keys noted since, and `remembers_touch` that it stays so with every further one.
-/

namespace Countersign.ReplayGuard

/-- A key has only some others in front of it, or these are as many as there is room for. -/
inductive Remembers (guard : ReplayGuard) (k : String) (others : String → Prop) : Prop
  | held {front back : List String} (keys : guard.keys = front ++ k :: back)
      (newer : ∀ x ∈ front, others x ∧ x ≠ k)
  | crowded {distinct : List String} (nodup : distinct.Nodup) (enough : guard.capacity ≤ distinct.length)
      (newer : ∀ x ∈ distinct, others x ∧ x ≠ k)

variable {guard : ReplayGuard} {k : String} {others : String → Prop}

theorem Remembers.mono {more : String → Prop} (remembers : guard.Remembers k others)
    (grown : ∀ x, others x → more x) : guard.Remembers k more := by
  cases remembers with
  | held keys newer => exact .held keys fun x member => (newer x member).imp_left (grown x)
  | crowded nodup enough newer => exact .crowded nodup enough fun x member => (newer x member).imp_left (grown x)

theorem eq_of_keys {guard other : ReplayGuard} (capacity : guard.capacity = other.capacity)
    (keys : guard.keys = other.keys) : guard = other := by
  cases guard
  cases other
  cases capacity
  cases keys
  rfl

theorem keys_touch (guard : ReplayGuard) (k : String) :
    (guard.touch k).keys = k :: (guard.keys.erase k).take (guard.capacity - 1) := by
  obtain ⟨room, isRoom⟩ := Nat.exists_eq_succ_of_ne_zero (Nat.ne_of_gt guard.capacity_pos)
  show (k :: guard.keys.erase k).take guard.capacity = _
  rw [isRoom]
  rfl

theorem mem_touch_self (guard : ReplayGuard) (k : String) : k ∈ (guard.touch k).keys := by
  rw [keys_touch]
  exact List.mem_cons_self

/-- A key that is the most recent one stays so, and nothing else changes. -/
theorem touch_touch (guard : ReplayGuard) (k : String) : (guard.touch k).touch k = guard.touch k := by
  have same : ((guard.touch k).touch k).keys = (guard.touch k).keys := by
    rw [keys_touch, keys_touch guard, List.erase_cons_head]
    show k :: ((guard.keys.erase k).take (guard.capacity - 1)).take (guard.capacity - 1) = _
    rw [List.take_take, Nat.min_self]
  exact eq_of_keys rfl same

theorem remembers_touch_self (guard : ReplayGuard) (k : String) (others : String → Prop) :
    (guard.touch k).Remembers k others :=
  .held (show (guard.touch k).keys = [] ++ k :: _ from keys_touch guard k) fun x member => by cases member

theorem erase_front (front back : List String) {x : String} (other : x ≠ k) :
    ∃ front' back', (front ++ k :: back).erase x = front' ++ k :: back' ∧ front'.Sublist front := by
  by_cases inFront : x ∈ front
  · refine ⟨front.erase x, back, ?_, List.erase_sublist⟩
    rw [List.erase_append_left _ inFront]
  · refine ⟨front, back.erase x, ?_, List.Sublist.refl front⟩
    rw [List.erase_append_right _ inFront, List.erase_cons_tail (by simpa using other.symm)]

/-- Whatever is noted next, the key is remembered, with what has been noted added to the others. -/
theorem remembers_touch {more : String → Prop} {x : String} (remembers : guard.Remembers k others)
    (grown : ∀ y, others y → more y) (noted : x ≠ k → more x) : (guard.touch x).Remembers k more := by
  by_cases same : x = k
  · subst same
    exact remembers_touch_self guard x more
  · cases remembers with
    | crowded nodup enough newer =>
      exact .crowded nodup enough fun y member => (newer y member).imp_left (grown y)
    | @held front back keys newer =>
      obtain ⟨front', back', erased, fewer⟩ := erase_front front back same
      have newFirst : ∀ y ∈ x :: front', more y ∧ y ≠ k := by
        intro y member
        rcases List.mem_cons.mp member with rfl | inFront
        · exact ⟨noted same, same⟩
        · exact (newer y (fewer.subset inFront)).imp_left (grown y)
      have isKeys : (guard.touch x).keys = ((x :: front') ++ k :: back').take guard.capacity := by
        show (x :: guard.keys.erase x).take guard.capacity = _
        rw [keys, erased]
        rfl
      by_cases room : (x :: front').length < guard.capacity
      · -- The key keeps its place behind those in front.
        obtain ⟨left, isLeft⟩ : ∃ left, guard.capacity = (x :: front').length + (left + 1) :=
          ⟨guard.capacity - (x :: front').length - 1, by omega⟩
        have placed : (guard.touch x).keys = (x :: front') ++ k :: back'.take left := by
          rw [isKeys, isLeft, List.take_length_add_append]
          rfl
        exact .held placed newFirst
      · -- It is those in front that fill the guard.
        have enough : (guard.touch x).capacity ≤ (x :: front').length := Nat.not_lt.mp room
        have nodup : (x :: guard.keys.erase x).Nodup :=
          List.nodup_cons.mpr ⟨guard.nodup.not_mem_erase, guard.nodup.erase x⟩
        rw [keys, erased] at nodup
        have fewer : (x :: front').Sublist (x :: (front' ++ k :: back')) :=
          (List.sublist_append_left front' _).cons_cons x
        exact .crowded (nodup.sublist fewer) enough newFirst

/-- A key that the guard does not know any more has given way to as many others as there is room for. -/
theorem Remembers.crowd (remembers : guard.Remembers k others) (forgotten : k ∉ guard.keys) :
    ∃ distinct : List String, distinct.Nodup ∧ guard.capacity ≤ distinct.length ∧
      ∀ x ∈ distinct, others x ∧ x ≠ k := by
  cases remembers with
  | held keys newer =>
    rw [keys] at forgotten
    exact absurd (List.mem_append_right _ List.mem_cons_self) forgotten
  | crowded nodup enough newer => exact ⟨_, nodup, enough, newer⟩

/-- Different keys are those of different pairs, so as many other pairs have been noted. -/
theorem Remembers.crowd_pairs {timestamp nonce : String} {noted : String × String → Prop}
    (remembers : guard.Remembers (key timestamp nonce) fun k => ∃ pair, noted pair ∧ key pair.1 pair.2 = k)
    (forgotten : key timestamp nonce ∉ guard.keys) : ∃ others : List (String × String), others.Nodup ∧
      guard.capacity ≤ others.length ∧ ∀ pair ∈ others, pair ≠ (timestamp, nonce) ∧ noted pair := by
  obtain ⟨distinct, nodup, enough, newer⟩ := remembers.crowd forgotten
  have pairs : ∃ others : List (String × String), others.map (fun p => key p.1 p.2) = distinct ∧
      ∀ pair ∈ others, noted pair := by
    clear nodup enough
    induction distinct with
    | nil => exact ⟨[], rfl, by simp⟩
    | cons x distinct ih =>
      obtain ⟨others, isDistinct, noted⟩ := ih fun y member => newer y (List.mem_cons_of_mem x member)
      obtain ⟨pair, isNoted, isKey⟩ := (newer x List.mem_cons_self).1
      refine ⟨pair :: others, by rw [List.map_cons, isKey, isDistinct], ?_⟩
      rintro p member
      rcases List.mem_cons.mp member with rfl | inOthers
      · exact isNoted
      · exact noted p inOthers
  obtain ⟨others, rfl, noted⟩ := pairs
  rw [List.length_map] at enough
  refine ⟨others, List.Pairwise.of_map _ (fun p q apart same => apart (by rw [same])) nodup, enough, ?_⟩
  intro pair member
  refine ⟨?_, noted pair member⟩
  rintro rfl
  exact (newer _ (List.mem_map_of_mem member)).2 rfl

/-! ### Room -/

/-- A new key is put in front, and the last one gives way if there is no room for all. -/
theorem keys_touch_new {x : String} (new : x ∉ guard.keys) :
    (guard.touch x).keys = (x :: guard.keys).take guard.capacity := by
  show (x :: guard.keys.erase x).take guard.capacity = _
  rw [List.erase_of_not_mem new]

/-- A key that the guard knows comes to the front. -/
theorem keys_touch_known {x : String} (known : x ∈ guard.keys) :
    (guard.touch x).keys = x :: guard.keys.erase x := by
  have fits : (x :: guard.keys.erase x).length ≤ guard.capacity := by
    rw [← (List.perm_cons_erase known).length_eq]
    exact guard.bounded
  exact List.take_of_length_le fits

/-- A key that the guard knows only changes its place. -/
theorem touch_perm {x : String} (known : x ∈ guard.keys) : (guard.touch x).keys.Perm guard.keys := by
  rw [keys_touch_known known]
  exact (List.perm_cons_erase known).symm

/-- While there is room for them, the keys noted last stand in front. -/
theorem touch_front {x : String} {front back : List String} (keys : guard.keys = front ++ back)
    (other : x ∉ front) (room : front.length < guard.capacity) :
    ∃ back', (guard.touch x).keys = (x :: front) ++ back' := by
  refine ⟨(back.erase x).take (guard.capacity - (front.length + 1)), ?_⟩
  show (x :: guard.keys.erase x).take guard.capacity = _
  rw [keys, List.erase_append_right _ other, ← List.cons_append, List.take_append,
    List.take_of_length_le (show (x :: front).length ≤ guard.capacity from room), List.length_cons]

end Countersign.ReplayGuard
