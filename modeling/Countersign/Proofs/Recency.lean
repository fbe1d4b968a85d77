import Countersign.Proofs.Guards
import Mathlib.Data.Finset.Card

/-!
What the replay guard knows of all that it was ever given.

`recent` lists the keys of a history, each once and the one used last in front. A guard that began with nothing holds
as many of them as it has room for, from the front, whatever it has accepted and refused (`keys_noteAll`). So a pair is
refused exactly if its key was used before, and fewer other keys than there is room for have been used since
(`record_window`).
-/

namespace Countersign.ReplayGuard

/-! ### The order of last uses -/

/-- The keys of a history that stands with the last use in front: each once, in the order of their last uses. -/
def recent : List String → List String
  | [] => []
  | k :: history => k :: (recent history).erase k

theorem nodup_recent (history : List String) : (recent history).Nodup := by
  induction history with
  | nil => exact .nil
  | cons k history ih => exact List.nodup_cons.mpr ⟨ih.not_mem_erase, ih.erase k⟩

theorem mem_recent {k : String} {history : List String} : k ∈ recent history ↔ k ∈ history := by
  induction history with
  | nil => exact Iff.rfl
  | cons x history ih =>
    rw [recent, List.mem_cons, List.mem_cons]
    by_cases same : k = x
    · simp [same]
    · rw [List.mem_erase_of_ne same, ih]

theorem length_recent (history : List String) : (recent history).length = history.toFinset.card := by
  have same : (recent history).toFinset = history.toFinset := List.toFinset.ext fun k => mem_recent
  rw [← same, List.toFinset_card_of_nodup (nodup_recent history)]

/-- In front of a key stand those that were used after its last use. -/
theorem recent_append_cons {k : String} {newer : List String} (unused : k ∉ newer) (older : List String) :
    ∃ rest, recent (newer ++ k :: older) = recent newer ++ k :: rest := by
  induction newer with
  | nil => exact ⟨_, rfl⟩
  | cons x newer ih =>
    obtain ⟨other, unused⟩ := not_or.mp (mt List.mem_cons.mpr unused)
    obtain ⟨rest, isRecent⟩ := ih unused
    rw [List.cons_append, recent, isRecent, recent]
    by_cases inFront : x ∈ recent newer
    · exact ⟨rest, by rw [List.erase_append_left _ inFront, List.cons_append]⟩
    · refine ⟨rest.erase x, ?_⟩
      rw [List.erase_append_right _ inFront, List.erase_of_not_mem inFront, List.cons_append,
        List.erase_cons_tail (by simpa using other)]

/-- A key is among the most recent ones if fewer others than these have been used after its last use. -/
theorem mem_take_recent {k : String} {history : List String} {room : Nat} :
    k ∈ (recent history).take room ↔
      ∃ newer older, history = newer ++ k :: older ∧ k ∉ newer ∧ newer.toFinset.card < room := by
  constructor
  · intro among
    obtain ⟨newer, older, rfl, unused⟩ := List.eq_append_cons_of_mem (mem_recent.mp (List.mem_of_mem_take among))
    refine ⟨newer, older, rfl, unused, ?_⟩
    by_contra full
    obtain ⟨rest, isRecent⟩ := recent_append_cons unused older
    rw [isRecent, List.take_append_of_le_length (by rw [length_recent]; omega)] at among
    exact unused (mem_recent.mp (List.mem_of_mem_take among))
  · rintro ⟨newer, older, rfl, unused, few⟩
    obtain ⟨rest, isRecent⟩ := recent_append_cons unused older
    rw [← length_recent] at few
    obtain ⟨left, rfl⟩ : ∃ left, room = (recent newer).length + (left + 1) :=
      ⟨room - (recent newer).length - 1, by omega⟩
    rw [isRecent, List.take_length_add_append]
    exact List.mem_append_right _ List.mem_cons_self

/-- What has been cut off behind does not come back when a key is taken out in front. -/
theorem take_erase_take (l : List String) (k : String) (room : Nat) :
    ((l.take (room + 1)).erase k).take room = (l.erase k).take room := by
  induction l generalizing room with
  | nil => rfl
  | cons x l ih =>
    rw [List.take_succ_cons]
    by_cases same : x = k
    · subst same
      rw [List.erase_cons_head, List.erase_cons_head, List.take_take, Nat.min_self]
    · rw [List.erase_cons_tail (by simpa using same), List.erase_cons_tail (by simpa using same)]
      cases room with
      | zero => rfl
      | succ room => rw [List.take_succ_cons, List.take_succ_cons, ih]

/-! ### What a guard holds -/

/-- A guard that holds the most recent keys of a history still does when a key is added to both. -/
theorem keys_touch_recent {guard : ReplayGuard} {history : List String}
    (holds : guard.keys = (recent history).take guard.capacity) (k : String) :
    (guard.touch k).keys = (recent (k :: history)).take guard.capacity := by
  obtain ⟨room, isRoom⟩ := Nat.exists_eq_succ_of_ne_zero (Nat.ne_of_gt guard.capacity_pos)
  rw [keys_touch, holds, isRoom, recent, List.take_succ_cons, Nat.succ_sub_one]
  exact congrArg (k :: ·) (take_erase_take ..)

/-- The guard after pairs have been given to it one after the other. -/
def noteAll (guard : ReplayGuard) (pairs : List (String × String)) : ReplayGuard :=
  pairs.foldl (fun guard pair => (guard.record pair.1 pair.2).2) guard

/-- The keys of pairs. -/
def keysOf (pairs : List (String × String)) : List String := pairs.map fun pair => key pair.1 pair.2

theorem keys_noteAll_recent {guard : ReplayGuard} {history : List String}
    (holds : guard.keys = (recent history).take guard.capacity) (pairs : List (String × String)) :
    (guard.noteAll pairs).keys = (recent ((keysOf pairs).reverse ++ history)).take guard.capacity := by
  induction pairs generalizing guard history with
  | nil => exact holds
  | cons pair pairs ih =>
    have noted := ih (keys_touch_recent holds (key pair.1 pair.2))
    rw [keysOf, List.map_cons, List.reverse_cons, List.append_assoc]
    exact noted

/-- A guard that began with nothing holds the keys used last, as many as there is room for. -/
theorem keys_noteAll (capacity : Nat) (pairs : List (String × String)) :
    ((new capacity).noteAll pairs).keys = (recent (keysOf pairs).reverse).take (max capacity 1) := by
  have nothing : (new capacity).keys = (recent []).take (new capacity).capacity := List.take_nil.symm
  have noted := keys_noteAll_recent nothing pairs
  rw [List.append_nil] at noted
  exact noted

/-- A pair that is refused moves to the front too, so it is the other that makes room. -/
example : ((new 2).noteAll [("t", "a"), ("t", "b"), ("t", "a"), ("t", "c")]).keys = ["t-c", "t-a"] := by
  rw [keys_noteAll]
  decide

/-- A pair is refused exactly if its key was used before, and fewer others than there is room for have been used
after its last use; and the guard has grown with the keys used, up to its room. -/
theorem record_window (capacity : Nat) (before : List (String × String)) (timestamp nonce : String) :
    ((((new capacity).noteAll before).record timestamp nonce).1 = false ↔
      ∃ earlier later, keysOf before = earlier ++ key timestamp nonce :: later ∧ key timestamp nonce ∉ later ∧
        later.toFinset.card < max capacity 1) ∧
    (((new capacity).noteAll before).record timestamp nonce).2.size =
      min (max capacity 1) (keysOf (before ++ [(timestamp, nonce)])).toFinset.card := by
  constructor
  · have known : (((new capacity).noteAll before).record timestamp nonce).1 = false ↔
        key timestamp nonce ∈ ((new capacity).noteAll before).keys := by
      simp [record]
    rw [known, keys_noteAll, mem_take_recent]
    constructor
    · rintro ⟨newer, older, isHistory, unused, few⟩
      refine ⟨older.reverse, newer.reverse, ?_, by simpa using unused, by rwa [List.toFinset_reverse]⟩
      rw [← List.reverse_reverse (keysOf before), isHistory]
      simp
    · rintro ⟨earlier, later, isHistory, unused, few⟩
      refine ⟨later.reverse, earlier.reverse, ?_, by simpa using unused, by rwa [List.toFinset_reverse]⟩
      rw [isHistory]
      simp
  · have noted : (((new capacity).noteAll before).record timestamp nonce).2 =
        (new capacity).noteAll (before ++ [(timestamp, nonce)]) := by
      rw [noteAll, noteAll, List.foldl_append]
      rfl
    rw [noted, size, keys_noteAll, List.length_take, length_recent, List.toFinset_reverse]

end Countersign.ReplayGuard
