/-!
Cutting texts at a separator. Both cuts lose nothing: `intercalate_parts` puts the parts together again,
and `eq_of_cut?` does the same for the cut at the first separator.
-/

namespace Countersign.Text

/-- The parts between the separators, at least one. -/
def parts (separator : Char) (s : List Char) : List (List Char) :=
  s.foldr (fun c parts =>
    if c = separator then [] :: parts
    else match parts with
      | part :: rest => (c :: part) :: rest
      | [] => [[c]]) [[]]

/-- What stands before and after the first separator. -/
def cut? (separator : Char) (s : List Char) : Option (List Char × List Char) :=
  match s.dropWhile (· != separator) with
  | [] => none
  | _ :: after => some (s.takeWhile (· != separator), after)

theorem parts_ne_nil (separator : Char) (s : List Char) : parts separator s ≠ [] := by
  cases s with
  | nil => simp [parts]
  | cons c s =>
    simp only [parts, List.foldr_cons]
    split
    · simp
    · split <;> simp

theorem parts_cons_of_ne {separator c : Char} (other : c ≠ separator) (s : List Char) :
    ∃ part rest, parts separator s = part :: rest ∧
      parts separator (c :: s) = (c :: part) :: rest := by
  cases h : parts separator s with
  | nil => exact absurd h (parts_ne_nil separator s)
  | cons part rest =>
    refine ⟨part, rest, rfl, ?_⟩
    simp only [parts, List.foldr_cons, other, ↓reduceIte] at h ⊢
    rw [h]

theorem parts_cons_self (separator : Char) (s : List Char) :
    parts separator (separator :: s) = [] :: parts separator s := by
  simp [parts]

/-- The parts with separators between them are the text. -/
theorem intercalate_parts (separator : Char) (s : List Char) :
    [separator].intercalate (parts separator s) = s := by
  induction s with
  | nil => rfl
  | cons c s ih =>
    by_cases same : c = separator
    · subst same
      rw [parts_cons_self]
      cases h : parts c s with
      | nil => exact absurd h (parts_ne_nil c s)
      | cons part rest => rw [h] at ih; simp [List.intercalate_cons_cons, ih]
    · obtain ⟨part, rest, h, h'⟩ := parts_cons_of_ne same s
      rw [h', ← ih, h]
      cases rest <;> simp [List.intercalate_cons_cons]

theorem eq_of_cut? {separator : Char} {s before after : List Char}
    (cut : cut? separator s = some (before, after)) :
    s = before ++ separator :: after ∧ separator ∉ before := by
  simp only [cut?] at cut
  split at cut
  · simp at cut
  next c after' rest =>
    simp only [Option.some.injEq, Prod.mk.injEq] at cut
    obtain ⟨rfl, rfl⟩ := cut
    have first : c = separator := by
      have := List.head?_dropWhile_not (· != separator) s
      simpa [rest] using this
    subst first
    refine ⟨?_, fun member => ?_⟩
    · rw [← rest, List.takeWhile_append_dropWhile]
    · have := List.all_takeWhile (p := (· != c)) (l := s)
      simpa using List.all_eq_true.mp this c member

end Countersign.Text
