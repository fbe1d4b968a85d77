/-!
Catalogs: finite collections with at most one entry per key, held in the order of their keys.

Since the order is part of the type, a catalog has one representation, and equality of catalogs is
equality of what they hold. `mem_insertEntry` says what an insertion leaves behind and
`find?_insert_self`, `find?_insert_of_ne` what a later lookup sees.
-/

namespace Countersign

/-- Keys that stand in one strict line. -/
class KeyOrder (κ : Type) where
  before : κ → κ → Bool
  irrefl : ∀ a, before a a = false
  trans : ∀ {a b c}, before a b = true → before b c = true → before a c = true
  connected : ∀ {a b}, before a b = false → before b a = false → a = b

namespace KeyOrder

/-- Order of texts: the first differing character decides, and a proper beginning comes first. -/
def textBefore : List Char → List Char → Bool
  | [], [] => false
  | [], _ :: _ => true
  | _ :: _, [] => false
  | a :: as, b :: bs => if a = b then textBefore as bs else decide (a.toNat < b.toNat)

theorem textBefore_irrefl (as : List Char) : textBefore as as = false := by
  induction as with
  | nil => rfl
  | cons a as ih => simp [textBefore, ih]

theorem textBefore_trans {as bs cs : List Char} (first : textBefore as bs = true)
    (second : textBefore bs cs = true) : textBefore as cs = true := by
  induction as generalizing bs cs with
  | nil => cases bs <;> cases cs <;> simp_all [textBefore]
  | cons a as ih =>
    cases bs with
    | nil => simp [textBefore] at first
    | cons b bs =>
      cases cs with
      | nil => simp [textBefore] at second
      | cons c cs =>
        by_cases ab : a = b
        · by_cases bc : b = c
          · subst ab bc
            simp only [textBefore, ↓reduceIte] at first second ⊢
            exact ih first second
          · subst ab
            simp_all [textBefore]
        · by_cases bc : b = c
          · subst bc
            simp_all [textBefore]
          · simp only [textBefore, ab, bc, ↓reduceIte, decide_eq_true_eq] at first second
            have apart : a ≠ c := by rintro rfl; omega
            simp only [textBefore, apart, ↓reduceIte, decide_eq_true_eq]
            omega

theorem textBefore_connected {as bs : List Char} (first : textBefore as bs = false)
    (second : textBefore bs as = false) : as = bs := by
  induction as generalizing bs with
  | nil => cases bs <;> simp_all [textBefore]
  | cons a as ih =>
    cases bs with
    | nil => simp [textBefore] at second
    | cons b bs =>
      by_cases ab : a = b
      · subst ab
        simp only [textBefore, ↓reduceIte] at first second
        rw [ih first second]
      · have ba : b ≠ a := fun h => ab h.symm
        simp only [textBefore, ab, ba, ↓reduceIte, decide_eq_false_iff_not] at first second
        exact absurd (Char.toNat_inj.mp (by omega)) ab

instance : KeyOrder String where
  before a b := textBefore a.toList b.toList
  irrefl a := textBefore_irrefl a.toList
  trans first second := textBefore_trans first second
  connected first second := String.toList_inj.mp (textBefore_connected first second)

instance : KeyOrder Int64 where
  before a b := decide (a.toInt < b.toInt)
  irrefl a := by simp
  trans first second := by simp only [decide_eq_true_eq] at first second ⊢; omega
  connected first second := by
    simp only [decide_eq_false_iff_not] at first second
    exact Int64.toInt_inj.mp (by omega)

end KeyOrder

/-- Entries in ascending order of `key`, so no two share a key. -/
structure Catalog {κ α : Type} [KeyOrder κ] (key : α → κ) where
  entries : List α
  ascending : entries.Pairwise fun a b => KeyOrder.before (key a) (key b) = true

namespace Catalog

variable {κ α : Type} [KeyOrder κ] {key : α → κ}

theorem ext {c d : Catalog key} (same : c.entries = d.entries) : c = d := by
  cases c; cases d; cases same; rfl

instance [DecidableEq α] : DecidableEq (Catalog key) := fun c d =>
  if same : c.entries = d.entries then isTrue (ext same)
  else isFalse fun equal => same (equal ▸ rfl)

/-- The catalog without entries. -/
def empty : Catalog key := ⟨[], .nil⟩

instance : Inhabited (Catalog key) := ⟨empty⟩

def isEmpty (c : Catalog key) : Bool := c.entries.isEmpty

/-- Whether two keys are the same one: neither comes before the other. -/
def sameKey (a b : κ) : Bool := !KeyOrder.before a b && !KeyOrder.before b a

theorem sameKey_iff {a b : κ} : sameKey a b = true ↔ a = b := by
  constructor
  · intro same
    simp only [sameKey, Bool.and_eq_true, Bool.not_eq_true'] at same
    exact KeyOrder.connected same.1 same.2
  · rintro rfl
    simp [sameKey, KeyOrder.irrefl]

/-- The entry filed under `k`. -/
def find? (c : Catalog key) (k : κ) : Option α :=
  c.entries.find? fun a => sameKey (key a) k

/-- Files `a` at its place; an entry with its key gives way. -/
def insertEntry (key : α → κ) (a : α) : List α → List α
  | [] => [a]
  | b :: rest =>
    if KeyOrder.before (key a) (key b) then a :: b :: rest
    else if KeyOrder.before (key b) (key a) then b :: insertEntry key a rest
    else a :: rest

theorem mem_insertEntry {a x : α} {entries : List α} (member : x ∈ insertEntry key a entries) :
    x = a ∨ x ∈ entries := by
  induction entries with
  | nil => simpa [insertEntry] using member
  | cons b rest ih =>
    simp only [insertEntry] at member
    split at member
    · simpa using member
    · split at member
      · rcases List.mem_cons.mp member with rfl | inner
        · simp
        · rcases ih inner with rfl | inRest
          · simp
          · simp [inRest]
      · rcases List.mem_cons.mp member with rfl | inner
        · simp
        · simp [inner]

theorem ascending_insertEntry (a : α) {entries : List α}
    (ascending : entries.Pairwise fun a b => KeyOrder.before (key a) (key b) = true) :
    (insertEntry key a entries).Pairwise fun a b => KeyOrder.before (key a) (key b) = true := by
  induction entries with
  | nil => simp [insertEntry]
  | cons b rest ih =>
    obtain ⟨first, later⟩ := List.pairwise_cons.mp ascending
    simp only [insertEntry]
    split
    next ab =>
      refine List.pairwise_cons.mpr ⟨fun x member => ?_, ascending⟩
      rcases List.mem_cons.mp member with rfl | inRest
      · exact ab
      · exact KeyOrder.trans ab (first x inRest)
    next ab =>
      split
      next ba =>
        refine List.pairwise_cons.mpr ⟨fun x member => ?_, ih later⟩
        rcases mem_insertEntry member with rfl | inRest
        · exact ba
        · exact first x inRest
      next ba =>
        have same : key a = key b := KeyOrder.connected (by simpa using ab) (by simpa using ba)
        exact List.pairwise_cons.mpr ⟨fun x member => same ▸ first x member, later⟩

/-- The catalog with `a` filed; an entry with its key gives way. -/
def insert (c : Catalog key) (a : α) : Catalog key :=
  ⟨insertEntry key a c.entries, ascending_insertEntry a c.ascending⟩

/-- Files the entries of a list one after the other, so of two with one key the later stays. -/
def ofList (entries : List α) : Catalog key := entries.foldl insert empty

theorem find?_insert_self (c : Catalog key) (a : α) : (c.insert a).find? (key a) = some a := by
  simp only [find?, insert]
  induction c.entries with
  | nil => simp [insertEntry, sameKey_iff.mpr]
  | cons b rest ih =>
    simp only [insertEntry]
    split
    · simp [sameKey_iff.mpr]
    · split
      next ba =>
        have apart : sameKey (key b) (key a) = false := by simp [sameKey, ba]
        simp [apart, ih]
      · simp [sameKey_iff.mpr]

theorem find?_insert_of_ne (c : Catalog key) (a : α) {k : κ} (other : key a ≠ k) :
    (c.insert a).find? k = c.find? k := by
  have skipped : sameKey (key a) k = false := by
    cases same : sameKey (key a) k with
    | false => rfl
    | true => exact absurd (sameKey_iff.mp same) other
  simp only [find?, insert]
  induction c.entries with
  | nil => simp [insertEntry, skipped]
  | cons b rest ih =>
    simp only [insertEntry]
    split
    · simp [skipped]
    · split
      · simp only [List.find?_cons, ih]
      next ab ba =>
        have same : key a = key b := KeyOrder.connected (by simpa using ab) (by simpa using ba)
        simp [skipped, ← same]

theorem mem_of_find? {c : Catalog key} {k : κ} {a : α} (found : c.find? k = some a) :
    a ∈ c.entries ∧ key a = k := by
  unfold find? at found
  have same := List.find?_some found
  exact ⟨List.mem_of_find?_eq_some found, sameKey_iff.mp same⟩

/-- An entry is found under its own key. -/
theorem find?_of_mem {c : Catalog key} {a : α} (member : a ∈ c.entries) : c.find? (key a) = some a := by
  obtain ⟨entries, ascending⟩ := c
  simp only [find?] at member ⊢
  induction entries with
  | nil => cases member
  | cons b rest ih =>
    obtain ⟨first, later⟩ := List.pairwise_cons.mp ascending
    rcases List.mem_cons.mp member with rfl | inRest
    · simp [sameKey_iff.mpr]
    · have apart : sameKey (key b) (key a) = false := by simp [sameKey, first a inRest]
      simp only [List.find?_cons, apart]
      exact ih later inRest

end Catalog

end Countersign
