import Countersign.Proofs.Previews
import Mathlib.Data.List.Forall2

/-!
What redaction hides of a value, and what it keeps.

A path leads from a value to one of its parts, and is open if no key on it names a secret. What stands at an open path
keeps its face: its keys if it is an object, its length if it is an array, and all of it otherwise. What stands under
the key of a secret is the marker. So two values show the same exactly if they have the same face at every open path
(`Preview.redact_eq_iff`).
-/

namespace Countersign

namespace Json.Value

/-- What holds of a value if it holds of its parts holds of every value. -/
@[elab_as_elim]
theorem induction {P : Value → Prop} (null : P .null) (bool : ∀ b, P (.bool b)) (number : ∀ n, P (.number n))
    (string : ∀ s, P (.string s)) (array : ∀ items, (∀ item ∈ items, P item) → P (.array items))
    (object : ∀ members, (∀ m ∈ members, P m.2) → P (.object members)) (v : Value) : P v := by
  refine @Value.rec P (fun items => ∀ item ∈ items, P item) (fun members => ∀ m ∈ members, P m.2) (fun m => P m.2)
    null bool number string array object ?_ ?_ ?_ ?_ ?_ v
  · simp
  · intro item items first rest x member
    rcases List.mem_cons.mp member with rfl | later
    · exact first
    · exact rest x later
  · simp
  · intro m members first rest x member
    rcases List.mem_cons.mp member with rfl | later
    · exact first
    · exact rest x later
  · exact fun key v holds => holds

/-- A step down into a value: to an item by its place, or to a member by its place and key. -/
inductive Step where
  | item (index : Nat)
  | member (index : Nat) (key : String)

/-- The part that is one step down. -/
def part? : Value → Step → Option Value
  | .array items, .item i => items[i]?
  | .object members, .member i key => members[i]?.bind fun m => if m.1 = key then some m.2 else none
  | _, _ => none

/-- The part to which a path leads. -/
def at? (v : Value) : List Step → Option Value
  | [] => some v
  | step :: path => (v.part? step).bind fun part => part.at? path

/-- Two values differ at most in what arrays and objects hold under the same places and keys. -/
inductive SameFace : Value → Value → Prop
  | same (v : Value) : SameFace v v
  | array {items others : List Value} (length : items.length = others.length) : SameFace (.array items) (.array others)
  | object {members others : List (String × Value)} (keys : members.map Prod.fst = others.map Prod.fst) :
      SameFace (.object members) (.object others)

theorem SameFace.symm {v w : Value} (face : SameFace v w) : SameFace w v := by
  cases face with
  | same => exact .same _
  | array lengths => exact .array lengths.symm
  | object keys => exact .object keys.symm

theorem SameFace.trans {u v w : Value} (first : SameFace u v) (second : SameFace v w) : SameFace u w := by
  cases first with
  | same => exact second
  | array lengths =>
    cases second with
    | same => exact .array lengths
    | array more => exact .array (lengths.trans more)
  | object keys =>
    cases second with
    | same => exact .object keys
    | object more => exact .object (keys.trans more)

@[simp] theorem part?_item (items : List Value) (i : Nat) : (array items).part? (.item i) = items[i]? := rfl

@[simp] theorem part?_member (members : List (String × Value)) (i : Nat) (key : String) :
    (object members).part? (.member i key) = members[i]?.bind fun m => if m.1 = key then some m.2 else none := rfl

theorem at?_append (v : Value) (path more : List Step) : v.at? (path ++ more) = (v.at? path).bind fun part => part.at? more := by
  induction path generalizing v with
  | nil => rfl
  | cons step path ih =>
    rw [List.cons_append, at?, at?, Option.bind_assoc]
    exact congrArg _ (funext fun part => ih part)

theorem at?_singleton (v : Value) (step : Step) : v.at? [step] = v.part? step := by
  rw [at?]
  exact Option.bind_fun_some _

end Json.Value

namespace Preview

open Json (Value)
open Json.Value (Step SameFace part? part?_member at? at?_append at?_singleton)

/-! ### Keys of secrets -/

/-- The same character, but for the case of an ASCII letter. -/
def SameLetter (c d : Char) : Prop :=
  c = d ∨ ('A' ≤ c ∧ c ≤ 'Z' ∧ d.toNat = c.toNat + 32) ∨ ('A' ≤ d ∧ d ≤ 'Z' ∧ c.toNat = d.toNat + 32)

/-- A key names a secret in letters of any case. -/
def Secret (key : String) : Prop :=
  ∃ name ∈ ["password", "secret", "token", "refresh_token", "apikey", "key"],
    List.Forall₂ SameLetter key.toList name.toList

theorem toNat_toLower (c : Char) : c.toLower.toNat = if 'A' ≤ c ∧ c ≤ 'Z' then c.toNat + 32 else c.toNat := by
  unfold Char.toLower
  by_cases upper : 'A' ≤ c ∧ c ≤ 'Z'
  · have range : c.val ≥ 'A'.val ∧ c.val ≤ 'Z'.val := upper
    have small : c.val.toNat ≤ 90 := UInt32.le_iff_toNat_le.mp range.2
    rw [dif_pos range, if_pos upper]
    show (c.val + 32).toNat = c.val.toNat + 32
    rw [UInt32.toNat_add]
    exact Nat.mod_eq_of_lt (show c.val.toNat + 32 < 2 ^ 32 by omega)
  · have range : ¬ (c.val ≥ 'A'.val ∧ c.val ≤ 'Z'.val) := upper
    rw [dif_neg range, if_neg upper]

theorem toLower_eq_iff {c d : Char} (lower : ¬ ('A' ≤ d ∧ d ≤ 'Z')) : c.toLower = d ↔ SameLetter c d := by
  have codes := toNat_toLower c
  rw [← Char.toNat_inj, SameLetter, ← Char.toNat_inj, codes]
  by_cases upper : 'A' ≤ c ∧ c ≤ 'Z'
  · rw [if_pos upper]
    constructor
    · intro same
      exact .inr (.inl ⟨upper.1, upper.2, same.symm⟩)
    · rintro (same | ⟨-, -, same⟩ | ⟨least, most, -⟩)
      · rw [Char.toNat_inj.mp same] at upper
        exact absurd upper lower
      · exact same.symm
      · exact absurd ⟨least, most⟩ lower
  · rw [if_neg upper]
    constructor
    · exact .inl
    · rintro (same | ⟨least, most, -⟩ | ⟨least, most, -⟩)
      · exact same
      · exact absurd ⟨least, most⟩ upper
      · exact absurd ⟨least, most⟩ lower

/-- A key in any case is a name in lower case if their letters are the same. -/
theorem map_toLower_eq_iff {key name : List Char} (lower : ∀ d ∈ name, ¬ ('A' ≤ d ∧ d ≤ 'Z')) :
    key.map Char.toLower = name ↔ List.Forall₂ SameLetter key name := by
  induction key generalizing name with
  | nil => cases name <;> simp
  | cons c key ih =>
    cases name with
    | nil => simp
    | cons d name =>
      have first := lower d List.mem_cons_self
      have rest := ih fun e member => lower e (List.mem_cons_of_mem d member)
      rw [List.map_cons, List.cons.injEq, List.forall₂_cons, toLower_eq_iff first, rest]

theorem isSensitive_iff {key : String} : isSensitive key = true ↔ Secret key := by
  have lower : ∀ name ∈ sensitiveKeys, ∀ d ∈ name.toList, ¬ ('A' ≤ d ∧ d ≤ 'Z') := by
    simp [sensitiveKeys]
  have named {name : String} (member : name ∈ sensitiveKeys) :
      key.toLower = name ↔ List.Forall₂ SameLetter key.toList name.toList := by
    have folded : key.toLower.toList = key.toList.map Char.toLower := String.toList_map
    rw [← map_toLower_eq_iff (lower name member), ← String.toList_inj, folded]
  unfold isSensitive Secret
  rw [List.contains_iff_mem]
  constructor
  · intro member
    exact ⟨_, member, (named member).mp rfl⟩
  · rintro ⟨name, member, same⟩
    rw [(named member).mpr same]
    exact member

/-! ### One step down -/

theorem redactItems_eq (done items : List Value) : redactItems done items = done.reverse ++ items.map redact := by
  induction items generalizing done with
  | nil => simp [redactItems]
  | cons item items ih =>
    rw [redactItems, ih]
    simp

theorem redact_array (items : List Value) : redact (.array items) = .array (items.map redact) := by
  rw [redact, redactItems_eq]
  rfl

theorem redact_object (members : List (String × Value)) : redact (.object members) =
    .object (members.map fun m => (m.1, if isSensitive m.1 then .string marker else redact m.2)) := by
  rw [redact, redactMembers_eq]
  rfl

/-- A step leads to a secret. -/
def Conceals : Step → Prop
  | .item _ => False
  | .member _ key => Secret key

open Classical in
theorem part?_redact (v : Value) (step : Step) : (redact v).part? step =
    (v.part? step).map fun part => if Conceals step then .string marker else redact part := by
  cases v with
  | null | bool b | number n | string s => cases step <;> rfl
  | array items =>
    rw [redact_array]
    cases step with
    | item i => simp [Conceals]
    | member i key => rfl
  | object members =>
    rw [redact_object]
    cases step with
    | item i => rfl
    | member i key =>
      rw [part?_member, part?_member, List.getElem?_map]
      cases members[i]? with
      | none => rfl
      | some m =>
        by_cases same : m.1 = key
        · simp [same, Conceals, ← isSensitive_iff]
        · simp [same]

theorem part?_redact_open {step : Step} (shown : ¬ Conceals step) (v : Value) :
    (redact v).part? step = (v.part? step).map redact := by
  rw [part?_redact]
  simp [shown]

theorem part?_redact_secret {step : Step} (conceals : Conceals step) (v : Value) :
    (redact v).part? step = (v.part? step).map fun _ => .string marker := by
  rw [part?_redact]
  simp [conceals]

/-! ### Paths -/

/-- A path on which no secret is passed. -/
def Open (path : List Step) : Prop := ∀ step ∈ path, ¬ Conceals step

variable {path : List Step} {v w : Value}

/-- At an open path stands what stood there, redacted. -/
theorem at?_redact_open (isOpen : Open path) (v : Value) : (redact v).at? path = (v.at? path).map redact := by
  induction path generalizing v with
  | nil => rfl
  | cons step path ih =>
    have shown := isOpen step List.mem_cons_self
    have rest := ih fun other member => isOpen other (List.mem_cons_of_mem step member)
    rw [at?, at?, part?_redact_open shown]
    cases v.part? step with
    | none => rfl
    | some part => exact rest part

/-- Under the key of a secret, at an open path, stands the marker, whatever stood there. -/
theorem at?_redact_secret {step : Step} (isOpen : Open path) (conceals : Conceals step) (v : Value) :
    (redact v).at? (path ++ [step]) = (v.at? (path ++ [step])).map fun _ => .string marker := by
  rw [at?_append, at?_append, at?_redact_open isOpen]
  cases v.at? path with
  | none => rfl
  | some part =>
    show (redact part).at? [step] = (part.at? [step]).map _
    rw [at?_singleton, at?_singleton, part?_redact_secret conceals]

/-- Whatever stands in a redacted value is redacted or the marker. -/
theorem eq_of_at?_redact {y : Value} (there : (redact v).at? path = some y) :
    y = .string marker ∨ ∃ x, y = redact x := by
  induction path generalizing v with
  | nil => exact .inr ⟨v, (Option.some.inj there).symm⟩
  | cons step path ih =>
    rw [at?] at there
    by_cases conceals : Conceals step
    · rw [part?_redact_secret conceals] at there
      cases part : v.part? step with
      | none => simp [part] at there
      | some x =>
        rw [part] at there
        cases path with
        | nil => exact .inl (Option.some.inj there).symm
        | cons next path =>
          -- The marker has no parts.
          cases next <;> cases there
    · rw [part?_redact_open conceals] at there
      cases part : v.part? step with
      | none => simp [part] at there
      | some x =>
        rw [part] at there
        exact ih there

/-- Under the key of a secret nothing but the marker is shown, however deep. -/
theorem eq_marker_of_at?_redact {step : Step} (conceals : Conceals step) {y : Value}
    (there : (redact v).at? (path ++ [step]) = some y) : y = .string marker := by
  rw [at?_append, Option.bind_eq_some_iff] at there
  obtain ⟨around, isAround, isPart⟩ := there
  rw [at?_singleton] at isPart
  rcases eq_of_at?_redact isAround with rfl | ⟨x, rfl⟩
  · cases step <;> cases isPart
  · rw [part?_redact_secret conceals] at isPart
    obtain ⟨_, -, isMarker⟩ := Option.map_eq_some_iff.mp isPart
    exact isMarker.symm

/-! ### Values that differ in their secrets -/

/-- At every open path of a value the other one has a part of the same face. -/
def Agree (v w : Value) : Prop :=
  ∀ path, Open path → ∀ x, v.at? path = some x → ∃ y, w.at? path = some y ∧ SameFace x y

theorem sameFace_redact (v : Value) : SameFace v (redact v) := by
  cases v with
  | null | bool b | number n | string s => exact .same _
  | array items =>
    rw [redact_array]
    exact .array (List.length_map ..).symm
  | object members =>
    rw [redact_object]
    exact .object (by simp [Function.comp_def])

theorem agree_of_redact_eq (same : redact v = redact w) : Agree v w := by
  intro path isOpen x there
  have shown : (w.at? path).map redact = some (redact x) := by
    rw [← at?_redact_open isOpen, ← same, at?_redact_open isOpen, there]
    rfl
  obtain ⟨y, also, alike⟩ := Option.map_eq_some_iff.mp shown
  have face := sameFace_redact x
  rw [← alike] at face
  exact ⟨y, also, face.trans (sameFace_redact y).symm⟩

/-- What agrees agrees in all parts that are shown. -/
theorem Agree.part (agree : Agree v w) {step : Step} (shown : ¬ Conceals step) {x y : Value}
    (isPart : v.part? step = some x) (isOther : w.part? step = some y) : Agree x y := by
  intro path isOpen z there
  have isLonger : Open (step :: path) := by
    intro other member
    rcases List.mem_cons.mp member with rfl | later
    · exact shown
    · exact isOpen other later
  have below := agree (step :: path) isLonger z (by rw [at?, isPart]; exact there)
  rw [at?, isOther] at below
  exact below

theorem redact_eq_of_agree (agree : Agree v w) : redact v = redact w := by
  induction v using Value.induction generalizing w with
  | null | bool b | number n | string s =>
    obtain ⟨_, ⟨⟩, ⟨⟩⟩ := agree [] (by simp [Open]) _ rfl
    rfl
  | array items ih =>
    obtain ⟨_, isRoot, face⟩ := agree [] (by simp [Open]) _ rfl
    cases Option.some.inj isRoot
    cases face with
    | same => rfl
    | @array _ others lengths =>
      rw [redact_array, redact_array]
      refine congrArg Value.array (List.ext_getElem (by simpa using lengths) fun i within also => ?_)
      rw [List.length_map] at within also
      rw [List.getElem_map, List.getElem_map]
      have shown : ¬ Conceals (.item i) := id
      exact ih _ (List.getElem_mem within)
        (agree.part shown (List.getElem?_eq_getElem within) (List.getElem?_eq_getElem also))
  | object members ih =>
    obtain ⟨_, isRoot, face⟩ := agree [] (by simp [Open]) _ rfl
    cases Option.some.inj isRoot
    cases face with
    | same => rfl
    | @object _ others keys =>
      have lengths : members.length = others.length := by simpa using congrArg List.length keys
      rw [redact_object, redact_object]
      refine congrArg Value.object (List.ext_getElem (by simpa using lengths) fun i within also => ?_)
      rw [List.length_map] at within also
      rw [List.getElem_map, List.getElem_map]
      have sameKey : members[i].1 = others[i].1 := by
        have there := congrArg (fun names => names[i]?) keys
        simpa [within, also] using there
      by_cases hidden : isSensitive members[i].1 = true
      · simp [← sameKey, hidden]
      · have shown : ¬ Conceals (.member i members[i].1) := mt isSensitive_iff.mpr hidden
        have isPart : (Value.object members).part? (.member i members[i].1) = some members[i].2 := by simp [within]
        have isOther : (Value.object others).part? (.member i members[i].1) = some others[i].2 := by
          simp [also, sameKey]
        simp [← sameKey, hidden, ih _ (List.getElem_mem within) (agree.part shown isPart isOther)]

/-- Two values show the same exactly if they agree outside their secrets. -/
theorem redact_eq_iff : redact v = redact w ↔ Agree v w := ⟨agree_of_redact_eq, redact_eq_of_agree⟩

theorem redact_redact (v : Value) : redact (redact v) = redact v := by
  induction v using Value.induction with
  | null | bool b | number n | string s => rfl
  | array items ih =>
    rw [redact_array, redact_array, List.map_map]
    exact congrArg Value.array (List.map_congr_left ih)
  | object members ih =>
    rw [redact_object, redact_object, List.map_map]
    refine congrArg Value.object (List.map_congr_left fun m member => ?_)
    by_cases hidden : isSensitive m.1 = true
    · simp [hidden]
    · simp [hidden, ih m member]

theorem Agree.of_redact (v : Value) : Agree v (redact v) ∧ Agree (redact v) v :=
  ⟨redact_eq_iff.mp (redact_redact v).symm, redact_eq_iff.mp (redact_redact v)⟩

/-- Redaction puts the marker under the keys of secrets, whatever stands there and however deep, and changes nothing
else. So to redact twice is to redact once, and of two values the same is shown exactly if they agree outside their
secrets. -/
theorem redact_exact (v : Value) :
    (∀ path i key x, Open path → Secret key → v.at? (path ++ [.member i key]) = some x →
      (redact v).at? (path ++ [.member i key]) = some (.string "***SECRET***")) ∧
    (∀ path i key y, Secret key → (redact v).at? (path ++ [.member i key]) = some y → y = .string "***SECRET***") ∧
    (∀ path, Open path →
      (∀ x, v.at? path = some x → ∃ y, (redact v).at? path = some y ∧ SameFace x y) ∧
      ∀ y, (redact v).at? path = some y → ∃ x, v.at? path = some x ∧ SameFace y x) ∧
    redact (redact v) = redact v ∧
    ∀ w, redact v = redact w ↔ Agree v w := by
  refine ⟨?marked, ?only, ?kept, redact_redact v, fun w => redact_eq_iff⟩
  case marked =>
    intro path i key x isOpen secret there
    have conceals : Conceals (.member i key) := secret
    rw [at?_redact_secret isOpen conceals, there]
    rfl
  case only =>
    intro path i key y secret there
    have conceals : Conceals (.member i key) := secret
    exact eq_marker_of_at?_redact conceals there
  case kept =>
    intro path isOpen
    obtain ⟨shown, nothingElse⟩ := Agree.of_redact v
    exact ⟨shown path isOpen, nothingElse path isOpen⟩

theorem redact_exact_nested :
    let document (token : Value) : Value := .object [("keys", .array [.object [("ToKeN", token)], .null])]
    let place : List Step := [.member 0 "keys", .item 0]
    (Open place ∧ Secret "ToKeN" ∧ (document (.array [])).at? (place ++ [.member 0 "ToKeN"]) = some (.array [])) ∧
    (redact (document (.array []))).at? (place ++ [.member 0 "ToKeN"]) = some (.string "***SECRET***") ∧
    redact (document (.array [])) = redact (document .null) ∧ Agree (document (.array [])) (document .null) := by
  intro document place
  obtain ⟨marked, -, -, -, alike⟩ := redact_exact (document (.array []))
  have plain : isSensitive "keys" = false := by decide +kernel
  have isOpen : Open place := by
    intro step member
    rcases List.mem_cons.mp member with rfl | later
    · exact mt isSensitive_iff.mpr (by simp [plain])
    · rw [List.mem_singleton.mp later]
      exact id
  have secret : Secret "ToKeN" := isSensitive_iff.mp (by decide +kernel)
  have shown (token : Value) : redact (document token) =
      .object [("keys", .array [.object [("ToKeN", .string marker)], .null])] := by
    have hidden : isSensitive "ToKeN" = true := isSensitive_iff.mpr secret
    have null : redact .null = .null := by simp [redact]
    simp [document, redact_object, redact_array, hidden, plain, null]
  have same := (shown (.array [])).trans (shown .null).symm
  exact ⟨⟨isOpen, secret, rfl⟩, marked place 0 "ToKeN" _ isOpen secret rfl, same, (alike _).mp same⟩

end Preview

end Countersign
