import Countersign.Proofs.Agreement

/-!
Which texts carry a public key.

The text of a key is two segments with a comma between them, each the 43 digits of 32 octets. `PublicKey.Misspelled`
lists what can be wrong with a text, one defect a constructor, and says nothing of how texts are read; a text is
misspelled just where no key has it (`PublicKey.misspelled_iff`). Reading gives a key for the key's own text alone
(`PublicKey.ofText_eq_ok_iff`), so every point of the curve has one text, and blames the text in every other case
(`PublicKey.ofText_exact`).
-/

namespace Countersign

namespace Bytes

theorem toNat_lt (b : Bytes) : toNat b < 256 ^ b.length := by
  induction b with
  | nil => simp [toNat]
  | cons x b ih =>
    have digit := x.toNat_lt
    rw [toNat_cons, List.length_cons, Nat.pow_succ]
    calc x.toNat * 256 ^ b.length + toNat b < x.toNat * 256 ^ b.length + 256 ^ b.length := by omega
      _ = (x.toNat + 1) * 256 ^ b.length := (Nat.succ_mul _ _).symm
      _ ≤ 256 * 256 ^ b.length := Nat.mul_le_mul_right _ (by omega)
      _ = 256 ^ b.length * 256 := Nat.mul_comm _ _

theorem toNat_injective {a b : Bytes} (sameLength : a.length = b.length) (same : toNat a = toNat b) : a = b := by
  induction a generalizing b with
  | nil => exact (List.eq_nil_of_length_eq_zero sameLength.symm).symm
  | cons x a ih =>
    cases b with
    | nil => simp at sameLength
    | cons y b =>
      have rest : a.length = b.length := by simpa using sameLength
      rw [toNat_cons, toNat_cons, rest] at same
      have low := toNat_lt a
      rw [rest] at low
      -- The first octet is the quotient by its weight.
      have quotient (z : UInt8) {n : Nat} (n_lt : n < 256 ^ b.length) :
          (z.toNat * 256 ^ b.length + n) / 256 ^ b.length = z.toNat := by
        rw [Nat.mul_comm, Nat.mul_add_div (Nat.pow_pos (by decide)), Nat.div_eq_of_lt n_lt, Nat.add_zero]
      have first : x.toNat = y.toNat := by rw [← quotient x low, same, quotient y (toNat_lt b)]
      rw [first] at same
      rw [UInt8.toNat_inj.mp first, ih rest (Nat.add_left_cancel same)]

theorem ofNat_toNat (b : Bytes) : ofNat b.length (toNat b) = b := by
  obtain ⟨isLength, isNumber⟩ := ofNat_spec b.length (toNat b)
  apply toNat_injective isLength
  rw [isNumber, Nat.mod_eq_of_lt (toNat_lt b)]

end Bytes

open P256 (Coordinate OnCurve Point)

namespace PublicKey

/-- The text of one coordinate. -/
def segment (x : Coordinate) : List Char := (Base64.encode .urlSafe (P256.Coordinate.toBytes x)).toList

/-- A segment of a text that carries no key, or the text itself, by what is wrong with it. -/
inductive Misspelled (s : String) : Prop
  /-- There is no comma, or more than one. -/
  | commas (wrong : s.toList.count ',' ≠ 1)
  /-- There is a character of another alphabet, or padding. -/
  | alphabet {c : Char} (member : c ∈ s.toList) (notComma : c ≠ ',')
      (noDigit : ∀ n < 64, Base64.Alphabet.digit .urlSafe n ≠ c)
  /-- A segment has not the digits of 32 octets. -/
  | length {part : List Char} (isPart : part ∈ Text.parts ',' s.toList) (wrong : part.length ≠ 43)
  /-- The last digit of a segment has a bit set that belongs to no octet. -/
  | spare {part : List Char} {n : Nat} (isPart : part ∈ Text.parts ',' s.toList) (n_lt : n < 64)
      (isLast : part.getLast? = some (Base64.Alphabet.digit .urlSafe n)) (set : n % 4 ≠ 0)
  /-- A coordinate is not below the size of the field. -/
  | large {b : Bytes} (isPart : (Base64.encode .urlSafe b).toList ∈ Text.parts ',' s.toList)
      (isLength : b.length = 32) (large : P256.prime ≤ b.toNat)
  /-- The point is not on the curve. -/
  | offCurve {x y : Coordinate} (parts : Text.parts ',' s.toList = [segment x, segment y]) (off : ¬ OnCurve x y)

theorem length_segment (x : Coordinate) : (segment x).length = 43 := by
  rw [segment, Base64.length_encode, (P256.Coordinate.toBytes_spec x).1]

theorem comma_not_mem_segment (x : Coordinate) : ',' ∉ segment x :=
  fun member => Base64.all_encode .urlSafe (p := (· ≠ ',')) (by decide) member rfl

theorem encode_eq_segment {b : Bytes} {x : Coordinate} :
    (Base64.encode .urlSafe b).toList = segment x ↔ b = P256.Coordinate.toBytes x := by
  constructor
  · intro same
    exact Base64.encode_injective .urlSafe (String.toList_injective same)
  · rintro rfl
    rfl

theorem segment_injective {x y : Coordinate} (same : segment x = segment y) : x = y := by
  have octets := encode_eq_segment.mp same
  apply Fin.ext
  rw [← (P256.Coordinate.toBytes_spec x).2, octets, (P256.Coordinate.toBytes_spec y).2]

theorem toList_toText (k : PublicKey) : k.toText.toList = segment k.x ++ ',' :: segment k.y := by
  simp [toText, segment]

theorem parts_toText (k : PublicKey) : Text.parts ',' k.toText.toList = [segment k.x, segment k.y] := by
  rw [toList_toText, Text.parts_append_cons (comma_not_mem_segment _), Text.parts_of_not_mem (comma_not_mem_segment _)]

/-- A key's own text has no defect. -/
theorem not_misspelled (k : PublicKey) : ¬ Misspelled k.toText := by
  have isSegment {part : List Char} (isPart : part ∈ Text.parts ',' k.toText.toList) : ∃ x, part = segment x := by
    rw [parts_toText] at isPart
    rcases List.mem_pair.mp isPart with rfl | rfl
    · exact ⟨k.x, rfl⟩
    · exact ⟨k.y, rfl⟩
  intro misspelled
  cases misspelled with
  | commas wrong =>
    apply wrong
    simp [toList_toText, List.count_eq_zero.mpr (comma_not_mem_segment _)]
  | @alphabet c member notComma noDigit =>
    have digits {x : Coordinate} (inside : c ∈ segment x) : False := by
      obtain ⟨n, n_lt, isDigit⟩ := (Base64.spelled_encode _).digits c inside
      exact noDigit n n_lt isDigit
    rw [toList_toText] at member
    rcases List.mem_append.mp member with first | later
    · exact digits first
    · exact digits ((List.mem_cons.mp later).resolve_left notComma)
  | length isPart wrong =>
    obtain ⟨x, rfl⟩ := isSegment isPart
    exact wrong (length_segment x)
  | @spare _ n isPart n_lt isLast set =>
    obtain ⟨x, rfl⟩ := isSegment isPart
    have unused := (Base64.spelled_encode _).last n n_lt isLast
    rw [show (Base64.encode .urlSafe _).toList.length = 43 from length_segment x] at unused
    exact set unused
  | large isPart isLength large =>
    obtain ⟨x, same⟩ := isSegment isPart
    rw [encode_eq_segment.mp same, (P256.Coordinate.toBytes_spec x).2] at large
    exact absurd x.isLt (Nat.not_lt.mpr large)
  | offCurve parts off =>
    rw [parts_toText] at parts
    simp only [List.cons.injEq, and_true] at parts
    rw [← segment_injective parts.1, ← segment_injective parts.2] at off
    exact off k.onCurve

/-- A segment without defects is that of a coordinate. -/
theorem exists_coordinate {s : String} (sound : ¬ Misspelled s) {part : List Char}
    (isPart : part ∈ Text.parts ',' s.toList) (inside : ∀ c ∈ part, c ∈ s.toList) : ∃ x, segment x = part := by
  have length : part.length = 43 := by
    by_contra wrong
    exact sound (.length isPart wrong)
  have spelled : Base64.Spelled .urlSafe part := by
    refine ⟨fun c member => ?_, by simp [length], fun n n_lt isLast => ?_⟩
    · by_contra none
      push Not at none
      refine sound (.alphabet (inside c member) ?_ none)
      rintro rfl
      exact Text.not_mem_of_mem_parts isPart member
    · rw [length]
      by_contra set
      exact sound (.spare isPart n_lt isLast set)
  rw [← String.toList_ofList (l := part), ← Base64.decode?_isSome_iff] at spelled
  obtain ⟨b, read⟩ := Option.isSome_iff_exists.mp spelled
  have written : (Base64.encode .urlSafe b).toList = part := Base64.decode?_ofList_eq_some_iff.mp read
  have octets : b.length = 32 := by
    have digits := Base64.length_encode .urlSafe b
    rw [written, length] at digits
    omega
  have small : b.toNat < P256.prime := by
    by_contra large
    exact sound (.large (written ▸ isPart) octets (Nat.not_lt.mp large))
  refine ⟨⟨b.toNat, small⟩, written ▸ (encode_eq_segment.mpr ?_).symm⟩
  rw [P256.Coordinate.toBytes, ← octets, Bytes.ofNat_toNat]

theorem misspelled_iff (s : String) : Misspelled s ↔ ∀ k : PublicKey, k.toText ≠ s := by
  constructor
  · rintro misspelled k rfl
    exact not_misspelled k misspelled
  · intro none
    by_contra sound
    have one : s.toList.count ',' = 1 := by
      by_contra wrong
      exact sound (.commas wrong)
    obtain ⟨first, second, isText⟩ := List.append_of_mem (List.count_pos_iff.mp (by omega : 0 < s.toList.count ','))
    have apart : ',' ∉ first ∧ ',' ∉ second := by
      rw [isText, List.count_append, List.count_cons_self] at one
      constructor <;> rw [← List.count_eq_zero] <;> omega
    have parts : Text.parts ',' s.toList = [first, second] := by
      rw [isText, Text.parts_append_cons apart.1, Text.parts_of_not_mem apart.2]
    obtain ⟨x, rfl⟩ := exists_coordinate sound (show first ∈ _ by simp [parts]) fun c member => by
      rw [isText]
      exact List.mem_append_left _ member
    obtain ⟨y, rfl⟩ := exists_coordinate sound (show second ∈ _ by simp [parts]) fun c member => by
      rw [isText]
      exact List.mem_append_right _ (List.mem_cons_of_mem _ member)
    have onCurve : OnCurve x y := by
      by_contra off
      exact sound (.offCurve parts off)
    apply none ⟨x, y, onCurve⟩
    apply String.toList_injective
    rw [toList_toText, isText]

theorem coordinate_eq_ok_iff {part : List Char} {x : Nat} (x_lt : x < P256.prime) :
    coordinate part = .ok x ↔ segment ⟨x, x_lt⟩ = part := by
  constructor
  · intro read
    unfold coordinate at read
    split at read
    · cases read
    next b isBytes =>
      split at read
      next isLength =>
        obtain rfl : b.toNat = x := Except.ok.inj read
        have octets : P256.Coordinate.toBytes ⟨b.toNat, x_lt⟩ = b := by
          rw [P256.Coordinate.toBytes, ← isLength, Bytes.ofNat_toNat]
        rw [segment, octets, Base64.decode?_ofList_eq_some_iff.mp isBytes]
      · cases read
  · rintro rfl
    exact coordinate_encode ⟨x, x_lt⟩

theorem coordinate_ne_degenerate (part : List Char) : coordinate part ≠ .error .degenerate := by
  unfold coordinate
  split
  · simp
  · split <;> simp

/-- What reading comes to: a key whose text it is, or an error that blames the text. -/
def Read (s : String) : Except KeyExchangeError PublicKey → Prop
  | .ok k => k.toText = s
  | .error e => e ≠ .degenerate

theorem read_ofText (s : String) : Read s (ofText s) := by
  unfold ofText
  split
  · simp [Read]
  next first second cut =>
    have isText := (Text.eq_of_cut? cut).1
    cases isX : coordinate first with
    | error e =>
      rintro rfl
      exact coordinate_ne_degenerate first isX
    | ok x =>
      cases isY : coordinate second with
      | error e =>
        rintro rfl
        exact coordinate_ne_degenerate second isY
      | ok y =>
        show Read s (if small : x < P256.prime ∧ y < P256.prime then _ else _)
        by_cases small : x < P256.prime ∧ y < P256.prime
        · rw [dif_pos small]
          by_cases onCurve : OnCurve ⟨x, small.1⟩ ⟨y, small.2⟩
          · have isKey : ofPoint? (.affine ⟨x, small.1⟩ ⟨y, small.2⟩) = some ⟨_, _, onCurve⟩ := dif_pos onCurve
            rw [isKey]
            apply String.toList_injective
            rw [toList_toText, isText, (coordinate_eq_ok_iff small.1).mp isX, (coordinate_eq_ok_iff small.2).mp isY]
          · have noKey : ofPoint? (.affine ⟨x, small.1⟩ ⟨y, small.2⟩) = none := dif_neg onCurve
            simp [noKey, Read]
        · simp [small, Read]

/-- Only a key's own text is read, and as that key. -/
theorem ofText_eq_ok_iff {s : String} {k : PublicKey} : ofText s = .ok k ↔ k.toText = s := by
  constructor
  · intro read
    have outcome := read_ofText s
    rwa [read] at outcome
  · rintro rfl
    exact ofText_toText k

theorem message_of_ne_degenerate {e : KeyExchangeError} (blames : e ≠ .degenerate) :
    ∃ detail, e.message = "invalid public key format: " ++ detail := by
  cases e with
  | missingComma => exact ⟨"expected two comma-separated coordinates", by decide⟩
  | notBase64 => exact ⟨"coordinate is not base64url", by decide⟩
  | wrongLength => exact ⟨"coordinate must be 32 bytes", by decide⟩
  | offCurve => exact ⟨"point is not on the curve", by decide⟩
  | degenerate => exact absurd rfl blames

/-- Texts and keys determine each other: a key is read from its own text and from no other, every point of the curve has
one text, and a text without a key, whatever is wrong with it, is refused for its format. -/
theorem ofText_exact :
    (∀ (s : String) (k : PublicKey), ofText s = .ok k ↔ k.toText = s) ∧
      (∀ x y : Coordinate, OnCurve x y ↔ ∃! s, ∃ k, ofText s = .ok k ∧ k.point = .affine x y) ∧
      ∀ s : String, (¬ Misspelled s ∧ ∃ k : PublicKey, k.toText = s) ∨
        (Misspelled s ∧ (∀ k : PublicKey, k.toText ≠ s) ∧ ∃ e detail, ofText s = .error e ∧ e ≠ .degenerate ∧
          e.message = "invalid public key format: " ++ detail) := by
  refine ⟨fun s k => ofText_eq_ok_iff, fun x y => ⟨fun onCurve => ?_, ?_⟩, fun s => ?_⟩
  · refine ⟨toText ⟨x, y, onCurve⟩, ⟨⟨x, y, onCurve⟩, ofText_toText _, rfl⟩, ?_⟩
    rintro s ⟨⟨u, v, _⟩, read, isPoint⟩
    obtain ⟨rfl, rfl⟩ := Point.affine.inj isPoint
    exact (ofText_eq_ok_iff.mp read).symm
  · rintro ⟨s, ⟨⟨u, v, onCurve⟩, -, isPoint⟩, -⟩
    obtain ⟨rfl, rfl⟩ := Point.affine.inj isPoint
    exact onCurve
  · cases read : ofText s with
    | ok k =>
      have isText := ofText_eq_ok_iff.mp read
      exact .inl ⟨isText ▸ not_misspelled k, k, isText⟩
    | error e =>
      have blames : e ≠ .degenerate := by
        have outcome := read_ofText s
        rwa [read] at outcome
      have none (k : PublicKey) : k.toText ≠ s := by
        intro isText
        rw [ofText_eq_ok_iff.mpr isText] at read
        cases read
      obtain ⟨detail, isMessage⟩ := message_of_ne_degenerate blames
      exact .inr ⟨(misspelled_iff s).mpr none, none, e, detail, rfl, blames, isMessage⟩

end PublicKey

end Countersign
