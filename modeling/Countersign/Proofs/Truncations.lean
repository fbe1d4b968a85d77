import Countersign.Proofs.Dates
import Countersign.Proofs.Previews
import Countersign.Proofs.Signing
import Countersign.Proofs.Sizes

/-!
How long a preview is, and where it is cut.

A text that is too long is cut to its longest beginning of whole characters for which there is room (`Preview.Cut`). As
no character takes more than four octets, at most three octets of room are left, and the cut is found within three steps
back from the limit (`Preview.Cut.nearly_full`, `Preview.Cut.not_boundary`). What is no value is shown by its length.
-/

namespace Countersign

theorem Bytes.length_ofText (s : String) : (ofText s).length = s.utf8ByteSize :=
  Array.length_toList

namespace Preview

open Json (Value)

/-! ### The octets of characters -/

theorem utf8ByteSize_ofList_cons (c : Char) (s : List Char) :
    (String.ofList (c :: s)).utf8ByteSize = c.utf8Size + (String.ofList s).utf8ByteSize := by
  have split : String.ofList (c :: s) = String.singleton c ++ String.ofList s := by
    rw [← String.toList_inj]
    simp
  rw [split, String.utf8ByteSize_append, String.utf8ByteSize_singleton]

theorem takeOctets_prefix (room : Nat) (s : List Char) : takeOctets room s <+: s := by
  induction s generalizing room with
  | nil => exact List.nil_prefix
  | cons c s ih =>
    rw [takeOctets]
    by_cases fits : c.utf8Size ≤ room
    · rw [if_pos fits]
      exact (List.prefix_cons_inj c).mpr (ih _)
    · rw [if_neg fits]
      exact List.nil_prefix

theorem takeOctets_fits (room : Nat) (s : List Char) : (String.ofList (takeOctets room s)).utf8ByteSize ≤ room := by
  induction s generalizing room with
  | nil => exact Nat.zero_le room
  | cons c s ih =>
    rw [takeOctets]
    by_cases fits : c.utf8Size ≤ room
    · have rest := ih (room - c.utf8Size)
      rw [if_pos fits, utf8ByteSize_ofList_cons]
      omega
    · rw [if_neg fits]
      exact Nat.zero_le room

/-- Whatever begins a text and for which there is room is taken. -/
theorem prefix_takeOctets {room : Nat} {p s : List Char} (begins : p <+: s)
    (fits : (String.ofList p).utf8ByteSize ≤ room) : p <+: takeOctets room s := by
  induction s generalizing room p with
  | nil => rwa [takeOctets]
  | cons c s ih =>
    cases p with
    | nil => exact List.nil_prefix
    | cons d p =>
      obtain ⟨rfl, rest⟩ := List.cons_prefix_cons.mp begins
      rw [utf8ByteSize_ofList_cons] at fits
      rw [takeOctets, if_pos (by omega)]
      exact (List.prefix_cons_inj d).mpr (ih rest (by omega))

/-! ### The cut -/

/-- The longest beginning of whole characters that takes at most so many octets. -/
structure Cut (room : Nat) (s p : String) : Prop where
  begins : ∃ rest, s = p ++ rest
  fits : p.utf8ByteSize ≤ room
  longest : ∀ q rest, s = q ++ rest → q.utf8ByteSize ≤ room → ∃ more, p = q ++ more

theorem begins_iff {p s : String} : (∃ rest, s = p ++ rest) ↔ p.toList <+: s.toList := by
  constructor
  · rintro ⟨rest, rfl⟩
    rw [String.toList_append]
    exact List.prefix_append ..
  · rintro ⟨rest, isRest⟩
    refine ⟨String.ofList rest, ?_⟩
    rw [← String.toList_inj, String.toList_append, String.toList_ofList, isRest]

theorem cut_takeOctets (room : Nat) (s : String) : Cut room s (String.ofList (takeOctets room s.toList)) where
  begins := begins_iff.mpr (by simpa using takeOctets_prefix room s.toList)
  fits := takeOctets_fits ..
  longest := by
    intro q rest isRest fits
    refine begins_iff.mpr ?_
    rw [String.toList_ofList]
    apply prefix_takeOctets (begins_iff.mp ⟨rest, isRest⟩)
    rwa [String.ofList_toList]

namespace Cut

variable {room : Nat} {s p : String}

/-- No beginning for which there is room is longer. -/
theorem size_le (cut : Cut room s p) {q rest : String} (begins : s = q ++ rest) (fits : q.utf8ByteSize ≤ room) :
    q.utf8ByteSize ≤ p.utf8ByteSize := by
  obtain ⟨more, rfl⟩ := cut.longest q rest begins fits
  rw [String.utf8ByteSize_append]
  exact Nat.le_add_right ..

/-- There is no room for one more character, which takes four octets at most. -/
theorem nearly_full (cut : Cut room s p) (long : room < s.utf8ByteSize) : room ≤ p.utf8ByteSize + 3 := by
  obtain ⟨rest, isRest⟩ := cut.begins
  have fits := cut.fits
  cases chars : rest.toList with
  | nil =>
    have empty : rest = "" := by simpa using chars
    rw [isRest, empty, String.append_empty] at long
    omega
  | cons c others =>
    have isLonger : s = p ++ String.singleton c ++ String.ofList others := by
      rw [isRest, ← String.toList_inj]
      simp [chars]
    have small := c.utf8Size_le_four
    have size : (p ++ String.singleton c).utf8ByteSize = p.utf8ByteSize + c.utf8Size := by
      rw [String.utf8ByteSize_append, String.utf8ByteSize_singleton]
    by_contra roomy
    have notLonger := cut.size_le isLonger (by omega)
    have positive := c.utf8Size_pos
    omega

theorem boundary (cut : Cut room s p) : String.Pos.Raw.IsValid s ⟨p.utf8ByteSize⟩ := by
  obtain ⟨rest, isRest⟩ := cut.begins
  exact String.Pos.Raw.isValid_iff_exists_append.mpr ⟨p, rest, isRest, rfl⟩

/-- Between the cut and the limit no character ends. -/
theorem not_boundary (cut : Cut room s p) {n : Nat} (after : p.utf8ByteSize < n) (within : n ≤ room) :
    ¬ String.Pos.Raw.IsValid s ⟨n⟩ := by
  intro valid
  obtain ⟨q, rest, isRest, isEnd⟩ := String.Pos.Raw.isValid_iff_exists_append.mp valid
  have size : n = q.utf8ByteSize := congrArg String.Pos.Raw.byteIdx isEnd
  have notLonger := cut.size_le isRest (by omega)
  omega

end Cut

/-! ### Previews -/

theorem bounded_of_short {s : String} (short : s.utf8ByteSize ≤ 8192) : bounded s = s := if_pos short

theorem bounded_of_long {s : String} (long : 8192 < s.utf8ByteSize) : ∃ p, bounded s = p ++ "..." ∧ Cut 8192 s p :=
  ⟨_, if_neg (Nat.not_le.mpr long), cut_takeOctets ..⟩

theorem bounded_size (s : String) : (bounded s).utf8ByteSize ≤ 8195 := by
  by_cases short : s.utf8ByteSize ≤ 8192
  · rw [bounded_of_short short]
    omega
  · obtain ⟨p, isCut, cut⟩ := bounded_of_long (Nat.not_le.mp short)
    have fits := cut.fits
    have dots : "...".utf8ByteSize = 3 := rfl
    rw [isCut, String.utf8ByteSize_append]
    omega

/-- The decimal text of a word has at most twenty digits. -/
theorem ofNat_size {n : Nat} (small : n < 2 ^ 64) : (Text.ofNat n).utf8ByteSize ≤ 20 := by
  have ascii : ∀ c ∈ (Text.ofNat n).toList, c.toNat < 128 := by
    intro c member
    have digit := Text.range_of_isDigit (Text.isDigit_of_mem_natDigits (by simpa [Text.ofNat] using member))
    omega
  have few : (Text.natDigits n).length ≤ 20 := Text.length_natDigits (by decide) (by omega)
  rw [← Bytes.length_ofText, Bytes.ofText_of_ascii ascii, List.length_map]
  simpa [Text.ofNat] using few

theorem ofBody_size {body : Bytes} (small : body.length < 2 ^ 64) : (ofBody body).utf8ByteSize ≤ 8195 := by
  by_cases isBody : body = []
  · subst isBody
    exact Nat.zero_le _
  · cases read : Value.read? body with
    | some v =>
      rw [ofBody_of_some isBody read]
      exact bounded_size _
    | none =>
      have digits := ofNat_size small
      have around : "<".utf8ByteSize = 1 ∧ " bytes, not JSON>".utf8ByteSize = 17 := ⟨rfl, rfl⟩
      rw [ofBody_of_none isBody read, String.utf8ByteSize_append, String.utf8ByteSize_append]
      omega

theorem ne_of_read {body : Bytes} {v : Value} (read : Value.read? body = some v) : body ≠ [] := by
  rintro rfl
  have nothing : Value.read? [] = none := rfl
  rw [nothing] at read
  cases read

/-- The text of a string is read as this string. -/
theorem read?_string (s : String) : Value.read? (Bytes.ofText (Value.string s).write) = some (.string s) := by
  have tree : Json.Node.read? (Bytes.ofText (Value.string s).write) = some (.string (Json.rawOf s)) := Value.read?_write rfl
  rw [Value.read?, tree, Option.bind_some, Value.ofNode?, Json.Quoted.decode?_raw]
  rfl

/-- A preview is a text of at most 8195 octets, if the length of the body is a word. That of a value is the value's text
without secrets, as long as it has at most 8192 octets. A longer one is cut back from there to the end of a character,
which takes at most three steps, and dots follow. Of what is no value only the length is told. -/
theorem ofBody_bounded (body : Bytes) :
    (body.length < 2 ^ 64 → (Bytes.ofText (ofBody body)).length ≤ 8195) ∧
    Bytes.toText? (Bytes.ofText (ofBody body)) = some (ofBody body) ∧
    (∀ v text, Value.read? body = some v → (redact v).write = text →
      (text.utf8ByteSize ≤ 8192 → ofBody body = text) ∧
      (8192 < text.utf8ByteSize → ∃ p, ofBody body = p ++ "..." ∧ Cut 8192 text p ∧
        8189 ≤ p.utf8ByteSize ∧ String.Pos.Raw.IsValid text ⟨p.utf8ByteSize⟩ ∧
        ∀ n, p.utf8ByteSize < n → n ≤ 8192 → ¬ String.Pos.Raw.IsValid text ⟨n⟩)) ∧
    ∀ other, body ≠ [] → other ≠ [] → Value.read? body = none → Value.read? other = none →
      body.length = other.length → ofBody body = ofBody other := by
  refine ⟨fun small => ?_, Bytes.toText?_ofText _, ?valued, ?valueless⟩
  · rw [Bytes.length_ofText]
    exact ofBody_size small
  case valued =>
    rintro v text read rfl
    rw [ofBody_of_some (ne_of_read read) read]
    refine ⟨bounded_of_short, fun long => ?_⟩
    obtain ⟨p, isCut, cut⟩ := bounded_of_long long
    have full := cut.nearly_full long
    exact ⟨p, isCut, cut, by omega, cut.boundary, fun n => cut.not_boundary⟩
  case valueless =>
    intro other isBody isOther none otherNone same
    rw [ofBody_of_none isBody none, ofBody_of_none isOther otherNone, same]

theorem ofBody_bounded_accents :
    let s := String.ofList (List.replicate 9000 '\u00e9')
    let body := Bytes.ofText (Value.string s).write
    let bare := Bytes.ofText "abc"
    let other := Bytes.ofText "[1,"
    (bare.length < 2 ^ 64 ∧ (Bytes.ofText (ofBody bare)).length ≤ 8195) ∧
    (Value.read? body = some (.string s) ∧ 8192 < (Value.string s).write.utf8ByteSize ∧
      ∃ p, ofBody body = p ++ "..." ∧ 8189 ≤ p.utf8ByteSize) ∧
    (Value.read? bare = none ∧ Value.read? other = none ∧ ofBody bare = ofBody other) := by
  intro s body bare other
  have small : bare.length < 2 ^ 64 := by decide
  have unread : Value.read? bare = none := by decide +kernel
  have otherUnread : Value.read? other = none := by decide +kernel
  have long : 8192 < (Value.string s).write.utf8ByteSize := by
    have chars : s.toList.length = 9000 := by
      rw [String.toList_ofList]
      exact List.length_replicate
    have octets := Json.length_le_rawOf s
    rw [← Bytes.length_ofText, Value.write, Value.writeOnto, Json.length_writeOnto]
    omega
  have plain : redact (.string s) = .string s := by simp [redact]
  obtain ⟨-, -, valued, -⟩ := ofBody_bounded body
  obtain ⟨p, isCut, -, full, -⟩ := (valued _ _ (read?_string s) (congrArg Value.write plain)).2 long
  exact ⟨⟨small, (ofBody_bounded bare).1 small⟩, ⟨read?_string s, long, p, isCut, full⟩, unread,
    otherUnread, (ofBody_bounded bare).2.2.2 other (by decide) (by decide) unread otherUnread rfl⟩

end Preview

end Countersign
