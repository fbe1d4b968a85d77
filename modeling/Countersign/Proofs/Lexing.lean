import Countersign.Json.Value
import Countersign.Proofs.Texts

/-!
How the machine that finds tokens goes on from where it stands.

What it has found before makes no difference to what it finds next (`Lexing.steps_onto`), so a text can be taken apart
between its tokens. The written form of a text, in quotes, is one token (`isString_raw`), from which the text reads back
(`Quoted.decode?_raw`).
-/

namespace Countersign.Json

/-- What a machine comes to by one step for each item of a list. -/
def steps {σ τ : Type} (step : σ → τ → Option σ) (s : σ) (items : List τ) : Option σ :=
  items.foldl (fun s item => s.bind fun s => step s item) (some s)

section

variable {σ τ : Type} (step : σ → τ → Option σ) (s : σ)

@[simp] theorem steps_nil : steps step s [] = some s := rfl

@[simp] theorem steps_cons (item : τ) (items : List τ) :
    steps step s (item :: items) = (step s item).bind (steps step · items) := by
  unfold steps
  rw [List.foldl_cons, Option.bind_some]
  cases step s item with
  | some next => rfl
  | none =>
    induction items with
    | nil => rfl
    | cons item items ih => exact ih

theorem steps_append (items more : List τ) :
    steps step s (items ++ more) = (steps step s items).bind (steps step · more) := by
  induction items generalizing s with
  | nil => rfl
  | cons item items ih =>
    rw [List.cons_append, steps_cons, steps_cons]
    cases step s item with
    | none => rfl
    | some next => exact ih next

end

namespace Token

namespace Lexing

/-- The tokens of a text that goes on from here to its end. -/
def scan (s : Lexing) (text : Bytes) : Option (List Token) := (steps step s text).bind finish

/-- The machine with more tokens found before. -/
def onto (s : Lexing) (older : List Token) : Lexing := { s with found := s.found ++ older }

theorem scan_append {s t : Lexing} {text : Bytes} (leads : steps step s text = some t) (more : Bytes) :
    s.scan (text ++ more) = t.scan more := by
  unfold scan
  rw [steps_append, leads, Option.bind_some]

theorem begin_onto (found older : List Token) (b : UInt8) :
    begin (found ++ older) b = (begin found b).map (·.onto older) := by
  unfold begin
  split
  · rfl
  split
  · rfl
  split
  · rfl
  · cases ofOctet? b <;> rfl

theorem step_onto (s : Lexing) (older : List Token) (b : UInt8) :
    (s.onto older).step b = (s.step b).map (·.onto older) := by
  obtain ⟨found, mode⟩ := s
  cases mode with
  | between => exact begin_onto found older b
  | run read =>
    unfold step onto
    dsimp only
    split
    · rfl
    · cases ofRun? read.reverse with
      | none => rfl
      | some t => exact begin_onto (t :: found) older b
  | string raw =>
    unfold step onto
    dsimp only
    split
    · rfl
    split
    · rfl
    split <;> rfl
  | escape raw =>
    unfold step onto
    dsimp only
    split
    · rfl
    split <;> rfl
  | unicode raw owed =>
    unfold step onto
    dsimp only
    split
    · cases owed <;> rfl
    · rfl

/-- Tokens that have been found already change nothing. -/
theorem steps_onto (s : Lexing) (older : List Token) (text : Bytes) :
    steps step (s.onto older) text = (steps step s text).map (·.onto older) := by
  induction text generalizing s with
  | nil => rfl
  | cons b text ih =>
    rw [steps_cons, steps_cons, step_onto]
    cases s.step b with
    | none => rfl
    | some next => exact ih next

theorem scan_onto (s : Lexing) (older : List Token) (text : Bytes) :
    (s.onto older).scan text = (s.scan text).map (older.reverse ++ ·) := by
  unfold scan
  rw [steps_onto]
  cases steps step s text with
  | none => rfl
  | some last =>
    obtain ⟨found, mode⟩ := last
    cases mode with
    | run read =>
      show Option.map _ _ = Option.map _ (Option.map _ _)
      cases ofRun? read.reverse with
      | none => rfl
      | some t => simp [onto]
    | between => simp [onto, finish]
    | _ => rfl

end Lexing

/-! ### Strings -/

/-- What stands in the text for a string. -/
def quoted (raw : Bytes) : Bytes := octet '"' :: (raw ++ [octet '"'])

/-- Whether octets can stand between the quotes of a string. -/
def IsString (raw : Bytes) : Prop :=
  steps Lexing.step ⟨[], .between⟩ (quoted raw) = some ⟨[.string raw], .between⟩

theorem IsString.steps {raw : Bytes} (isString : IsString raw) (found : List Token) :
    Json.steps Lexing.step ⟨found, .between⟩ (quoted raw) = some ⟨.string raw :: found, .between⟩ := by
  have onto := Lexing.steps_onto ⟨[], .between⟩ found (quoted raw)
  rw [isString] at onto
  exact onto

theorem octets_ascii {c : Char} (ascii : c.toNat < 128) :
    String.utf8EncodeChar c = [octet c] ∧ (octet c).toNat = c.toNat := by
  have single : c.utf8Size = 1 := by
    rw [Char.utf8Size_eq_one_iff, UInt32.le_iff_toNat_le]
    exact Nat.le_of_lt_succ ascii
  refine ⟨String.utf8EncodeChar_eq_singleton single, ?_⟩
  show c.val.toUInt8.toNat = c.val.toNat
  rw [UInt32.toNat_toUInt8]
  exact Nat.mod_eq_of_lt (Nat.lt_trans ascii (by decide))

/-- The octets of a character: one, or several beyond ASCII. -/
theorem octets_cases (c : Char) : (String.utf8EncodeChar c = [octet c] ∧ (octet c).toNat = c.toNat) ∨
    ∀ b ∈ String.utf8EncodeChar c, 128 ≤ b.toNat := by
  by_cases ascii : c.toNat < 128
  · exact .inl (octets_ascii ascii)
  · right
    have many : ¬ c.val.toNat ≤ 127 := fun few => ascii (Nat.lt_succ_of_le few)
    have high (k : Nat) {n m : Nat} (fits : n + m ≤ 256) (marked : 128 ≤ m) (positive : 0 < n) :
        128 ≤ (UInt8.ofNat (k % n + m)).toNat := by
      have small := Nat.mod_lt k positive
      rw [UInt8.toNat_ofNat', Nat.mod_eq_of_lt (by omega)]
      omega
    intro b member
    unfold String.utf8EncodeChar at member
    dsimp only at member
    rw [if_neg many] at member
    split at member
    · simp only [List.mem_cons, List.not_mem_nil, or_false] at member
      rcases member with rfl | rfl <;> exact high _ (by decide) (by decide) (by decide)
    split at member
    · simp only [List.mem_cons, List.not_mem_nil, or_false] at member
      rcases member with rfl | rfl | rfl <;> exact high _ (by decide) (by decide) (by decide)
    · simp only [List.mem_cons, List.not_mem_nil, or_false] at member
      rcases member with rfl | rfl | rfl | rfl <;> exact high _ (by decide) (by decide) (by decide)

/-- What a machine reads inside a string stands in the string. -/
def Reads (piece : Bytes) : Prop :=
  ∀ found raw, Json.steps Lexing.step ⟨found, .string raw⟩ piece = some ⟨found, .string (piece.reverse ++ raw)⟩

theorem Reads.append {piece more : Bytes} (reads : Reads piece) (readsMore : Reads more) : Reads (piece ++ more) := by
  intro found raw
  rw [steps_append, reads, Option.bind_some, readsMore, List.reverse_append, List.append_assoc]

theorem reads_of_all {piece : Bytes} (all : ∀ b ∈ piece, b ≠ octet '"' ∧ b ≠ octet '\\' ∧ 32 ≤ b.toNat) :
    Reads piece := by
  induction piece with
  | nil => exact fun found raw => rfl
  | cons b piece ih =>
    obtain ⟨notQuote, notBackslash, printable⟩ := all b List.mem_cons_self
    have step (found : List Token) (raw : Bytes) :
        Lexing.step ⟨found, .string raw⟩ b = some ⟨found, .string (b :: raw)⟩ := by
      have notControl : ¬ b < 32 := by
        rw [UInt8.lt_iff_toNat_lt]
        exact Nat.not_lt.mpr printable
      unfold Lexing.step
      dsimp only
      rw [if_neg (by simpa using notQuote), if_neg (by simpa using notBackslash), if_neg notControl]
    intro found raw
    rw [steps_cons, step, Option.bind_some, ih fun c member => all c (List.mem_cons_of_mem b member)]
    simp

theorem octets_of_shortEscape? {letter c : Char} (isLetter : Quoted.shortEscape? letter = some c) :
    String.utf8EncodeChar letter = [octet letter] ∧ octet letter ≠ octet 'u' ∧ isShortEscape (octet letter) = true := by
  unfold Quoted.shortEscape? at isLetter
  split at isLetter
  all_goals first | decide | cases isLetter

theorem octets_of_hexValue? {c : Char} {n : Nat} (isDigit : Bytes.hexValue? c = some n) :
    String.utf8EncodeChar c = [octet c] ∧ isHexOctet (octet c) = true := by
  have ascii : c.toNat < 128 := by
    unfold Bytes.hexValue? at isDigit
    split at isDigit
    next digit =>
      simp only [Char.isDigit, Bool.and_eq_true, decide_eq_true_eq] at digit
      have := digit.2
      rw [UInt32.le_iff_toNat_le] at this
      exact Nat.lt_of_le_of_lt this (by decide)
    split at isDigit
    next lower => exact Nat.lt_of_le_of_lt (Char.le_def.mp lower.2) (by decide)
    split at isDigit
    next upper => exact Nat.lt_of_le_of_lt (Char.le_def.mp upper.2) (by decide)
    · cases isDigit
  obtain ⟨single, same⟩ := octets_ascii ascii
  refine ⟨single, ?_⟩
  unfold isHexOctet
  rw [same, Char.ofNat_toNat, isDigit]
  rfl

theorem escape_begins (found : List Token) (raw : Bytes) : Lexing.step ⟨found, .string raw⟩ (octet '\\') =
    some ⟨found, .escape (octet '\\' :: raw)⟩ := rfl

/-- What stands for a character between quotes is read. -/
theorem reads_escape (c : Char) : Reads ((Quoted.escape c).flatMap String.utf8EncodeChar) := by
  rcases Quoted.escape_cases c with ⟨isC, notQuote, notBackslash, printable⟩ | ⟨letter, isC, notCode, isLetter⟩ |
    ⟨high, low, isC, isCode⟩
  · rw [isC, List.flatMap_singleton]
    refine reads_of_all fun b member => ?_
    rcases octets_cases c with ⟨single, same⟩ | beyond
    · rw [single, List.mem_singleton] at member
      subst member
      refine ⟨?_, ?_, same ▸ printable⟩
      · intro quote
        exact notQuote (Char.toNat_inj.mp (same.symm.trans (congrArg UInt8.toNat quote)))
      · intro backslash
        exact notBackslash (Char.toNat_inj.mp (same.symm.trans (congrArg UInt8.toNat backslash)))
    · have large := beyond b member
      refine ⟨?_, ?_, Nat.le_trans (by decide) large⟩
      · rintro rfl
        exact absurd large (by decide)
      · rintro rfl
        exact absurd large (by decide)
  · obtain ⟨single, notU, short⟩ := octets_of_shortEscape? isLetter
    intro found raw
    have octets : (Quoted.escape c).flatMap String.utf8EncodeChar = [octet '\\', octet letter] := by
      rw [isC, List.flatMap_cons, List.flatMap_cons, single]
      rfl
    have step : Lexing.step ⟨found, .escape (octet '\\' :: raw)⟩ (octet letter) =
        some ⟨found, .string (octet letter :: octet '\\' :: raw)⟩ := by
      unfold Lexing.step
      dsimp only
      rw [if_neg (by simpa using notU), if_pos short]
    rw [octets, steps_cons, escape_begins, Option.bind_some, steps_cons, step]
    rfl
  · obtain ⟨highUnit, lowUnit⟩ : (∃ n, Bytes.hexValue? high = some n) ∧ ∃ n, Bytes.hexValue? low = some n := by
      simp only [Quoted.unit?, Option.bind_eq_bind, Option.bind_eq_some_iff] at isCode
      obtain ⟨_, -, _, -, m, isHigh, n, isLow, -⟩ := isCode
      exact ⟨⟨m, isHigh⟩, n, isLow⟩
    obtain ⟨_, isHigh⟩ := highUnit
    obtain ⟨_, isLow⟩ := lowUnit
    obtain ⟨highOctet, highHex⟩ := octets_of_hexValue? isHigh
    obtain ⟨lowOctet, lowHex⟩ := octets_of_hexValue? isLow
    intro found raw
    have octets : (Quoted.escape c).flatMap String.utf8EncodeChar =
        [octet '\\', octet 'u', octet '0', octet '0', octet high, octet low] := by
      rw [isC]
      simp only [List.flatMap_cons, highOctet, lowOctet]
      rfl
    have zeros (raw : Bytes) : Json.steps Lexing.step ⟨found, .escape raw⟩ [octet 'u', octet '0', octet '0'] =
        some ⟨found, .unicode (octet '0' :: octet '0' :: octet 'u' :: raw) 1⟩ := rfl
    have highStep (raw : Bytes) : Lexing.step ⟨found, .unicode raw 1⟩ (octet high) =
        some ⟨found, .unicode (octet high :: raw) 0⟩ := if_pos highHex
    have lowStep (raw : Bytes) : Lexing.step ⟨found, .unicode raw 0⟩ (octet low) =
        some ⟨found, .string (octet low :: raw)⟩ := if_pos lowHex
    rw [octets, steps_cons, escape_begins, Option.bind_some,
      show [octet 'u', octet '0', octet '0', octet high, octet low] =
        [octet 'u', octet '0', octet '0'] ++ [octet high, octet low] from rfl,
      steps_append, zeros, Option.bind_some, steps_cons, highStep, Option.bind_some, steps_cons, lowStep]
    rfl

end Token

/-! ### The written form of a text -/

/-- What stands between quotes for a text. -/
def rawOf (text : String) : Bytes := (text.toList.flatMap Quoted.escape).flatMap String.utf8EncodeChar

theorem isString_raw (text : String) : Token.IsString (rawOf text) := by
  have reads : Token.Reads (rawOf text) := by
    unfold rawOf
    induction text.toList with
    | nil => exact fun found raw => rfl
    | cons c s ih =>
      rw [List.flatMap_cons, List.flatMap_append]
      exact (Token.reads_escape c).append ih
  have begins : Token.Lexing.step ⟨[], .between⟩ (Token.octet '"') = some ⟨[], .string []⟩ := rfl
  have ends (raw : Bytes) : Token.Lexing.step ⟨[], .string raw⟩ (Token.octet '"') =
      some ⟨[.string raw.reverse], .between⟩ := rfl
  unfold Token.IsString Token.quoted
  rw [steps_cons, begins, Option.bind_some, steps_append, reads, Option.bind_some, steps_cons, ends]
  simp

namespace Quoted

/-- The code of a character that is escaped is read as one unit. -/
theorem unitsOnto_escape (units : List Nat) (c : Char) (s : List Char) :
    unitsOnto units (escape c ++ s) = unitsOnto (c.toNat :: units) s := by
  rcases escape_cases c with ⟨isC, -, notBackslash, -⟩ | ⟨letter, isC, notU, isLetter⟩ | ⟨high, low, isC, isCode⟩
  · rw [isC, List.singleton_append, unitsOnto]
    · exact if_neg notBackslash
    · exact fun _ _ _ _ _ backslash _ => notBackslash backslash
    · exact fun _ _ backslash _ => notBackslash backslash
  · rw [isC]
    show unitsOnto units ('\\' :: letter :: s) = _
    rw [unitsOnto, isLetter]
    exact fun _ _ _ _ _ isU _ => notU isU
  · rw [isC]
    show unitsOnto units ('\\' :: 'u' :: '0' :: '0' :: high :: low :: s) = _
    rw [unitsOnto, isCode]

theorem unitsOnto_escapes (units : List Nat) (s : List Char) :
    unitsOnto units (s.flatMap escape) = some (units.reverse ++ s.map Char.toNat) := by
  induction s generalizing units with
  | nil => simp [unitsOnto]
  | cons c s ih =>
    rw [List.flatMap_cons, unitsOnto_escape, ih, List.reverse_cons, List.append_assoc]
    rfl

/-- The code of a character is not half of a pair. -/
theorem isHalf_toNat (c : Char) : isHigh c.toNat = false ∧ isLow c.toNat = false := by
  have valid : c.toNat < 0xd800 ∨ 0xdfff < c.toNat ∧ c.toNat < 0x110000 := c.valid
  unfold isHigh isLow
  constructor
  · simp
    omega
  · simp
    omega

theorem pairOnto_codes (chars s : List Char) : pairOnto chars (s.map Char.toNat) = some (chars.reverse ++ s) := by
  induction s generalizing chars with
  | nil => simp [pairOnto]
  | cons c s ih =>
    obtain ⟨notHigh, notLow⟩ := isHalf_toNat c
    cases s with
    | nil => simp [pairOnto, notHigh, notLow]
    | cons d s =>
      have later := ih (c :: chars)
      rw [List.map_cons, List.map_cons, pairOnto, notHigh, notLow, Char.ofNat_toNat]
      rw [List.map_cons] at later
      simp [later]

/-- The text comes back from its written form. -/
theorem decode?_raw (text : String) : decode? (rawOf text) = some text := by
  have isText : rawOf text = Bytes.ofText (String.ofList (text.toList.flatMap escape)) := by
    rw [Bytes.ofText_eq, String.toList_ofList]
    rfl
  unfold decode?
  rw [isText, Bytes.toText?_ofText]
  simp only [Option.bind_eq_bind, Option.bind_some, String.toList_ofList, unitsOnto_escapes, List.reverse_nil,
    List.nil_append, pairOnto_codes, String.ofList_toList]

end Quoted

end Countersign.Json
