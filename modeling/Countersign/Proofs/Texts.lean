import Countersign.Json.Quoted
import Countersign.Text.Integer
import Countersign.Text.Split
import Mathlib.Data.List.Induction

/-!
Texts that can be told apart, however they are put together.

Numbers are written in digits alone (`Text.mem_ofInt`), so what follows ends them, and they read back
(`Text.ofInt_injective`); digits that no zero leads are just those that are written (`Text.natDigits_natOfDigits`). A
string in quotes ends at the first quote that is not part of an escape, and no escape is the beginning of another
(`Json.Quoted.escape_cases`), so it can be cut off whatever follows (`Json.Quoted.quoted_append_inj`).
-/

namespace Countersign

theorem Bytes.ofText_eq (s : String) : ofText s = s.toList.flatMap String.utf8EncodeChar := by
  unfold ofText
  rw [String.toUTF8_eq_toByteArray, ← String.utf8Encode_toList]
  exact List.toList_data_toByteArray

theorem Bytes.ofText_injective {s t : String} (same : ofText s = ofText t) : s = t := by
  have read := toText?_ofText s
  rw [same, toText?_ofText] at read
  exact (Option.some.inj read).symm

namespace Text

theorem append_cons_inj {x : Char} {a a' b b' : List Char} (first : x ∉ a) (firstToo : x ∉ a')
    (same : a ++ x :: b = a' ++ x :: b') : a = a' ∧ b = b' := by
  induction a generalizing a' with
  | nil =>
    cases a' with
    | nil => exact ⟨rfl, (List.cons.inj same).2⟩
    | cons c a' =>
      obtain ⟨rfl, -⟩ := List.cons.inj same
      exact absurd List.mem_cons_self firstToo
  | cons c a ih =>
    cases a' with
    | nil =>
      obtain ⟨rfl, -⟩ := List.cons.inj same
      exact absurd List.mem_cons_self first
    | cons d a' =>
      obtain ⟨rfl, rest⟩ := List.cons.inj same
      have tails := ih (fun member => first (List.mem_cons_of_mem c member))
        (fun member => firstToo (List.mem_cons_of_mem c member)) rest
      exact ⟨by rw [tails.1], tails.2⟩

theorem parts_append {x : Char} {a b part : List Char} {rest : List (List Char)} (other : x ∉ a)
    (isParts : parts x b = part :: rest) : parts x (a ++ b) = (a ++ part) :: rest := by
  induction a with
  | nil => exact isParts
  | cons c a ih =>
    rw [List.mem_cons, not_or] at other
    obtain ⟨first, more, split, longer⟩ := parts_cons_of_ne (Ne.symm other.1) (a ++ b)
    rw [ih other.2] at split
    cases split
    exact longer

theorem parts_append_cons {x : Char} {a : List Char} (other : x ∉ a) (b : List Char) :
    parts x (a ++ x :: b) = a :: parts x b := by
  simpa using parts_append other (parts_cons_self x b)

/-- A separator cuts a text wherever it stands. -/
theorem parts_append_separator (x : Char) (a b : List Char) : parts x (a ++ x :: b) = parts x a ++ parts x b := by
  induction a with
  | nil => exact parts_cons_self x b
  | cons c a ih =>
    rw [List.cons_append]
    by_cases same : c = x
    · subst same
      rw [parts_cons_self, parts_cons_self, ih, List.cons_append]
    · obtain ⟨part, rest, split, longer⟩ := parts_cons_of_ne same a
      obtain ⟨part', rest', split', longer'⟩ := parts_cons_of_ne same (a ++ x :: b)
      rw [split', split, List.cons_append, List.cons.injEq] at ih
      rw [longer', longer, ih.1, ih.2, List.cons_append]

theorem parts_of_not_mem {x : Char} {a : List Char} (other : x ∉ a) : parts x a = [a] := by
  have single : parts x [] = [[]] := rfl
  simpa using parts_append other single

/-- Texts with separators between them are told apart by these. -/
theorem parts_intercalate {x : Char} {texts : List (List Char)} (some_text : texts ≠ [])
    (others : ∀ a ∈ texts, x ∉ a) : parts x ([x].intercalate texts) = texts := by
  induction texts with
  | nil => exact absurd rfl some_text
  | cons a texts ih =>
    rw [List.forall_mem_cons] at others
    cases texts with
    | nil => simpa using parts_of_not_mem others.1
    | cons b texts =>
      have rest := ih (by simp) others.2
      rw [List.intercalate_cons_cons, List.append_assoc, List.singleton_append, parts_append_cons others.1, rest]

/-- No part has the separator in it. -/
theorem not_mem_of_mem_parts {x : Char} {s part : List Char} (isPart : part ∈ parts x s) : x ∉ part := by
  induction s generalizing part with
  | nil =>
    obtain rfl : part = [] := List.mem_singleton.mp isPart
    exact List.not_mem_nil
  | cons c s ih =>
    by_cases same : c = x
    · subst same
      rw [parts_cons_self] at isPart
      rcases List.mem_cons.mp isPart with rfl | later
      · exact List.not_mem_nil
      · exact ih later
    · obtain ⟨first, rest, split, longer⟩ := parts_cons_of_ne same s
      rw [longer] at isPart
      rw [split] at ih
      rcases List.mem_cons.mp isPart with rfl | later
      · rw [List.mem_cons, not_or]
        exact ⟨Ne.symm same, ih List.mem_cons_self⟩
      · exact ih (List.mem_cons_of_mem first later)

theorem cut?_append_cons {x : Char} {a : List Char} (other : x ∉ a) (b : List Char) :
    cut? x (a ++ x :: b) = some (a, b) := by
  have keeps : ∀ c ∈ a, (c != x) = true := by
    intro c member
    rw [bne_iff_ne]
    rintro rfl
    exact other member
  unfold cut?
  rw [List.dropWhile_append_of_pos keeps, List.takeWhile_append_of_pos keeps]
  simp

/-! ### Numbers -/

theorem digitValue_digitChar {n : Nat} (small : n < 10) : digitValue (digitChar n) = n := by
  have all : ∀ n : Fin 10, digitValue (digitChar n) = n := by decide
  exact all ⟨n, small⟩

theorem isDigit_digitChar {n : Nat} (small : n < 10) : (digitChar n).isDigit = true := by
  have all : ∀ n : Fin 10, (digitChar n).isDigit = true := by decide
  exact all ⟨n, small⟩

theorem isDigit_of_mem_natDigits {n : Nat} {c : Char} (member : c ∈ natDigits n) : c.isDigit = true := by
  induction n using natDigits.induct with
  | case1 n small =>
    rw [natDigits, if_pos small, List.mem_singleton] at member
    rw [member]
    exact isDigit_digitChar small
  | case2 n large ih =>
    rw [natDigits, if_neg large, List.mem_append, List.mem_singleton] at member
    rcases member with earlier | last
    · exact ih earlier
    · rw [last]
      exact isDigit_digitChar (Nat.mod_lt n (by decide))

theorem natDigits_ne (n : Nat) : natDigits n ≠ [] := by
  rw [natDigits]
  split <;> simp

theorem natOfDigits_natDigits (n : Nat) : natOfDigits (natDigits n) = n := by
  induction n using natDigits.induct with
  | case1 n small =>
    rw [natDigits, if_pos small]
    show 0 * 10 + digitValue (digitChar n) = n
    rw [digitValue_digitChar small, Nat.zero_mul, Nat.zero_add]
  | case2 n large ih =>
    rw [natDigits, if_neg large]
    unfold natOfDigits at ih ⊢
    rw [List.foldl_append, ih]
    show n / 10 * 10 + digitValue (digitChar (n % 10)) = n
    rw [digitValue_digitChar (Nat.mod_lt n (by decide))]
    omega

theorem natDigits_injective {m n : Nat} (same : natDigits m = natDigits n) : m = n := by
  rw [← natOfDigits_natDigits m, same, natOfDigits_natDigits]

theorem head?_natDigits {n : Nat} (positive : 0 < n) : (natDigits n).head? ≠ some '0' := by
  induction n using natDigits.induct with
  | case1 n small =>
    have all : ∀ n : Fin 10, 0 < n.val → digitChar n ≠ '0' := by decide
    rw [natDigits, if_pos small, List.head?_cons, ne_eq, Option.some.injEq]
    exact all ⟨n, small⟩ positive
  | case2 n large ih =>
    have before := ih (by omega)
    rw [natDigits, if_neg large]
    cases digits : natDigits (n / 10) with
    | nil => simpa [digits] using natDigits_ne (n / 10)
    | cons c rest =>
      rw [digits] at before
      exact before

/-- A number's digits are more than one only if no zero leads them. -/
theorem natDigits_leading (n : Nat) : (natDigits n).length = 1 ∨ (natDigits n).head? ≠ some '0' := by
  by_cases positive : 0 < n
  · exact .inr (head?_natDigits positive)
  · left
    rw [natDigits, if_pos (by omega)]
    rfl

/-- The codes of digits. -/
theorem range_of_isDigit {c : Char} (digit : c.isDigit = true) : 48 ≤ c.toNat ∧ c.toNat ≤ 57 := by
  simp only [Char.isDigit, Bool.and_eq_true, decide_eq_true_eq, ge_iff_le, UInt32.le_iff_toNat_le] at digit
  exact digit

theorem digitValue_lt {c : Char} (digit : c.isDigit = true) : digitValue c < 10 := by
  have range := range_of_isDigit digit
  have zero : '0'.toNat = 48 := rfl
  unfold digitValue
  omega

theorem digitChar_digitValue {c : Char} (digit : c.isDigit = true) : digitChar (digitValue c) = c := by
  have range := range_of_isDigit digit
  have zero : '0'.toNat = 48 := rfl
  unfold digitChar digitValue
  rw [zero, show 48 + (c.toNat - 48) = c.toNat by omega]
  exact Char.ofNat_toNat c

/-- Digits without a zero in front are those of the number that they write. -/
theorem natDigits_natOfDigits {s : List Char} (some_digit : s ≠ []) (digits : ∀ c ∈ s, c.isDigit = true)
    (leading : s.length = 1 ∨ s.head? ≠ some '0') : natDigits (natOfDigits s) = s := by
  induction s using List.reverseRecOn with
  | nil => exact absurd rfl some_digit
  | append_singleton s c ih =>
    have small := digitValue_lt (digits c (by simp))
    have last := digitChar_digitValue (digits c (by simp))
    have grown : natOfDigits (s ++ [c]) = natOfDigits s * 10 + digitValue c := by simp [natOfDigits]
    rw [grown, natDigits]
    cases s with
    | nil => simp [natOfDigits, small, last]
    | cons d s =>
      have leads : d ≠ '0' := by simpa using leading
      have front : natDigits (natOfDigits (d :: s)) = d :: s :=
        ih (by simp) (fun e member => digits e (List.mem_append_left [c] member)) (.inr (by simpa using leads))
      have positive : natOfDigits (d :: s) ≠ 0 := by
        intro zero
        rw [zero, natDigits, if_pos (by decide)] at front
        exact leads (List.cons.inj front).1.symm
      rw [if_neg (by omega), show (natOfDigits (d :: s) * 10 + digitValue c) / 10 = natOfDigits (d :: s) by omega,
        show (natOfDigits (d :: s) * 10 + digitValue c) % 10 = digitValue c by omega, front, last]

theorem mem_ofInt {i : Int} {c : Char} (member : c ∈ (ofInt i).toList) : c = '-' ∨ c.isDigit = true := by
  unfold ofInt ofNat at member
  split at member
  · simp only [String.toList_append, String.toList_ofList, List.mem_append] at member
    rcases member with sign | digit
    · exact .inl (List.mem_singleton.mp sign)
    · exact .inr (isDigit_of_mem_natDigits digit)
  · rw [String.toList_ofList] at member
    exact .inr (isDigit_of_mem_natDigits member)

theorem ofInt_injective {i j : Int} (same : ofInt i = ofInt j) : i = j := by
  have noSign (n m : Nat) : natDigits n ≠ '-' :: natDigits m := by
    intro signed
    have digit := isDigit_of_mem_natDigits (n := n) (signed ▸ List.mem_cons_self)
    exact absurd digit (by decide)
  have texts := congrArg String.toList same
  unfold ofInt ofNat at texts
  split at texts <;> split at texts <;>
    simp only [String.toList_append, String.toList_ofList] at texts
  · have digits := natDigits_injective (List.append_cancel_left texts)
    omega
  · exact absurd texts.symm (noSign _ _)
  · exact absurd texts (noSign _ _)
  · have digits := natDigits_injective texts
    omega

end Text

/-! ### Strings in quotes -/

namespace Json.Quoted

/-- A character stands for itself, or is escaped by a letter, or by its code. -/
theorem escape_cases (c : Char) :
    (escape c = [c] ∧ c ≠ '"' ∧ c ≠ '\\' ∧ 32 ≤ c.toNat) ∨
    (∃ letter, escape c = ['\\', letter] ∧ letter ≠ 'u' ∧ shortEscape? letter = some c) ∨
    ∃ high low, escape c = ['\\', 'u', '0', '0', high, low] ∧ unit? '0' '0' high low = some c.toNat := by
  unfold escape
  split
  · exact .inr (.inl ⟨_, rfl, by decide, rfl⟩)
  · exact .inr (.inl ⟨_, rfl, by decide, rfl⟩)
  · exact .inr (.inl ⟨_, rfl, by decide, rfl⟩)
  · exact .inr (.inl ⟨_, rfl, by decide, rfl⟩)
  · exact .inr (.inl ⟨_, rfl, by decide, rfl⟩)
  · exact .inr (.inl ⟨_, rfl, by decide, rfl⟩)
  · exact .inr (.inl ⟨_, rfl, by decide, rfl⟩)
  next notQuote notBackslash _ _ _ _ _ =>
    split
    next control =>
      have all : ∀ n : Fin 32, unit? '0' '0' (Bytes.hexDigit (n / 16)) (Bytes.hexDigit (n % 16)) = some n.val := by
        decide
      exact .inr (.inr ⟨_, _, rfl, all ⟨c.toNat, control⟩⟩)
    next printable => exact .inl ⟨rfl, notQuote, notBackslash, Nat.not_lt.mp printable⟩

theorem escape_append_inj {c d : Char} {a b : List Char} (same : escape c ++ a = escape d ++ b) : c = d ∧ a = b := by
  rcases escape_cases c with ⟨isC, -, plainC, -⟩ | ⟨x, isC, shortC, letterC⟩ | ⟨x, y, isC, codeC⟩ <;>
    rcases escape_cases d with ⟨isD, -, plainD, -⟩ | ⟨z, isD, shortD, letterD⟩ | ⟨z, t, isD, codeD⟩ <;>
    rw [isC, isD] at same <;> simp only [List.cons_append, List.nil_append, List.cons.injEq] at same
  -- Of two different forms, the first two characters differ.
  · exact same
  · exact absurd same.1 plainC
  · exact absurd same.1 plainC
  · exact absurd same.1.symm plainD
  · obtain ⟨-, rfl, rest⟩ := same
    exact ⟨Option.some.inj (letterC.symm.trans letterD), rest⟩
  · exact absurd same.2.1 shortC
  · exact absurd same.1.symm plainD
  · exact absurd same.2.1.symm shortD
  · obtain ⟨-, -, -, -, rfl, rfl, rest⟩ := same
    exact ⟨Char.toNat_inj.mp (Option.some.inj (codeC.symm.trans codeD)), rest⟩

theorem escape_ne_quote (c : Char) (a b : List Char) : escape c ++ a ≠ '"' :: b := by
  intro same
  rcases escape_cases c with ⟨isC, other, -⟩ | ⟨x, isC, -⟩ | ⟨x, y, isC, -⟩ <;>
    rw [isC] at same <;> simp only [List.cons_append, List.nil_append, List.cons.injEq] at same
  · exact other same.1
  · exact absurd same.1 (by decide)
  · exact absurd same.1 (by decide)

/-- What stands in quotes can be cut off from what follows. -/
theorem quoted_append_inj {s t a b : List Char}
    (same : s.flatMap escape ++ '"' :: a = t.flatMap escape ++ '"' :: b) : s = t ∧ a = b := by
  induction s generalizing t with
  | nil =>
    cases t with
    | nil => exact ⟨rfl, (List.cons.inj same).2⟩
    | cons d t =>
      rw [List.flatMap_cons, List.append_assoc] at same
      exact absurd same.symm (escape_ne_quote d _ _)
  | cons c s ih =>
    cases t with
    | nil =>
      rw [List.flatMap_cons, List.append_assoc] at same
      exact absurd same (escape_ne_quote c _ _)
    | cons d t =>
      rw [List.flatMap_cons, List.flatMap_cons, List.append_assoc, List.append_assoc] at same
      obtain ⟨rfl, rest⟩ := escape_append_inj same
      obtain ⟨rfl, tails⟩ := ih rest
      exact ⟨rfl, tails⟩

theorem toList_writeOnto (out s : String) :
    (writeOnto out s).toList = out.toList ++ '"' :: (s.toList.flatMap escape ++ ['"']) := by
  have pushed (l : List Char) (out : String) : (l.foldl String.push out).toList = out.toList ++ l := by
    induction l generalizing out with
    | nil => exact (List.append_nil _).symm
    | cons c l ih => rw [List.foldl_cons, ih, String.toList_push, List.append_assoc, List.singleton_append]
  have escaped (l : List Char) (out : String) :
      (l.foldl (fun out c => (escape c).foldl String.push out) out).toList = out.toList ++ l.flatMap escape := by
    induction l generalizing out with
    | nil => exact (List.append_nil _).symm
    | cons c l ih => rw [List.foldl_cons, ih, pushed, List.flatMap_cons, List.append_assoc]
  unfold writeOnto
  rw [String.toList_push, escaped, String.toList_push, List.append_assoc, List.append_assoc, List.singleton_append]

end Json.Quoted

/-! ### Plain texts -/

namespace Json

/-- Whether a character of ASCII is visible, and stands for itself between quotes. -/
def isPlain (c : Char) : Bool := 33 ≤ c.toNat && c.toNat ≤ 126 && c != '"' && c != '\\'

theorem isPlain_iff {c : Char} : isPlain c = true ↔ 33 ≤ c.toNat ∧ c.toNat ≤ 126 ∧ c ≠ '"' ∧ c ≠ '\\' := by
  simp [isPlain, and_assoc]

theorem Quoted.escape_of_isPlain {c : Char} (plain : isPlain c = true) : escape c = [c] := by
  have visible := (isPlain_iff.mp plain).1
  unfold escape
  split
  next => exact absurd plain (by decide)
  next => exact absurd plain (by decide)
  next => exact absurd plain (by decide)
  next => exact absurd plain (by decide)
  next => exact absurd plain (by decide)
  next => exact absurd plain (by decide)
  next => exact absurd plain (by decide)
  next => exact if_neg (by omega)

/-- Whether a text has such characters only. -/
def Plain (s : String) : Prop := ∀ c ∈ s.toList, isPlain c = true

instance (s : String) : Decidable (Plain s) := List.decidableBAll _ s.toList

namespace Plain

/-- The characters of a literal are at hand without its octets. -/
theorem ofList {l : List Char} (all : l.all isPlain = true) : Plain (String.ofList l) := by
  intro c member
  rw [String.toList_ofList] at member
  exact List.all_eq_true.mp all c member

theorem append {s t : String} (first : Plain s) (second : Plain t) : Plain (s ++ t) := by
  intro c member
  rw [String.toList_append, List.mem_append] at member
  exact member.elim (first c) (second c)

theorem writeOnto {s : String} (plain : Plain s) (out : String) :
    Quoted.writeOnto out s = out ++ "\"" ++ s ++ "\"" := by
  have kept : s.toList.flatMap Quoted.escape = s.toList := by
    unfold Plain at plain
    generalize s.toList = l at plain
    induction l with
    | nil => rfl
    | cons c l ih =>
      rw [List.flatMap_cons, Quoted.escape_of_isPlain (plain c List.mem_cons_self),
        ih fun d member => plain d (List.mem_cons_of_mem c member)]
      rfl
  refine String.toList_injective ?_
  rw [Quoted.toList_writeOnto, kept]
  simp

end Plain

end Json

end Countersign
