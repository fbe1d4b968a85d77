import Countersign.Base64

/-!
What Base64 writes it reads again (`decode?_encode`), over either alphabet and for any octets, and it reads nothing
else (`encode_of_decode?`). How long a text is depends on the number of octets alone (`length_encode`), and it has no
characters but digits (`all_encode`). Which texts these are can be told without reading them (`decode?_isSome_iff`).
-/

namespace Countersign.Base64

theorem Alphabet.value?_digit (alphabet : Alphabet) {n : Nat} (small : n < 64) :
    alphabet.value? (alphabet.digit n) = some n := by
  have all : ∀ n : Fin 64, alphabet.value? (alphabet.digit n) = some n.val := by
    cases alphabet <;> decide
  exact all ⟨n, small⟩

theorem Alphabet.digit_of_value? (alphabet : Alphabet) {c : Char} {n : Nat} (isDigit : alphabet.value? c = some n) :
    n < 64 ∧ alphabet.digit n = c := by
  have ascii : c.toNat < 128 := by
    have below {last : UInt32} (class_ : c.val ≤ last) (small : last.toNat < 128) : c.toNat < 128 :=
      Nat.lt_of_le_of_lt (UInt32.le_iff_toNat_le.mp class_) small
    unfold value? at isDigit
    split at isDigit
    next upper =>
      exact below (of_decide_eq_true upper).2 (by decide)
    split at isDigit
    next lower =>
      exact below (of_decide_eq_true (Bool.and_eq_true_iff.mp lower).2) (by decide)
    split at isDigit
    next digit =>
      exact below (of_decide_eq_true (Bool.and_eq_true_iff.mp digit).2) (by decide)
    split at isDigit
    next mark =>
      rw [mark]
      cases alphabet <;> decide
    split at isDigit
    next mark =>
      rw [mark]
      cases alphabet <;> decide
    · cases isDigit
  have all : ∀ i : Fin 128, ∀ n ∈ alphabet.value? (Char.ofNat i), n < 64 ∧ alphabet.digit n = Char.ofNat i := by
    cases alphabet <;> decide +kernel
  have digit := all ⟨c.toNat, ascii⟩ n
  rw [Char.ofNat_toNat] at digit
  exact digit isDigit

/-- What is written stands behind what has been written before. -/
theorem encodeOnto_eq (alphabet : Alphabet) (written : List Char) (b : Bytes) :
    encodeOnto alphabet written b = encodeOnto alphabet [] b ++ written := by
  match b with
  | [] => rfl
  | [x] => rfl
  | [x, y] => rfl
  | x :: y :: z :: rest =>
    rw [encodeOnto, encodeOnto, encodeOnto_eq alphabet (_ :: _ :: _ :: _ :: written) rest,
      encodeOnto_eq alphabet [_, _, _, _] rest]
    simp

theorem reverse_encodeOnto_cons (alphabet : Alphabet) (x y z : UInt8) (rest : Bytes) :
    (encodeOnto alphabet [] (x :: y :: z :: rest)).reverse =
      alphabet.digit (x.toNat / 4) :: alphabet.digit (x.toNat % 4 * 16 + y.toNat / 16) ::
        alphabet.digit (y.toNat % 16 * 4 + z.toNat / 64) :: alphabet.digit (z.toNat % 64) ::
          (encodeOnto alphabet [] rest).reverse := by
  rw [encodeOnto, encodeOnto_eq]
  simp

theorem decodeOnto_encodeOnto (alphabet : Alphabet) (octets b : Bytes) :
    decodeOnto alphabet octets (encodeOnto alphabet [] b).reverse = some (b.reverse ++ octets) := by
  have octet {x : UInt8} {n : Nat} (same : n = x.toNat) : UInt8.ofNat n = x := by
    rw [same, UInt8.ofNat_toNat]
  have digit {n : Nat} (small : n < 64) := alphabet.value?_digit small
  match b with
  | [] => rfl
  | [x] =>
    have xs := x.toNat_lt
    show decodeOnto alphabet octets [alphabet.digit _, alphabet.digit _] = _
    rw [decodeOnto, digit (by omega), digit (by omega)]
    dsimp only
    rw [if_pos (by omega), octet (x := x) (by omega)]
    rfl
  | [x, y] =>
    have xs := x.toNat_lt
    have ys := y.toNat_lt
    show decodeOnto alphabet octets [alphabet.digit _, alphabet.digit _, alphabet.digit _] = _
    rw [decodeOnto, digit (by omega), digit (by omega), digit (by omega)]
    dsimp only
    rw [if_pos (by omega), octet (x := y) (by omega), octet (x := x) (by omega)]
    rfl
  | x :: y :: z :: rest =>
    have xs := x.toNat_lt
    have ys := y.toNat_lt
    have zs := z.toNat_lt
    rw [reverse_encodeOnto_cons, decodeOnto, digit (by omega), digit (by omega), digit (by omega),
      digit (by omega)]
    dsimp only
    rw [octet (x := z) (by omega), octet (x := y) (by omega), octet (x := x) (by omega),
      decodeOnto_encodeOnto alphabet _ rest]
    simp

theorem decode?_encode (alphabet : Alphabet) (b : Bytes) : decode? alphabet (encode alphabet b) = some b := by
  unfold decode? encode
  rw [String.toList_ofList, decodeOnto_encodeOnto]
  simp

theorem encode_injective (alphabet : Alphabet) {b b' : Bytes} (same : encode alphabet b = encode alphabet b') :
    b = b' := by
  have read := decode?_encode alphabet b
  rw [same, decode?_encode] at read
  exact (Option.some.inj read).symm

/-- Digits that are read are those of the octets. -/
theorem encodeOnto_of_decodeOnto {alphabet : Alphabet} {octets b : Bytes} {s : List Char}
    (read : decodeOnto alphabet octets s = some b) :
    ∃ more, b = more.reverse ++ octets ∧ (encodeOnto alphabet [] more).reverse = s := by
  have octet {n : Nat} (small : n < 256) : (UInt8.ofNat n).toNat = n := Nat.mod_eq_of_lt small
  match s with
  | [] => exact ⟨[], (Option.some.inj read).symm, rfl⟩
  | [_] => cases read
  | [p, q] =>
    rw [decodeOnto] at read
    split at read
    next a b isP isQ =>
      obtain ⟨smallP, rfl⟩ := alphabet.digit_of_value? isP
      obtain ⟨smallQ, rfl⟩ := alphabet.digit_of_value? isQ
      split at read
      next unused =>
        refine ⟨[UInt8.ofNat (a * 4 + b / 16)], (Option.some.inj read).symm, ?_⟩
        show [alphabet.digit _, alphabet.digit _] = _
        rw [octet (by omega), show (a * 4 + b / 16) / 4 = a by omega, show (a * 4 + b / 16) % 4 * 16 = b by omega]
      · cases read
    · cases read
  | [p, q, r] =>
    rw [decodeOnto] at read
    split at read
    next a b c isP isQ isR =>
      obtain ⟨smallP, rfl⟩ := alphabet.digit_of_value? isP
      obtain ⟨smallQ, rfl⟩ := alphabet.digit_of_value? isQ
      obtain ⟨smallR, rfl⟩ := alphabet.digit_of_value? isR
      split at read
      next unused =>
        refine ⟨[UInt8.ofNat (a * 4 + b / 16), UInt8.ofNat (b % 16 * 16 + c / 4)], (Option.some.inj read).symm, ?_⟩
        show [alphabet.digit _, alphabet.digit _, alphabet.digit _] = _
        rw [octet (by omega), octet (by omega), show (a * 4 + b / 16) / 4 = a by omega,
          show (a * 4 + b / 16) % 4 * 16 + (b % 16 * 16 + c / 4) / 16 = b by omega,
          show (b % 16 * 16 + c / 4) % 16 * 4 = c by omega]
      · cases read
    · cases read
  | p :: q :: r :: t :: rest =>
    rw [decodeOnto] at read
    split at read
    next a b c d isP isQ isR isT =>
      obtain ⟨smallP, rfl⟩ := alphabet.digit_of_value? isP
      obtain ⟨smallQ, rfl⟩ := alphabet.digit_of_value? isQ
      obtain ⟨smallR, rfl⟩ := alphabet.digit_of_value? isR
      obtain ⟨smallT, rfl⟩ := alphabet.digit_of_value? isT
      obtain ⟨more, rfl, rfl⟩ := encodeOnto_of_decodeOnto read
      refine ⟨UInt8.ofNat (a * 4 + b / 16) :: UInt8.ofNat (b % 16 * 16 + c / 4) :: UInt8.ofNat (c % 4 * 64 + d) :: more,
        by simp, ?_⟩
      rw [reverse_encodeOnto_cons, octet (by omega), octet (by omega), octet (by omega),
        show (a * 4 + b / 16) / 4 = a by omega,
        show (a * 4 + b / 16) % 4 * 16 + (b % 16 * 16 + c / 4) / 16 = b by omega,
        show (b % 16 * 16 + c / 4) % 16 * 4 + (c % 4 * 64 + d) / 64 = c by omega,
        show (c % 4 * 64 + d) % 64 = d by omega]
    · cases read

/-- What is read is what is written for the octets. -/
theorem encode_of_decode? {alphabet : Alphabet} {s : String} {b : Bytes} (read : decode? alphabet s = some b) :
    encode alphabet b = s := by
  obtain ⟨reversed, isRead, rfl⟩ := Option.map_eq_some_iff.mp read
  obtain ⟨more, rfl, isText⟩ := encodeOnto_of_decodeOnto isRead
  refine String.toList_injective ?_
  unfold encode
  rw [String.toList_ofList, List.append_nil, List.reverse_reverse, isText]

theorem decode?_ofList_eq_some_iff {alphabet : Alphabet} {s : List Char} {b : Bytes} :
    decode? alphabet (String.ofList s) = some b ↔ (encode alphabet b).toList = s := by
  constructor
  · intro read
    rw [encode_of_decode? read, String.toList_ofList]
  · rintro rfl
    rw [String.ofList_toList, decode?_encode]

theorem decode?_injective {alphabet : Alphabet} {s t : String} {b : Bytes} (read : decode? alphabet s = some b)
    (readToo : decode? alphabet t = some b) : s = t :=
  (encode_of_decode? read).symm.trans (encode_of_decode? readToo)

theorem length_encodeOnto (alphabet : Alphabet) (written : List Char) (b : Bytes) :
    (encodeOnto alphabet written b).length = written.length + (4 * b.length + 2) / 3 := by
  match b with
  | [] => simp [encodeOnto]
  | [x] => simp [encodeOnto]
  | [x, y] => simp [encodeOnto]
  | x :: y :: z :: rest =>
    rw [encodeOnto, length_encodeOnto alphabet _ rest]
    simp only [List.length_cons]
    omega

theorem length_encode (alphabet : Alphabet) (b : Bytes) :
    (encode alphabet b).toList.length = (4 * b.length + 2) / 3 := by
  unfold encode
  rw [String.toList_ofList, List.length_reverse, length_encodeOnto, List.length_nil, Nat.zero_add]

theorem digit_of_mem (alphabet : Alphabet) {b : Bytes} {c : Char} (member : c ∈ encodeOnto alphabet [] b) :
    ∃ n : Fin 64, c = alphabet.digit n := by
  match b with
  | [] => cases member
  | [x] =>
    have xs := x.toNat_lt
    simp only [encodeOnto, List.mem_cons, List.not_mem_nil, or_false] at member
    rcases member with rfl | rfl <;> exact ⟨⟨_, by omega⟩, rfl⟩
  | [x, y] =>
    have xs := x.toNat_lt
    have ys := y.toNat_lt
    simp only [encodeOnto, List.mem_cons, List.not_mem_nil, or_false] at member
    rcases member with rfl | rfl | rfl <;> exact ⟨⟨_, by omega⟩, rfl⟩
  | x :: y :: z :: rest =>
    have xs := x.toNat_lt
    have ys := y.toNat_lt
    have zs := z.toNat_lt
    rw [encodeOnto, encodeOnto_eq, List.mem_append] at member
    rcases member with inRest | inFront
    · exact digit_of_mem alphabet inRest
    · simp only [List.mem_cons, List.not_mem_nil, or_false] at inFront
      rcases inFront with rfl | rfl | rfl | rfl <;> exact ⟨⟨_, by omega⟩, rfl⟩

/-- What is true of all digits is true of all that is written. -/
theorem all_encode (alphabet : Alphabet) {p : Char → Prop} (digits : ∀ n : Fin 64, p (alphabet.digit n)) {b : Bytes}
    {c : Char} (member : c ∈ (encode alphabet b).toList) : p c := by
  unfold encode at member
  rw [String.toList_ofList, List.mem_reverse] at member
  obtain ⟨n, rfl⟩ := digit_of_mem alphabet member
  exact digits n

/-! ### Spelling -/

/-- How many values the bits have that are left over in the last of so many digits. -/
def spare (digits : Nat) : Nat :=
  match digits % 4 with
  | 2 => 16
  | 3 => 4
  | _ => 1

/-- Whether a text is in digits alone, none of them stands alone behind whole groups of four, and no bit is set that
the last one leaves over. -/
structure Spelled (alphabet : Alphabet) (s : List Char) : Prop where
  digits : ∀ c ∈ s, ∃ n < 64, alphabet.digit n = c
  whole : s.length % 4 ≠ 1
  last : ∀ n < 64, s.getLast? = some (alphabet.digit n) → n % spare s.length = 0

section

variable {alphabet : Alphabet} {p q r t : Char} {rest : List Char}

theorem Alphabet.digit_inj {m n : Nat} (m_lt : m < 64) (n_lt : n < 64) :
    alphabet.digit m = alphabet.digit n ↔ m = n := by
  constructor
  · intro same
    have values := congrArg alphabet.value? same
    simpa [alphabet.value?_digit, m_lt, n_lt] using values
  · intro same
    rw [same]

theorem spelled_cons_four : Spelled alphabet (p :: q :: r :: t :: rest) ↔
    (∀ c ∈ [p, q, r, t], ∃ n < 64, alphabet.digit n = c) ∧ Spelled alphabet rest := by
  have length : (p :: q :: r :: t :: rest).length = rest.length + 4 := rfl
  have sameSpare : spare (rest.length + 4) = spare rest.length := by simp [spare]
  constructor
  · intro spelled
    have digits : ∀ c ∈ [p, q, r, t] ++ rest, ∃ n < 64, alphabet.digit n = c := spelled.digits
    refine ⟨fun c member => digits c (List.mem_append_left rest member), ?_, ?_, ?_⟩
    · exact fun c member => digits c (List.mem_append_right _ member)
    · have whole := spelled.whole
      omega
    · intro n small isLast
      rw [← sameSpare]
      cases rest with
      | nil => simp at isLast
      | cons c rest => exact spelled.last n small (by simpa using isLast)
  · rintro ⟨front, spelled⟩
    refine ⟨fun c member => ?_, ?_, ?_⟩
    · rcases List.mem_append.mp (show c ∈ [p, q, r, t] ++ rest from member) with first | later
      · exact front c first
      · exact spelled.digits c later
    · have whole := spelled.whole
      omega
    · intro n small isLast
      rw [length, sameSpare]
      cases rest with
      | nil => exact Nat.mod_one n
      | cons c rest => exact spelled.last n small (by simpa using isLast)

/-- Of digits that make whole octets only the last one matters. -/
theorem spelled_iff_last {s : List Char} {n : Nat} (digits : ∀ c ∈ s, ∃ n < 64, alphabet.digit n = c)
    (whole : s.length % 4 ≠ 1) (n_lt : n < 64) (isLast : s.getLast? = some (alphabet.digit n)) :
    Spelled alphabet s ↔ n % spare s.length = 0 := by
  constructor
  · intro spelled
    exact spelled.last n n_lt isLast
  · intro unused
    refine ⟨digits, whole, fun m m_lt isLastToo => ?_⟩
    obtain rfl : m = n := by simpa [isLast, alphabet.digit_inj n_lt m_lt, eq_comm] using isLastToo
    exact unused

/-- What is spelled so, and nothing else, is read. -/
theorem decodeOnto_isSome_iff (octets : Bytes) (s : List Char) :
    (decodeOnto alphabet octets s).isSome = true ↔ Spelled alphabet s := by
  by_cases digits : ∀ c ∈ s, ∃ n < 64, alphabet.digit n = c
  · match s with
    | [] => exact iff_of_true rfl ⟨digits, by simp, by simp⟩
    | [_] => exact iff_of_false Bool.false_ne_true fun spelled => spelled.whole rfl
    | [p, q] =>
      obtain ⟨a, a_lt, rfl⟩ := digits p (by simp)
      obtain ⟨b, b_lt, rfl⟩ := digits q (by simp)
      rw [spelled_iff_last digits (by simp) b_lt rfl]
      simp [decodeOnto, alphabet.value?_digit, a_lt, b_lt, spare]
    | [p, q, r] =>
      obtain ⟨a, a_lt, rfl⟩ := digits p (by simp)
      obtain ⟨b, b_lt, rfl⟩ := digits q (by simp)
      obtain ⟨c, c_lt, rfl⟩ := digits r (by simp)
      rw [spelled_iff_last digits (by simp) c_lt rfl]
      simp [decodeOnto, alphabet.value?_digit, a_lt, b_lt, c_lt, spare]
    | p :: q :: r :: t :: rest =>
      have front : ∀ c ∈ [p, q, r, t], ∃ n < 64, alphabet.digit n = c :=
        fun c member => digits c (List.mem_append_left rest member)
      obtain ⟨a, a_lt, rfl⟩ := digits p (by simp)
      obtain ⟨b, b_lt, rfl⟩ := digits q (by simp)
      obtain ⟨c, c_lt, rfl⟩ := digits r (by simp)
      obtain ⟨d, d_lt, rfl⟩ := digits t (by simp)
      rw [spelled_cons_four, decodeOnto]
      simp only [alphabet.value?_digit a_lt, alphabet.value?_digit b_lt, alphabet.value?_digit c_lt,
        alphabet.value?_digit d_lt]
      rw [decodeOnto_isSome_iff]
      exact (and_iff_right front).symm
  · refine iff_of_false ?_ fun spelled => digits spelled.digits
    intro some
    obtain ⟨b, read⟩ := Option.isSome_iff_exists.mp some
    obtain ⟨more, -, rfl⟩ := encodeOnto_of_decodeOnto read
    apply digits
    intro c member
    obtain ⟨n, rfl⟩ := digit_of_mem alphabet (List.mem_reverse.mp member)
    exact ⟨n, n.isLt, rfl⟩

theorem decode?_isSome_iff (s : String) : (decode? alphabet s).isSome = true ↔ Spelled alphabet s.toList := by
  simp [decode?, decodeOnto_isSome_iff]

theorem spelled_encode (b : Bytes) : Spelled alphabet (encode alphabet b).toList := by
  rw [← decode?_isSome_iff, decode?_encode]
  rfl

end

end Countersign.Base64
