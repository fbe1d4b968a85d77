import Countersign.Hash.Hmac

/-!
Digests along a window.

A round needs one word of the schedule, and a new word only the last sixteen. So the rounds can go along with a window
of sixteen words, and neither a schedule nor the message is looked up (`Sha256.compress_eq`). In this form a digest of a
given message takes few steps to evaluate (`Sha256.digest_eq`, `hmac_eq`).
-/

namespace Countersign.Hash

namespace Sha256

/-! ### The schedule -/

/-- Appends a word to a schedule, for the round that is sixteen rounds after the given one. -/
def extend (w : Array UInt32) (t : Nat) : Array UInt32 :=
  w.push (smallSigma1 (w.getD (t + 14) 0) + w.getD (t + 9) 0 + smallSigma0 (w.getD (t + 1) 0) + w.getD t 0)

def extended (own : Array UInt32) (n : Nat) : Array UInt32 := (List.range n).foldl extend own

section

variable {own : Array UInt32} {n : Nat}

theorem extended_succ : extended own (n + 1) = extend (extended own n) n := by
  unfold extended
  rw [List.range_succ, List.foldl_append]
  rfl

theorem size_extended : (extended own n).size = own.size + n := by
  induction n with
  | zero => rfl
  | succ n ih =>
    rw [extended_succ, extend, Array.size_push, ih]
    rfl

/-- A word of the schedule stays what it is. -/
theorem getD_extended_add {i : Nat} (within : i < own.size + n) (more : Nat) :
    (extended own (n + more)).getD i 0 = (extended own n).getD i 0 := by
  induction more with
  | zero => rfl
  | succ more ih =>
    have inside : i < (extended own (n + more)).size := by
      rw [size_extended]
      omega
    rw [← ih, ← Nat.add_assoc, extended_succ, extend]
    simp only [Array.getD_eq_getD_getElem?, Array.getElem?_push_lt inside, Array.getElem?_eq_getElem inside]

theorem getD_extended (sixteen : own.size = 16) {t : Nat} (least : t < n) :
    (extended own n).getD (t + 16) 0 = smallSigma1 ((extended own n).getD (t + 14) 0) +
      (extended own n).getD (t + 9) 0 + smallSigma0 ((extended own n).getD (t + 1) 0) + (extended own n).getD t 0 := by
  obtain ⟨more, rfl⟩ : ∃ more, n = t + 1 + more := ⟨n - (t + 1), by omega⟩
  have before {i : Nat} (within : i < 16 + t) :
      (extended own (t + 1 + more)).getD i 0 = (extended own t).getD i 0 := by
    rw [Nat.add_assoc]
    exact getD_extended_add (by omega) _
  have size : (extended own t).size = t + 16 := by
    rw [size_extended]
    omega
  rw [before (show t + 14 < 16 + t by omega), before (show t + 9 < 16 + t by omega),
    before (show t + 1 < 16 + t by omega), before (show t < 16 + t by omega), getD_extended_add (by omega) more,
    extended_succ, extend, Array.getD_eq_getD_getElem?, ← size, Array.getElem?_push_size, Option.getD_some]

end

/-! ### The window -/

/-- The rounds with some constants, along a window that starts at the word of the first round. -/
def rounds : List UInt32 → List UInt32 → Chain → Chain
  | k :: ks, w :: ws, x =>
    rounds ks (ws ++ [smallSigma1 (ws.getD 13 0) + ws.getD 8 0 + smallSigma0 (ws.getD 0 0) + w]) (round x (k + w))
  | _, _, x => x

/-- Along a window of the schedule, the rounds find what they would look up. -/
theorem rounds_eq {own : Array UInt32} (sixteen : own.size = 16) (constant : Nat → UInt32) (ks : List UInt32)
    {window : List UInt32} {t : Nat} {x : Chain} (length : window.length = 16) (ends : t + ks.length = 64)
    (constants : ∀ i, ks.getD i 0 = constant (t + i))
    (words : ∀ i < 16, t + i < 64 → window.getD i 0 = (extended own 48).getD (t + i) 0) :
    rounds ks window x =
      (List.range' t ks.length).foldl (fun y i => round y (constant i + (extended own 48).getD i 0)) x := by
  induction ks generalizing window t x with
  | nil =>
    cases window <;> rfl
  | cons k ks ih =>
    obtain _ | ⟨w, ws⟩ := window
    · cases length
    rw [List.length_cons] at length ends
    have first : w = (extended own 48).getD t 0 := words 0 (by omega) (by omega)
    have isConstant : k = constant t := constants 0
    have later {i : Nat} (within : i < 15) (lasts : t + (i + 1) < 64) :
        ws.getD i 0 = (extended own 48).getD (t + (i + 1)) 0 := words (i + 1) (by omega) lasts
    rw [List.length_cons, List.range'_succ, List.foldl_cons, ← isConstant, ← first]
    unfold rounds
    refine ih ?_ (by omega) ?_ ?_
    · rw [List.length_append, List.length_singleton]
      omega
    · intro i
      rw [show t + 1 + i = t + (i + 1) by omega]
      exact constants (i + 1)
    · intro i within lasts
      rw [show t + 1 + i = t + (i + 1) by omega] at lasts ⊢
      simp only [List.getD_eq_getElem?_getD]
      rcases Nat.lt_or_ge i 15 with old | new
      · rw [List.getElem?_append_left (by omega), ← List.getD_eq_getElem?_getD]
        exact later old lasts
      · obtain rfl : i = 15 := by omega
        rw [List.getElem?_append_right (by omega), show 15 - ws.length = 0 by omega, List.getElem?_cons_zero,
          Option.getD_some, getD_extended sixteen (show t < 48 by omega), ← List.getD_eq_getElem?_getD,
          ← List.getD_eq_getElem?_getD, ← List.getD_eq_getElem?_getD, later (show 13 < 15 by decide) (by omega),
          later (show 8 < 15 by decide) (by omega), later (show 0 < 15 by decide) (by omega), first]

/-! ### Words -/

/-- The words of a message, four octets each. -/
def wordsOf : Bytes → List UInt32
  | a :: b :: c :: d :: rest =>
    ((a.toUInt32 <<< 24) ||| (b.toUInt32 <<< 16) ||| (c.toUInt32 <<< 8) ||| d.toUInt32) :: wordsOf rest
  | _ => []

theorem wordsOf_spec (message : Bytes) : (wordsOf message).length = message.length / 4 ∧
    ∀ i < message.length / 4, (wordsOf message).getD i 0 = wordAt message.toArray i := by
  induction message using wordsOf.induct with
  | case1 a b c d rest ih =>
    obtain ⟨length, words⟩ := ih
    have longer : (a :: b :: c :: d :: rest).length / 4 = rest.length / 4 + 1 := by
      simp only [List.length_cons]
      omega
    rw [longer]
    refine ⟨congrArg (· + 1) length, fun i within => ?_⟩
    cases i with
    | zero => rfl
    | succ i =>
      have moved (j : Nat) : (a :: b :: c :: d :: rest)[(i + 1) * 4 + j]? = rest[i * 4 + j]? := by
        rw [show (i + 1) * 4 + j = i * 4 + j + 4 by omega]
        simp only [List.getElem?_cons_succ]
      refine (words i (by omega)).trans ?_
      simp only [wordAt, Array.getD_eq_getD_getElem?, List.getElem?_toArray, moved]
  | case2 message short =>
    have few : message.length / 4 = 0 := by
      match message, short with
      | [], _ | [_], _ | [_, _], _ | [_, _, _], _ => simp
      | a :: b :: c :: d :: rest, short => exact absurd rfl (short a b c d rest)
    have none : wordsOf message = [] := wordsOf.eq_2 message short
    rw [few, none]
    exact ⟨rfl, fun _ within => absurd within (Nat.not_lt_zero _)⟩

/-- Takes the words of a block into the chain. -/
def compressAlong (words : List UInt32) (x : Chain) : Chain := x.add (rounds roundConstants.toList words x)

theorem compress_eq {message : Bytes} {block : Nat} (whole : block < message.length / 64) (x : Chain) :
    compress message.toArray x block = compressAlong (((wordsOf message).drop (block * 16)).take 16) x := by
  obtain ⟨length, words⟩ := wordsOf_spec message
  have constants (i : Nat) : roundConstants.toList.getD i 0 = roundConstants.getD (0 + i) 0 := by
    rw [Nat.zero_add, List.getD_eq_getElem?_getD, Array.getD_eq_getD_getElem?, Array.getElem?_toList]
  have sixteen : ((Array.range 16).map fun i => wordAt message.toArray (block * 16 + i)).size = 16 := by simp
  unfold compress compressAlong
  rw [rounds_eq sixteen (fun i => roundConstants.getD i 0) roundConstants.toList ?_ rfl constants]
  · exact congrArg x.add (congrArg (List.foldl _ x) List.range_eq_range')
  · intro i within _
    rw [Nat.zero_add, show 48 = 0 + 48 from rfl, getD_extended_add (by simpa using within) 48]
    show _ = Array.getD ((Array.range 16).map _) i 0
    rw [List.getD_eq_getElem?_getD, List.getElem?_take_of_lt within, List.getElem?_drop, ← List.getD_eq_getElem?_getD,
      words _ (by omega)]
    simp [Array.getD_eq_getD_getElem?, within]
  · rw [List.length_take, List.length_drop, length]
    omega

/-- The digest of a message, along a window. -/
def digestAlong (message : Bytes) : Bytes :=
  let words := wordsOf (pad message)
  ((List.range ((pad message).length / 64)).foldl (fun x block => compressAlong ((words.drop (block * 16)).take 16) x)
    .start).toBytes

theorem digest_eq : digest = digestAlong := by
  funext message
  unfold digest digestAlong
  dsimp only
  rw [List.size_toArray]
  refine congrArg Chain.toBytes (List.foldl_rel (r := Eq) rfl fun block member x y same => ?_)
  rw [same]
  exact compress_eq (List.mem_range.mp member) y

end Sha256

/-- The HMAC of a message, along a window. -/
def hmacAlong (key message : Bytes) : Bytes :=
  let short := if key.length ≤ 64 then key else Sha256.digestAlong key
  let block := short ++ List.replicate (64 - short.length) 0
  Sha256.digestAlong (block.map (· ^^^ 0x5c) ++ Sha256.digestAlong (block.map (· ^^^ 0x36) ++ message))

theorem hmac_eq : hmac = hmacAlong := by
  funext key message
  unfold hmac hmacAlong hmacBlock
  simp only [Sha256.digest_eq]

end Countersign.Hash
