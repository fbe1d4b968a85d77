import Countersign.Json.Value
import Countersign.Proofs.Lexing

/-!
Documents that are written are read back.

The text of a value whose numbers are integers has the tokens of its tree (`Value.holds_writeOnto`), and the tokens of
a tree make this tree (`Node.steps_tokens`). So the text is read as the tree (`Value.read?_write`).
-/

namespace Countersign.Json

/-! ### From tokens to trees -/

namespace Node

mutual

/-- The tokens of a tree. -/
def tokens : Node → List Token
  | .null => [.null]
  | .bool b => [.bool b]
  | .number n => [.number n]
  | .string raw => [.string raw]
  | .array items => .arrayStart :: (itemTokens true items ++ [.arrayEnd])
  | .object members => .objectStart :: (memberTokens true members ++ [.objectEnd])

/-- The tokens of items, with commas between them. -/
def itemTokens (first : Bool) : List Node → List Token
  | [] => []
  | item :: items => (if first then [] else [.comma]) ++ (item.tokens ++ itemTokens false items)

/-- The tokens of members, with commas between them. -/
def memberTokens (first : Bool) : List (Bytes × Node) → List Token
  | [] => []
  | (key, item) :: members =>
    (if first then [] else [.comma]) ++ (.string key :: .colon :: (item.tokens ++ memberTokens false members))

end

open Parsing (place begin)

/-- The first token of a tree begins a value. -/
theorem steps_firstItem (n : Node) (stack : List Frame) :
    steps Parsing.step (.firstItem stack) n.tokens = steps Parsing.step (.value (.array [] :: stack)) n.tokens := by
  cases n <;> rfl

mutual

/-- The tokens of a tree make the tree. -/
theorem steps_tokens (stack : List Frame) : (n : Node) →
    steps Parsing.step (.value stack) n.tokens = some (place n stack)
  | .null => rfl
  | .bool _ => rfl
  | .number _ => rfl
  | .string _ => rfl
  | .array [] => rfl
  | .array (item :: items) => by
    have tokens : (Node.array (item :: items)).tokens =
        .arrayStart :: (item.tokens ++ (itemTokens false items ++ [.arrayEnd])) := by
      simp [Node.tokens, itemTokens]
    have begins : Parsing.step (.value stack) .arrayStart = some (.firstItem stack) := rfl
    rw [tokens, steps_cons, begins, Option.bind_some, steps_append, steps_firstItem,
      steps_tokens (.array [] :: stack) item, Option.bind_some, steps_append]
    show ((steps Parsing.step (.afterItem [item] stack) (itemTokens false items)).bind _) = _
    rw [steps_itemTokens [item] stack items, Option.bind_some, steps_cons]
    show some (place (.array (items.reverse ++ [item]).reverse) stack) = _
    rw [List.reverse_append, List.reverse_reverse]
    rfl
  | .object [] => rfl
  | .object ((key, item) :: members) => by
    have tokens : (Node.object ((key, item) :: members)).tokens = .objectStart :: .string key :: .colon ::
        (item.tokens ++ (memberTokens false members ++ [.objectEnd])) := by
      simp [Node.tokens, memberTokens]
    have begins : steps Parsing.step (.value stack) [.objectStart, .string key, .colon] =
        some (.value (.object [] key :: stack)) := rfl
    have parted : (.objectStart :: .string key :: .colon ::
        (item.tokens ++ (memberTokens false members ++ [.objectEnd])) : List Token) =
          [.objectStart, .string key, .colon] ++ (item.tokens ++ (memberTokens false members ++ [.objectEnd])) := rfl
    rw [tokens, parted, steps_append, begins, Option.bind_some, steps_append,
      steps_tokens (.object [] key :: stack) item, Option.bind_some, steps_append]
    show ((steps Parsing.step (.afterMember [(key, item)] stack) (memberTokens false members)).bind _) = _
    rw [steps_memberTokens [(key, item)] stack members, Option.bind_some, steps_cons]
    show some (place (.object (members.reverse ++ [(key, item)]).reverse) stack) = _
    rw [List.reverse_append, List.reverse_reverse]
    rfl

theorem steps_itemTokens (held : List Node) (stack : List Frame) : (items : List Node) →
    steps Parsing.step (.afterItem held stack) (itemTokens false items) =
      some (.afterItem (items.reverse ++ held) stack)
  | [] => rfl
  | item :: items => by
    have begins : Parsing.step (.afterItem held stack) .comma = some (.value (.array held :: stack)) := rfl
    rw [itemTokens, if_neg Bool.false_ne_true, List.singleton_append, steps_cons, begins, Option.bind_some,
      steps_append, steps_tokens (.array held :: stack) item, Option.bind_some]
    show steps Parsing.step (.afterItem (item :: held) stack) (itemTokens false items) = _
    rw [steps_itemTokens (item :: held) stack items, List.reverse_cons, List.append_assoc]
    rfl

theorem steps_memberTokens (held : List (Bytes × Node)) (stack : List Frame) : (members : List (Bytes × Node)) →
    steps Parsing.step (.afterMember held stack) (memberTokens false members) =
      some (.afterMember (members.reverse ++ held) stack)
  | [] => rfl
  | (key, item) :: members => by
    have begins : steps Parsing.step (.afterMember held stack) [.comma, .string key, .colon] =
        some (.value (.object held key :: stack)) := rfl
    rw [memberTokens, if_neg Bool.false_ne_true,
      show ([.comma] ++ (.string key :: .colon :: (item.tokens ++ memberTokens false members)) : List Token) =
        [.comma, .string key, .colon] ++ (item.tokens ++ memberTokens false members) from rfl,
      steps_append, begins, Option.bind_some, steps_append, steps_tokens (.object held key :: stack) item,
      Option.bind_some]
    show steps Parsing.step (.afterMember ((key, item) :: held) stack) (memberTokens false members) = _
    rw [steps_memberTokens ((key, item) :: held) stack members, List.reverse_cons, List.append_assoc]
    rfl

end

theorem ofTokens?_tokens (n : Node) : ofTokens? n.tokens = some n := by
  show (steps Parsing.step (.value []) n.tokens).bind Parsing.finish = _
  rw [steps_tokens]
  rfl

end Node

/-! ### Integers -/

namespace Numeral

theorem read?_ofInt (i : Int) : read? (Text.ofInt i).toList = some (ofInt i) := by
  have signed : sign (Text.ofInt i).toList = (decide (i < 0), Text.natDigits i.natAbs) := by
    unfold Text.ofInt
    split
    next negative =>
      rw [decide_eq_true negative, String.toList_append]
      exact congrArg (Prod.mk true) String.toList_ofList
    next positive =>
      rw [decide_eq_false positive]
      have digits : ∀ c ∈ Text.natDigits i.natAbs, c.isDigit = true := fun c => Text.isDigit_of_mem_natDigits
      unfold Text.ofNat sign
      rw [String.toList_ofList]
      split
      next _ s isDigits =>
        rw [isDigits] at digits
        exact absurd (digits '-' List.mem_cons_self) (by decide)
      · rfl
  have all : ∀ c ∈ Text.natDigits i.natAbs, c.isDigit = true := fun c => Text.isDigit_of_mem_natDigits
  have taken : (Text.natDigits i.natAbs).takeWhile Char.isDigit = Text.natDigits i.natAbs := by
    simpa using @List.takeWhile_append_of_pos _ _ _ [] all
  have dropped : (Text.natDigits i.natAbs).dropWhile Char.isDigit = [] := by
    simpa using @List.dropWhile_append_of_pos _ _ _ [] all
  have plain : ¬ ((Text.natDigits i.natAbs).isEmpty = true ∨
      (Text.natDigits i.natAbs).head? = some '0' ∧ (Text.natDigits i.natAbs).length ≠ 1) := by
    rintro (empty | ⟨zero, long⟩)
    · exact Text.natDigits_ne _ (List.isEmpty_iff.mp empty)
    · rcases Nat.eq_zero_or_pos i.natAbs with isZero | positive
      · rw [isZero] at long
        exact long (by decide +kernel)
      · exact Text.head?_natDigits positive zero
  unfold read?
  rw [signed]
  dsimp only
  rw [taken, dropped, if_neg plain]
  rfl

theorem int?_ofInt (i : Int) : (ofInt i).int? = some i := by
  unfold int? ofInt
  dsimp only
  rw [if_pos (by simp), Text.natOfDigits_natDigits]
  by_cases negative : i < 0
  · rw [decide_eq_true negative, if_pos rfl, if_neg (by omega)]
    exact congrArg some (by omega)
  · rw [decide_eq_false negative, if_neg Bool.false_ne_true]
    exact congrArg some (by omega)

end Numeral

/-! ### From values to tokens -/

namespace Token

namespace Lexing

/-- Whether the machine has found tokens, of which the last may not have ended. -/
inductive Stands : Lexing → List Token → Prop where
  | between (found : List Token) : Stands ⟨found, .between⟩ found
  | run {found : List Token} {read : List Char} {t : Token} (isToken : ofRun? read.reverse = some t) :
    Stands ⟨found, .run read⟩ (t :: found)

theorem Stands.finish {s : Lexing} {found : List Token} (stands : s.Stands found) :
    s.finish = some found.reverse := by
  cases stands with
  | between => rfl
  | run isToken =>
    unfold Lexing.finish
    dsimp only
    rw [isToken]
    rfl

/-- An octet that is a token ends what may not have ended. -/
theorem Stands.step {s : Lexing} {found : List Token} (stands : s.Stands found) {b : UInt8} {t : Token}
    (apart : isRunOctet b = false) (single : begin [] b = some ⟨[t], .between⟩) :
    s.step b = some ⟨t :: found, .between⟩ := by
  have begins (found : List Token) : begin found b = some ⟨t :: found, .between⟩ := by
    have onto := begin_onto [] found b
    rw [single] at onto
    exact onto
  cases stands with
  | between => exact begins found
  | run isToken =>
    unfold Lexing.step
    dsimp only
    rw [apart, if_neg Bool.false_ne_true, isToken]
    exact begins _

/-- The octets of a word or a number are read as one. -/
theorem steps_run (found : List Token) (read s : List Char)
    (all : ∀ c ∈ s, c.toNat < 128 ∧ isRunOctet (octet c) = true) :
    steps Lexing.step ⟨found, .run read⟩ (s.flatMap String.utf8EncodeChar) =
      some ⟨found, .run (s.reverse ++ read)⟩ := by
  induction s generalizing read with
  | nil => rfl
  | cons c s ih =>
    obtain ⟨ascii, isRun⟩ := all c List.mem_cons_self
    obtain ⟨single, same⟩ := octets_ascii ascii
    have step : Lexing.step ⟨found, .run read⟩ (octet c) = some ⟨found, .run (c :: read)⟩ := by
      unfold Lexing.step
      dsimp only
      rw [if_pos isRun, same, Char.ofNat_toNat]
    rw [List.flatMap_cons, single, List.singleton_append, steps_cons, step, Option.bind_some,
      ih (c :: read) fun d member => all d (List.mem_cons_of_mem c member), List.reverse_cons, List.append_assoc]
    rfl

end Lexing

/-- Whether a text ends with a token, after these that stand in reverse. -/
def Ready (text : String) (found : List Token) : Prop :=
  steps Lexing.step ⟨[], .between⟩ (Bytes.ofText text) = some ⟨found, .between⟩

/-- Whether a text holds tokens, which stand in reverse. -/
def Holds (text : String) (found : List Token) : Prop :=
  ∃ s, steps Lexing.step ⟨[], .between⟩ (Bytes.ofText text) = some s ∧ s.Stands found

variable {text : String} {found : List Token}

theorem Ready.holds (ready : Ready text found) : Holds text found := ⟨_, ready, .between found⟩

theorem ofText_push (text : String) {c : Char} (ascii : c.toNat < 128) :
    Bytes.ofText (text.push c) = Bytes.ofText text ++ [octet c] := by
  rw [Bytes.ofText_eq, Bytes.ofText_eq, String.toList_push, List.flatMap_append, List.flatMap_singleton,
    (octets_ascii ascii).1]

theorem Holds.push (holds : Holds text found) {c : Char} {t : Token} (ascii : c.toNat < 128)
    (apart : isRunOctet (octet c) = false) (single : Lexing.begin [] (octet c) = some ⟨[t], .between⟩) :
    Ready (text.push c) (t :: found) := by
  obtain ⟨s, reached, stands⟩ := holds
  unfold Ready
  rw [ofText_push text ascii, steps_append, reached, Option.bind_some, steps_cons, stands.step apart single]
  rfl

theorem Ready.run (ready : Ready text found) {run : String} {t : Token} (isToken : ofRun? run.toList = some t)
    (octets : (run.toList.all fun c => c.toNat < 128 && isRunOctet (octet c)) = true) :
    Holds (text ++ run) (t :: found) := by
  have all : ∀ c ∈ run.toList, c.toNat < 128 ∧ isRunOctet (octet c) = true := fun c member => by
    simpa using List.all_eq_true.mp octets c member
  cases isRun : run.toList with
  | nil =>
    rw [isRun] at isToken
    cases isToken
  | cons c s =>
    rw [isRun] at isToken all
    obtain ⟨ascii, first⟩ := all c List.mem_cons_self
    obtain ⟨single, same⟩ := octets_ascii ascii
    have begins : Lexing.step ⟨found, .between⟩ (octet c) = some ⟨found, .run [c]⟩ := by
      have apart : ∀ n : Fin 128, isRunOctet (octet (Char.ofNat n)) = true →
          isBlank (octet (Char.ofNat n)) = false ∧ (octet (Char.ofNat n) == octet '"') = false := by decide +kernel
      have isApart := apart ⟨c.toNat, ascii⟩
      rw [Char.ofNat_toNat] at isApart
      obtain ⟨notBlank, notQuote⟩ := isApart first
      show Lexing.begin found (octet c) = _
      unfold Lexing.begin
      rw [notBlank, notQuote, if_neg Bool.false_ne_true, if_neg Bool.false_ne_true, if_pos first, same,
        Char.ofNat_toNat]
    refine ⟨⟨found, .run (s.reverse ++ [c])⟩, ?_, .run ?_⟩
    · unfold Ready at ready
      rw [Bytes.ofText_eq] at ready ⊢
      rw [String.toList_append, List.flatMap_append, steps_append, ready, Option.bind_some, isRun, List.flatMap_cons,
        single, List.singleton_append, steps_cons, begins, Option.bind_some,
        Lexing.steps_run _ _ _ fun d member => all d (List.mem_cons_of_mem c member)]
    · rw [List.reverse_append, List.reverse_reverse]
      exact isToken

theorem ofText_writeOnto (text s : String) :
    Bytes.ofText (Quoted.writeOnto text s) = Bytes.ofText text ++ quoted (rawOf s) := by
  have quote : String.utf8EncodeChar '"' = [octet '"'] := (octets_ascii (by decide)).1
  rw [Bytes.ofText_eq, Bytes.ofText_eq, Quoted.toList_writeOnto, List.flatMap_append, List.flatMap_cons,
    List.flatMap_append, List.flatMap_singleton, quote]
  rfl

theorem Ready.string (ready : Ready text found) (s : String) :
    Ready (Quoted.writeOnto text s) (.string (rawOf s) :: found) := by
  unfold Ready at ready ⊢
  rw [ofText_writeOnto, steps_append, ready, Option.bind_some]
  exact (isString_raw s).steps found

theorem Ready.integer (ready : Ready text found) (i : Int) :
    Holds (text ++ Text.ofInt i) (.number (Numeral.ofInt i) :: found) := by
  have numeral : ∀ c ∈ (Text.ofInt i).toList, c = '-' ∨ c.isDigit = true := fun c => Text.mem_ofInt
  refine ready.run ?_ (List.all_eq_true.mpr fun c member => ?_)
  · have noWord {word : String} (other : word.toList.all fun c => c ≠ '-' ∧ c.isDigit = false)
        (letter : word.toList ≠ []) : (Text.ofInt i).toList ≠ word.toList := by
      intro same
      obtain ⟨c, isLetter⟩ := List.exists_mem_of_ne_nil _ letter
      have notNumeral := List.all_eq_true.mp other c isLetter
      simp only [decide_eq_true_eq] at notNumeral
      rcases numeral c (same ▸ isLetter) with sign | digit
      · exact notNumeral.1 sign
      · rw [notNumeral.2] at digit
        cases digit
    unfold ofRun?
    rw [if_neg (noWord (by decide) (by decide)), if_neg (noWord (by decide) (by decide)),
      if_neg (noWord (by decide) (by decide)), Numeral.read?_ofInt]
    rfl
  · have all : ∀ b : Fin 128, (Char.ofNat b = '-' ∨ (Char.ofNat b).isDigit = true) →
        isRunOctet (octet (Char.ofNat b)) = true := by decide +kernel
    have ascii : c.toNat < 128 := by
      rcases numeral c member with rfl | digit
      · decide
      · simp only [Char.isDigit, Bool.and_eq_true, decide_eq_true_eq] at digit
        have := digit.2
        rw [UInt32.le_iff_toNat_le] at this
        exact Nat.lt_of_le_of_lt this (by decide)
    have isRun := all ⟨c.toNat, ascii⟩
    rw [Char.ofNat_toNat] at isRun
    rw [Bool.and_eq_true, decide_eq_true_eq]
    exact ⟨ascii, isRun (numeral c member)⟩

end Token

namespace Value

mutual

/-- The tree of what is written for a value; none if there is a double in it. -/
def node? : Value → Option Node
  | .null => some .null
  | .bool b => some (.bool b)
  | .number (.integer i) => some (.number (Numeral.ofInt i))
  | .number (.double _) => none
  | .string s => some (.string (rawOf s))
  | .array items => (itemNodes? items).map .array
  | .object members => (memberNodes? members).map .object

def itemNodes? : List Value → Option (List Node)
  | [] => some []
  | item :: items => do some ((← node? item) :: (← itemNodes? items))

def memberNodes? : List (String × Value) → Option (List (Bytes × Node))
  | [] => some []
  | (key, item) :: members => do some ((rawOf key, ← node? item) :: (← memberNodes? members))

end

open Token (Ready Holds octet)

/-- Whether the next item of a list can be written behind a text, with a comma unless it is the first. -/
def Next (first : Bool) (out : String) (found : List Token) : Prop := if first then Ready out found else Holds out found

theorem Next.holds {first : Bool} {out : String} {found : List Token} (next : Next first out found) :
    Holds out found := by
  cases first with
  | true => exact Ready.holds next
  | false => exact next

theorem Next.ready {first : Bool} {out : String} {found : List Token} (next : Next first out found) :
    Ready (if first then out else out.push ',') ((if first then [] else [.comma]) ++ found) := by
  cases first with
  | true => exact next
  | false => exact Holds.push next (by decide) rfl rfl

mutual

/-- What is written for a value has the tokens of its tree. -/
theorem holds_writeOnto {out : String} {found : List Token} (ready : Ready out found) :
    (v : Value) → {n : Node} → v.node? = some n → Holds (writeOnto out v) (n.tokens.reverse ++ found)
  | .null, _, rfl => ready.run rfl (by decide)
  | .bool true, _, rfl => ready.run rfl (by decide)
  | .bool false, _, rfl => ready.run rfl (by decide)
  | .number (.integer i), _, rfl => ready.integer i
  | .string s, _, rfl => (ready.string s).holds
  | .array items, _, isTree => by
    obtain ⟨nodes, areItems, rfl⟩ := Option.map_eq_some_iff.mp isTree
    have opened : Next true (out.push '[') (.arrayStart :: found) := ready.holds.push (by decide) rfl rfl
    have closed := (holds_writeItems opened items areItems).push (c := ']') (t := .arrayEnd)
      (by decide) rfl rfl
    simpa [writeOnto, Node.tokens] using closed.holds
  | .object members, _, isTree => by
    obtain ⟨nodes, areMembers, rfl⟩ := Option.map_eq_some_iff.mp isTree
    have opened : Next true (out.push '\x7b') (.objectStart :: found) := ready.holds.push (by decide) rfl rfl
    have closed := (holds_writeMembers opened members areMembers).push (c := '\x7d') (t := .objectEnd)
      (by decide) rfl rfl
    simpa [writeOnto, Node.tokens] using closed.holds

theorem holds_writeItems {out : String} {found : List Token} {first : Bool} (next : Next first out found) :
    (items : List Value) → {nodes : List Node} → itemNodes? items = some nodes →
      Holds (writeItems out first items) ((Node.itemTokens first nodes).reverse ++ found)
  | [], _, rfl => next.holds
  | item :: items, _, areItems => by
    simp only [itemNodes?, Option.bind_eq_bind, Option.bind_eq_some_iff, Option.some.injEq] at areItems
    obtain ⟨node, isItem, nodes, areItems, rfl⟩ := areItems
    have follows : Next false _ _ := holds_writeOnto next.ready item isItem
    have written := holds_writeItems follows items areItems
    simpa [writeItems, Node.itemTokens, apply_ite List.reverse] using written

theorem holds_writeMembers {out : String} {found : List Token} {first : Bool} (next : Next first out found) :
    (members : List (String × Value)) → {nodes : List (Bytes × Node)} → memberNodes? members = some nodes →
      Holds (writeMembers out first members) ((Node.memberTokens first nodes).reverse ++ found)
  | [], _, rfl => next.holds
  | (key, item) :: members, _, areMembers => by
    simp only [memberNodes?, Option.bind_eq_bind, Option.bind_eq_some_iff, Option.some.injEq] at areMembers
    obtain ⟨node, isItem, nodes, areMembers, rfl⟩ := areMembers
    have named := (next.ready.string key).holds.push (c := ':') (t := .colon) (by decide) rfl rfl
    have follows : Next false _ _ := holds_writeOnto named item isItem
    have written := holds_writeMembers follows members areMembers
    simpa [writeMembers, Node.memberTokens, apply_ite List.reverse] using written

end

/-- What is written for a value is read as its tree. -/
theorem read?_write {v : Value} {n : Node} (isTree : v.node? = some n) :
    Node.read? (Bytes.ofText v.write) = some n := by
  obtain ⟨s, reached, stands⟩ := @holds_writeOnto "" [] rfl v n isTree
  have scanned : Token.scan? (Bytes.ofText v.write) = some n.tokens := by
    show (steps Token.Lexing.step ⟨[], .between⟩ (Bytes.ofText v.write)).bind Token.Lexing.finish = _
    unfold write
    rw [reached, Option.bind_some, stands.finish, List.append_nil, List.reverse_reverse]
  unfold Node.read?
  rw [scanned]
  exact Node.ofTokens?_tokens n

end Value

end Countersign.Json
