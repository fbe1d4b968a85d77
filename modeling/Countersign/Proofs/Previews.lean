import Countersign.Preview
import Countersign.Proofs.Records

/-!
What the request log tells of credentials.

A credential is read from a member of the body, and the redactor puts its marker in place of that member. So another
string in that place shows the same in the log (`Preview.conceals`), as long as the body is an object and has a value.
An array of the fields is accepted too, and is shown as it is (`Preview.reveals`).
-/

namespace Countersign

namespace Json

open Token (Lexing quoted IsString)

/-! ### The place of a member -/

namespace Node.Parsing

variable {older other : List (Bytes × Node)}

/-- Where a machine stands within an object that holds `older` members already, and where it would if they were
`other`. -/
inductive Alike (older other : List (Bytes × Node)) : Parsing → Parsing → Prop
  | value (inner : List Frame) (members : List (Bytes × Node)) (name : Bytes) :
      Alike older other (.value (inner ++ [.object (members ++ older) name]))
        (.value (inner ++ [.object (members ++ other) name]))
  | firstItem (inner : List Frame) (members : List (Bytes × Node)) (name : Bytes) :
      Alike older other (.firstItem (inner ++ [.object (members ++ older) name]))
        (.firstItem (inner ++ [.object (members ++ other) name]))
  | firstKey (inner : List Frame) (members : List (Bytes × Node)) (name : Bytes) :
      Alike older other (.firstKey (inner ++ [.object (members ++ older) name]))
        (.firstKey (inner ++ [.object (members ++ other) name]))
  | afterItem (items : List Node) (inner : List Frame) (members : List (Bytes × Node)) (name : Bytes) :
      Alike older other (.afterItem items (inner ++ [.object (members ++ older) name]))
        (.afterItem items (inner ++ [.object (members ++ other) name]))
  | key (held : List (Bytes × Node)) (inner : List Frame) (members : List (Bytes × Node)) (name : Bytes) :
      Alike older other (.key held (inner ++ [.object (members ++ older) name]))
        (.key held (inner ++ [.object (members ++ other) name]))
  | colon (held : List (Bytes × Node)) (waits : Bytes) (inner : List Frame) (members : List (Bytes × Node))
      (name : Bytes) :
      Alike older other (.colon held waits (inner ++ [.object (members ++ older) name]))
        (.colon held waits (inner ++ [.object (members ++ other) name]))
  | afterMember (held : List (Bytes × Node)) (inner : List Frame) (members : List (Bytes × Node)) (name : Bytes) :
      Alike older other (.afterMember held (inner ++ [.object (members ++ older) name]))
        (.afterMember held (inner ++ [.object (members ++ other) name]))
  | outerKey (members : List (Bytes × Node)) :
      Alike older other (.key (members ++ older) []) (.key (members ++ other) [])
  | outerColon (members : List (Bytes × Node)) (waits : Bytes) :
      Alike older other (.colon (members ++ older) waits []) (.colon (members ++ other) waits [])
  | outerMember (members : List (Bytes × Node)) :
      Alike older other (.afterMember (members ++ older) []) (.afterMember (members ++ other) [])
  | done (members : List (Bytes × Node)) :
      Alike older other (.done (.object (members ++ older).reverse)) (.done (.object (members ++ other).reverse))

theorem Alike.place (node : Node) (inner : List Frame) (members : List (Bytes × Node)) (name : Bytes) :
    Alike older other (place node (inner ++ [.object (members ++ older) name]))
      (place node (inner ++ [.object (members ++ other) name])) := by
  match inner with
  | [] => exact .outerMember ((name, node) :: members)
  | .array items :: inner => exact .afterItem (node :: items) inner members name
  | .object held waits :: inner => exact .afterMember ((waits, node) :: held) inner members name

theorem Alike.begin (inner : List Frame) (members : List (Bytes × Node)) (name : Bytes) (t : Token) :
    Option.Rel (Alike older other) (begin (inner ++ [.object (members ++ older) name]) t)
      (begin (inner ++ [.object (members ++ other) name]) t) := by
  cases t with
  | null | bool b | number n | string raw => exact .some (.place ..)
  | arrayStart => exact .some (.firstItem ..)
  | objectStart => exact .some (.firstKey ..)
  | arrayEnd | objectEnd | colon | comma => exact .none

theorem Alike.step {p q : Parsing} (alike : Alike older other p q) (t : Token) :
    Option.Rel (Alike older other) (p.step t) (q.step t) := by
  cases alike with
  | value inner members name => exact Alike.begin inner members name t
  | firstItem inner members name =>
    have begun := @Alike.begin older other (.array [] :: inner) members name t
    cases t with
    | arrayEnd => exact .some (.place ..)
    | _ => exact begun
  | firstKey inner members name =>
    cases t with
    | objectEnd => exact .some (.place ..)
    | string waits => exact .some (.colon ..)
    | _ => exact .none
  | afterItem items inner members name =>
    cases t with
    | comma => exact .some (.value (.array items :: inner) ..)
    | arrayEnd => exact .some (.place ..)
    | _ => exact .none
  | key held inner members name =>
    cases t with
    | string waits => exact .some (.colon ..)
    | _ => exact .none
  | colon held waits inner members name =>
    cases t with
    | colon => exact .some (.value (.object held waits :: inner) ..)
    | _ => exact .none
  | afterMember held inner members name =>
    cases t with
    | comma => exact .some (.key ..)
    | objectEnd => exact .some (.place ..)
    | _ => exact .none
  | outerKey members =>
    cases t with
    | string waits => exact .some (.outerColon ..)
    | _ => exact .none
  | outerColon members waits =>
    cases t with
    | colon => exact .some (.value [] ..)
    | _ => exact .none
  | outerMember members =>
    cases t with
    | comma => exact .some (.outerKey ..)
    | objectEnd => exact .some (.done ..)
    | _ => exact .none
  | done members => exact .none

theorem Alike.steps {p q : Parsing} (alike : Alike older other p q) (tokens : List Token) :
    Option.Rel (Alike older other) (Json.steps Parsing.step p tokens) (Json.steps Parsing.step q tokens) := by
  induction tokens generalizing p q with
  | nil => exact .some alike
  | cons t tokens ih =>
    rw [steps_cons, steps_cons]
    have next := alike.step t
    revert next
    generalize p.step t = left
    generalize q.step t = right
    rintro (next | _)
    · exact ih next
    · exact .none

/-- What becomes of the members that stand first. -/
theorem Alike.finish {p q : Parsing} (alike : Alike older other p q) :
    (p.finish = none ∧ q.finish = none) ∨ ∃ members, p.finish = some (.object (older.reverse ++ members)) ∧
      q.finish = some (.object (other.reverse ++ members)) := by
  cases alike with
  | done members =>
    refine .inr ⟨members.reverse, ?_, ?_⟩ <;> rw [List.reverse_append] <;> rfl
  | _ => exact .inl ⟨rfl, rfl⟩

theorem Alike.document {p q : Parsing} (alike : Alike older other p q) (tokens : List Token) :
    ((Json.steps Parsing.step p tokens).bind Parsing.finish = none ∧
      (Json.steps Parsing.step q tokens).bind Parsing.finish = none) ∨
    ∃ members, (Json.steps Parsing.step p tokens).bind Parsing.finish = some (.object (older.reverse ++ members)) ∧
      (Json.steps Parsing.step q tokens).bind Parsing.finish = some (.object (other.reverse ++ members)) := by
  have ends := alike.steps tokens
  revert ends
  generalize Json.steps Parsing.step p tokens = left
  generalize Json.steps Parsing.step q tokens = right
  rintro (ends | _)
  · exact ends.finish
  · exact .inl ⟨rfl, rfl⟩

end Node.Parsing

/-- A beginning of a document after which the value of a member of the whole document is due, by the name of that
member. -/
def Awaits (front : Bytes) (name : String) : Prop :=
  ∃ found members key, steps Lexing.step ⟨[], .between⟩ front = some ⟨found, .between⟩ ∧
    steps Node.Parsing.step (.value []) found.reverse = some (.value [.object members key]) ∧
    Quoted.decode? key = some name

/-- Of the string that stands there the tree of the document depends in one place only. -/
theorem Awaits.read? {front : Bytes} {name : String} (awaits : Awaits front name) (back : Bytes) :
    (∀ raw, IsString raw → Node.read? (front ++ quoted raw ++ back) = none) ∨
    ∃ before key after, Quoted.decode? key = some name ∧ ∀ raw, IsString raw →
      Node.read? (front ++ quoted raw ++ back) = some (.object (before ++ (key, .string raw) :: after)) := by
  obtain ⟨found, members, key, lexed, parsed, named⟩ := awaits
  have scanned (raw : Bytes) (isString : IsString raw) : Token.scan? (front ++ quoted raw ++ back) =
      ((⟨[], .between⟩ : Lexing).scan back).map (found.reverse ++ .string raw :: ·) := by
    show Lexing.scan ⟨[], .between⟩ (front ++ quoted raw ++ back) = _
    rw [List.append_assoc, Lexing.scan_append lexed, Lexing.scan_append (isString.steps found)]
    rw [show (⟨.string raw :: found, .between⟩ : Lexing) =
      (⟨[], .between⟩ : Lexing).onto (.string raw :: found) from rfl, Lexing.scan_onto]
    simp
  cases rest : (⟨[], .between⟩ : Lexing).scan back with
  | none =>
    left
    intro raw isString
    rw [Node.read?, scanned raw isString, rest]
    rfl
  | some tokens =>
    have treed (raw : Bytes) (isString : IsString raw) : Node.read? (front ++ quoted raw ++ back) =
        (steps Node.Parsing.step (.afterMember ((key, .string raw) :: members) []) tokens).bind
          Node.Parsing.finish := by
      rw [Node.read?, scanned raw isString, rest]
      show (steps Node.Parsing.step _ (found.reverse ++ .string raw :: tokens)).bind _ = _
      rw [steps_append, parsed, Option.bind_some, steps_cons]
      rfl
    -- all strings are compared with the empty one
    have compared (raw : Bytes) := @Node.Parsing.Alike.document ((key, .string []) :: members)
      ((key, .string raw) :: members) _ _ (.outerMember []) tokens
    rcases compared [] with ⟨ended, -⟩ | ⟨after, whole, -⟩
    · left
      intro raw isString
      rw [treed raw isString]
      rcases compared raw with ⟨-, none⟩ | ⟨after, whole, -⟩
      · exact none
      · exact nomatch ended.symm.trans whole
    · right
      refine ⟨members.reverse, key, after, named, fun raw isString => ?_⟩
      rw [treed raw isString]
      rcases compared raw with ⟨ended, -⟩ | ⟨more, again, found⟩
      · exact nomatch ended.symm.trans whole
      · have same : more = after := by
          have agree := again.symm.trans whole
          simpa using agree
        rw [List.nil_append] at found
        rw [found, same, List.reverse_cons, List.append_assoc]
        rfl

namespace Value

/-! ### The values of members -/

theorem membersOf?_append (depth : Nat) (values : List (String × Value)) (front back : List (Bytes × Node)) :
    membersOf? depth values (front ++ back) =
      (membersOf? depth values front).bind fun read => membersOf? depth read.reverse back := by
  induction front generalizing values with
  | nil => simp [membersOf?]
  | cons member front ih =>
    obtain ⟨key, item⟩ := member
    rw [List.cons_append, membersOf?, membersOf?]
    split
    · exact ih _
    · rfl

/-- Values in front stay in front. -/
theorem membersOf?_onto (depth : Nat) (values : List (String × Value)) (members : List (Bytes × Node)) :
    membersOf? depth values members = (membersOf? depth [] members).map (values.reverse ++ ·) := by
  induction members generalizing values with
  | nil => simp [membersOf?]
  | cons member members ih =>
    obtain ⟨key, item⟩ := member
    rw [membersOf?, membersOf?]
    split
    next name value _ _ =>
      rw [ih ((name, value) :: values), ih [(name, value)], Option.map_map]
      congr 1
      funext more
      simp
    next => rfl

/-- Of a string in an object its value depends in one place only. -/
theorem ofNode?_member (before after : List (Bytes × Node)) {key : Bytes} {name : String}
    (named : Quoted.decode? key = some name) :
    ∃ around : Option (List (String × Value) × List (String × Value)), ∀ raw,
      ofNode? maxDepth (.object (before ++ (key, .string raw) :: after)) =
        (Quoted.decode? raw).bind fun text => around.map fun a =>
          .object (sorted (a.1 ++ (name, .string text) :: a.2)) := by
  refine ⟨(membersOf? (maxDepth - 1) [] before).bind fun front =>
    (membersOf? (maxDepth - 1) [] after).map fun back => (front, back), fun raw => ?_⟩
  show (membersOf? (maxDepth - 1) [] _).map _ = _
  rw [membersOf?_append]
  cases membersOf? (maxDepth - 1) [] before with
  | none => exact (Option.bind_none _).symm ▸ (by cases Quoted.decode? raw <;> rfl)
  | some front =>
    rw [Option.bind_some, membersOf?, named, ofNode?]
    cases Quoted.decode? raw with
    | none => rfl
    | some text =>
      show (membersOf? (maxDepth - 1) ((name, .string text) :: front.reverse) after).map _ = _
      rw [membersOf?_onto, Option.map_map]
      simp [Function.comp_def]

/-- Puts a member before sorted ones, unless they begin with one of its key. -/
def keepLast (m : String × Value) : List (String × Value) → List (String × Value)
  | [] => [m]
  | next :: rest => if m.1 = next.1 then next :: rest else m :: next :: rest

theorem keepLast_map (f : String → Value → Value) (m : String × Value) (rest : List (String × Value)) :
    keepLast (m.1, f m.1 m.2) (rest.map fun m => (m.1, f m.1 m.2)) =
      (keepLast m rest).map fun m => (m.1, f m.1 m.2) := by
  cases rest with
  | nil => rfl
  | cons next rest =>
    rw [List.map_cons, keepLast, keepLast]
    split
    · rfl
    · rfl

theorem sorted_eq (members : List (String × Value)) :
    sorted members = (members.mergeSort fun a b => !KeyOrder.before b.1 a.1).foldr keepLast [] := by
  unfold sorted
  congr 1
  funext m rest
  cases rest with
  | nil => rfl
  | cons next rest => rfl

/-- Sorting looks at the keys alone. -/
theorem sorted_map (f : String → Value → Value) (members : List (String × Value)) :
    sorted (members.map fun m => (m.1, f m.1 m.2)) = (sorted members).map fun m => (m.1, f m.1 m.2) := by
  rw [sorted_eq, sorted_eq, ← List.map_mergeSort (r := fun a b => !KeyOrder.before b.1 a.1) fun a _ b _ => rfl,
    List.foldr_map]
  induction members.mergeSort fun a b => !KeyOrder.before b.1 a.1 with
  | nil => rfl
  | cons m members ih =>
    rw [List.foldr_cons, List.foldr_cons, ih]
    exact keepLast_map f m _

end Value

end Json

namespace Preview

open Json
open Token (IsString quoted)

theorem redactMembers_eq (done members : List (String × Value)) :
    redactMembers done members =
      done.reverse ++ members.map fun m => (m.1, if isSensitive m.1 then .string marker else redact m.2) := by
  induction members generalizing done with
  | nil => simp [redactMembers]
  | cons m members ih =>
    obtain ⟨key, item⟩ := m
    rw [redactMembers, ih]
    simp

/-- Two objects that differ in what a secret is show the same. -/
theorem redact_member {name : String} (sensitive : isSensitive name = true) (front back : List (String × Value))
    (text : String) : redact (.object (Value.sorted (front ++ (name, .string text) :: back))) =
      redact (.object (Value.sorted (front ++ (name, .string marker) :: back))) := by
  have shown (text : String) : redact (.object (Value.sorted (front ++ (name, .string text) :: back))) =
      .object (Value.sorted ((front ++ (name, .string marker) :: back).map fun m =>
        (m.1, if isSensitive m.1 then .string marker else redact m.2))) := by
    rw [redact, redactMembers_eq, List.reverse_nil, List.nil_append,
      ← Value.sorted_map fun key item => if isSensitive key then .string marker else redact item]
    simp [sensitive]
  rw [shown, shown]

theorem ofBody_of_none {body : Bytes} (isBody : body ≠ []) (valueless : Value.read? body = none) :
    ofBody body = "<" ++ Text.ofNat body.length ++ " bytes, not JSON>" := by
  rw [ofBody, valueless, if_neg (by simpa using isBody)]

theorem ofBody_of_some {body : Bytes} (isBody : body ≠ []) {v : Value} (read : Value.read? body = some v) :
    ofBody body = bounded (redact v).write := by
  rw [ofBody, read, if_neg (by simpa using isBody)]

/-- The credentials that requests hold, by the names of the members in which they come. -/
inductive Credential (body : Bytes) : String → String → Prop
  | password {r : LoginRequest} (isBody : (Node.read? body).bind LoginRequest.ofNode? = some r) :
      Credential body "password" r.password
  | refreshToken {r : RefreshRequest} (isBody : (Node.read? body).bind RefreshRequest.ofNode? = some r) :
      Credential body "refresh_token" r.refreshToken
  | closedToken {r : LogoutRequest} {token : String}
      (isBody : (Node.read? body).bind LogoutRequest.ofNode? = some r) (given : r.token = some token) :
      Credential body "token" token
  | closedRefreshToken {r : LogoutRequest} {token : String}
      (isBody : (Node.read? body).bind LogoutRequest.ofNode? = some r) (given : r.refreshToken = some token) :
      Credential body "refresh_token" token
  | lookedUpToken {r : TokenLookup} (isBody : (Node.read? body).bind TokenLookup.ofNode? = some r) :
      Credential body "token" r.token

theorem Credential.sensitive {body : Bytes} {name text : String} (credential : Credential body name text) :
    isSensitive name = true := by
  cases credential <;> decide +kernel

/-- A credential is the text of the string in its member. -/
theorem Credential.text {body : Bytes} {name text : String} (credential : Credential body name text)
    {members : List (Bytes × Node)} (read : Node.read? body = some (.object members)) {key raw : Bytes}
    (isMember : (key, .string raw) ∈ members) (named : Quoted.decode? key = some name) :
    Quoted.decode? raw = some text := by
  cases credential with
  | password isBody =>
    rw [read] at isBody
    obtain ⟨_, _, _, isFields, -, -, reads⟩ := LoginRequest.ofNode?_eq_some.mp isBody
    have given := Node.fields?_member (by decide) isFields isMember named (by simp)
    obtain rfl : some (Node.string raw) = _ := by simpa using given
    exact reads
  | refreshToken isBody =>
    rw [read] at isBody
    obtain ⟨_, _, isFields, -, reads⟩ := RefreshRequest.ofNode?_eq_some.mp isBody
    have given := Node.fields?_member (by decide) isFields isMember named (by simp)
    obtain rfl : some (Node.string raw) = _ := by simpa using given
    exact reads
  | closedToken isBody isToken =>
    rw [read] at isBody
    obtain ⟨_, _, _, isFields, -, reads, -⟩ := LogoutRequest.ofNode?_eq_some.mp isBody
    have given := Node.fields?_member (by decide) isFields isMember named (by simp)
    obtain rfl : some (Node.string raw) = _ := by simpa using given
    rw [isToken] at reads
    simpa [Node.defaulting, Node.nullable?, Node.text?] using reads
  | closedRefreshToken isBody isToken =>
    rw [read] at isBody
    obtain ⟨_, _, _, isFields, -, -, reads⟩ := LogoutRequest.ofNode?_eq_some.mp isBody
    have given := Node.fields?_member (by decide) isFields isMember named (by simp)
    obtain rfl : some (Node.string raw) = _ := by simpa using given
    rw [isToken] at reads
    simpa [Node.defaulting, Node.nullable?, Node.text?] using reads
  | lookedUpToken isBody =>
    rw [read] at isBody
    obtain ⟨_, _, isFields, -, reads⟩ := TokenLookup.ofNode?_eq_some.mp isBody
    have given := Node.fields?_member (by decide) isFields isMember named (by simp)
    obtain rfl : some (Node.string raw) = _ := by simpa using given
    exact reads

theorem Credential.tree {body : Bytes} {name text : String} (credential : Credential body name text) :
    Node.read? body ≠ none := by
  intro treeless
  cases credential <;> simp_all

/-- Where a credential stands in an object, another string shows the same in the log; a body without a value shows its
length only. -/
theorem conceals {front back raw other : Bytes} {name text : String} (awaits : Awaits front name)
    (isString : IsString raw) (otherIsString : IsString other)
    (credential : Credential (front ++ quoted raw ++ back) name text) :
    Quoted.decode? raw = some text ∧
    ((Value.read? (front ++ quoted raw ++ back)).isSome → (Quoted.decode? other).isSome →
      ofBody (front ++ quoted other ++ back) = ofBody (front ++ quoted raw ++ back)) ∧
    (¬ ((Value.read? (front ++ quoted raw ++ back)).isSome ∧ (Quoted.decode? other).isSome) →
      ofBody (front ++ quoted other ++ back) =
        "<" ++ Text.ofNat (front ++ quoted other ++ back).length ++ " bytes, not JSON>") := by
  rcases awaits.read? back with treeless | ⟨before, key, after, named, tree⟩
  · exact absurd (treeless raw isString) credential.tree
  have isText : Quoted.decode? raw = some text := credential.text (tree raw isString) (by simp) named
  obtain ⟨around, value⟩ := Value.ofNode?_member before after named
  have reads {string : Bytes} (isString : IsString string) : Value.read? (front ++ quoted string ++ back) =
      (Quoted.decode? string).bind fun text => around.map fun a =>
        .object (Value.sorted (a.1 ++ (name, .string text) :: a.2)) := by
    rw [Value.read?, tree string isString, Option.bind_some, value]
  have isBody (string : Bytes) : front ++ quoted string ++ back ≠ [] := by simp [quoted]
  have readsRaw := reads isString
  have readsOther := reads otherIsString
  rw [isText, Option.bind_some] at readsRaw
  refine ⟨isText, fun valued otherIsText => ?_, fun valueless => ?_⟩
  · obtain ⟨otherText, otherIsText⟩ := Option.isSome_iff_exists.mp otherIsText
    rw [otherIsText, Option.bind_some] at readsOther
    cases around with
    | none =>
      rw [readsRaw] at valued
      exact nomatch valued
    | some around =>
      rw [ofBody_of_some (isBody raw) readsRaw, ofBody_of_some (isBody other) readsOther]
      have same := (redact_member credential.sensitive around.1 around.2 otherText).trans
        (redact_member credential.sensitive around.1 around.2 text).symm
      exact congrArg (fun v => bounded v.write) same
  · apply ofBody_of_none (isBody other)
    rw [readsOther]
    cases around with
    | none => cases Quoted.decode? other <;> rfl
    | some around =>
      cases otherIsText : Quoted.decode? other with
      | none => rfl
      | some otherText => exact absurd ⟨by rw [readsRaw]; rfl, by rw [otherIsText]; rfl⟩ valueless

theorem conceals_password :
    let front := Bytes.ofText "\x7b\"email\":\"a\",\"pass\\u0077ord\":"
    let back := Bytes.ofText ",\"remember\":[true]\x7d"
    let raw := Bytes.ofText "hunter2"
    let other := Bytes.ofText "\\u00e9\\\""
    (Awaits front "password" ∧ IsString raw ∧ IsString other ∧
      Credential (front ++ quoted raw ++ back) "password" "hunter2") ∧
    (Value.read? (front ++ quoted raw ++ back)).isSome ∧ (Quoted.decode? other).isSome ∧
    ofBody (front ++ quoted other ++ back) = ofBody (front ++ quoted raw ++ back) := by
  intro front back raw other
  have awaits : Awaits front "password" := ⟨_, _, _, rfl, rfl, by decide +kernel⟩
  have isString : IsString raw := rfl
  have otherIsString : IsString other := rfl
  have isBody : (Node.read? (front ++ quoted raw ++ back)).bind LoginRequest.ofNode? =
      some ⟨"", "a", "hunter2"⟩ := by decide +kernel
  have credential : Credential (front ++ quoted raw ++ back) "password" "hunter2" := .password isBody
  have valued : (Value.read? (front ++ quoted raw ++ back)).isSome := by decide +kernel
  have isText : (Quoted.decode? other).isSome := by decide +kernel
  exact ⟨⟨awaits, isString, otherIsString, credential⟩, valued, isText,
    (conceals awaits isString otherIsString credential).2.1 valued isText⟩

/-- An array of the fields is a login as well, and its password is shown. -/
theorem reveals :
    let front := Bytes.ofText "[\"k\",\"a@b.c\","
    let back := Bytes.ofText "]"
    let raw := Bytes.ofText "hunter2"
    let other := Bytes.ofText "hunter3"
    (IsString raw ∧ IsString other) ∧
    (Node.read? (front ++ quoted raw ++ back)).bind LoginRequest.ofNode? = some ⟨"k", "a@b.c", "hunter2"⟩ ∧
    (Node.read? (front ++ quoted other ++ back)).bind LoginRequest.ofNode? = some ⟨"k", "a@b.c", "hunter3"⟩ ∧
    ofBody (front ++ quoted other ++ back) ≠ ofBody (front ++ quoted raw ++ back) :=
  ⟨⟨rfl, rfl⟩, by decide +kernel, by decide +kernel, by decide +kernel⟩

end Preview

end Countersign
