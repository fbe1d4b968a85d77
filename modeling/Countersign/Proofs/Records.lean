import Countersign.Proofs.Documents
import Countersign.Token
import Countersign.Wire.Session

/-!
Records that are read from documents.

A record has for each field what the object holds under its name (`Node.under_of_fields?`), so a known member is not
lost (`Node.fields?_member`), and an object that has known fields, each once at most, gives them in the record's order
(`Node.fields?_known`).

A value conveys what is read from the tree of its text (`Conveys`). A list conveys its items (`conveys_list`) and a
record its fields (`conveys_record`), whatever texts they hold. So requests and claims are read back from what is
written for them (`LoginRequest.read_write` and the like).
-/

namespace Countersign

namespace Json

namespace Node

/-! ### The fields of a record -/

/-- What the members of an object hold under a name. -/
def under (name : String) (members : List (Bytes × Node)) : List Node :=
  (members.filter fun m => Quoted.decode? m.1 == some name).map (·.2)

theorem mem_under {name : String} {members : List (Bytes × Node)} {item : Node} :
    item ∈ under name members ↔ ∃ key, (key, item) ∈ members ∧ Quoted.decode? key = some name := by
  simp [under]

theorem under_append_singleton (name : String) (members : List (Bytes × Node)) {key : Bytes} {field : String}
    (named : Quoted.decode? key = some field) (item : Node) :
    under name (members ++ [(key, item)]) = under name members ++ if field = name then [item] else [] := by
  unfold under
  rw [List.filter_append, List.map_append, List.filter_cons, named]
  by_cases same : field = name <;> simp [same]

/-- Only a place that was empty is filled. -/
theorem mem_fill? {name : String} {item : Node} {held filled : List (String × Option Node)}
    (apart : (held.map (·.1)).Nodup) (fills : fill? name item held = some filled) {field : String} {x : Option Node}
    (member : (field, x) ∈ filled) :
    (field = name ∧ x = some item ∧ (field, none) ∈ held) ∨ (field ≠ name ∧ (field, x) ∈ held) := by
  induction held generalizing filled with
  | nil =>
    obtain rfl : [] = filled := by simpa [fill?] using fills
    simp at member
  | cons first rest ih =>
    obtain ⟨other, value⟩ := first
    obtain ⟨new, apart⟩ := List.nodup_cons.mp apart
    unfold fill? at fills
    split at fills
    case isTrue same =>
      subst same
      cases value with
      | none =>
        obtain rfl : (other, some item) :: rest = filled := by simpa using fills
        rcases List.mem_cons.mp member with same | later
        · obtain ⟨rfl, rfl⟩ := Prod.mk.inj same
          exact .inl ⟨rfl, rfl, List.mem_cons_self⟩
        · refine .inr ⟨?_, List.mem_cons_of_mem _ later⟩
          rintro rfl
          exact new (List.mem_map_of_mem (f := (·.1)) later)
      | some value => simp at fills
    case isFalse differs =>
      obtain ⟨more, found, rfl⟩ := Option.map_eq_some_iff.mp fills
      rcases List.mem_cons.mp member with same | later
      · obtain ⟨rfl, rfl⟩ := Prod.mk.inj same
        exact .inr ⟨differs, List.mem_cons_self⟩
      · rcases ih apart found later with ⟨same, given, empty⟩ | ⟨unlike, kept⟩
        · exact .inl ⟨same, given, List.mem_cons_of_mem _ empty⟩
        · exact .inr ⟨unlike, List.mem_cons_of_mem _ kept⟩

theorem names_fill? {name : String} {item : Node} {held filled : List (String × Option Node)}
    (fills : fill? name item held = some filled) : filled.map (·.1) = held.map (·.1) := by
  induction held generalizing filled with
  | nil =>
    obtain rfl : [] = filled := by simpa [fill?] using fills
    rfl
  | cons first rest ih =>
    obtain ⟨other, value⟩ := first
    unfold fill? at fills
    split at fills
    · cases value with
      | none =>
        obtain rfl : (other, some item) :: rest = filled := by simpa using fills
        rfl
      | some value => simp at fills
    · obtain ⟨more, found, rfl⟩ := Option.map_eq_some_iff.mp fills
      rw [List.map_cons, List.map_cons, ih found]

/-- While members are read, each place has what those already read hold under its name. -/
theorem under_filled {done members : List (Bytes × Node)} {held filled : List (String × Option Node)}
    (apart : (held.map (·.1)).Nodup) (holds : ∀ name x, (name, x) ∈ held → under name done = x.toList)
    (fills : members.foldlM (fun held (key, item) => do fill? (← Quoted.decode? key) item held) held = some filled) :
    filled.map (·.1) = held.map (·.1) ∧
      ∀ name x, (name, x) ∈ filled → under name (done ++ members) = x.toList := by
  induction members generalizing done held with
  | nil =>
    obtain rfl : held = filled := by simpa using fills
    simpa using holds
  | cons member members ih =>
    obtain ⟨key, item⟩ := member
    rw [List.foldlM_cons] at fills
    obtain ⟨next, found, fills⟩ := Option.bind_eq_some_iff.mp fills
    obtain ⟨field, named, found⟩ := Option.bind_eq_some_iff.mp found
    have names := names_fill? found
    have holdsNext (name : String) (x : Option Node) (isNext : (name, x) ∈ next) :
        under name (done ++ [(key, item)]) = x.toList := by
      rw [under_append_singleton name done named]
      rcases mem_fill? apart found isNext with ⟨rfl, rfl, empty⟩ | ⟨unlike, kept⟩
      · rw [holds name none empty, if_pos rfl]
        rfl
      · rw [holds name x kept, if_neg (Ne.symm unlike), List.append_nil]
    obtain ⟨moreNames, all⟩ := ih (names ▸ apart) holdsNext fills
    refine ⟨moreNames.trans names, ?_⟩
    rwa [List.append_cons]

/-- A record has for each field what the object holds under its name, once at most. -/
theorem under_of_fields? {names : List String} {members : List (Bytes × Node)} {fields : List (Option Node)}
    (apart : names.Nodup) (read : fields? names (.object members) = some fields) :
    (names.zip fields).map (·.1) = names ∧
      ∀ name x, (name, x) ∈ names.zip fields → under name members = x.toList := by
  obtain ⟨filled, fills, found⟩ := Option.bind_eq_some_iff.mp read
  obtain rfl : filled.map (·.2) = fields := Option.some.inj found
  have unnamed : (names.map fun name => (name, (none : Option Node))).map (·.1) = names := by
    rw [List.map_map]
    exact List.map_id names
  have nothing (name : String) (x : Option Node) (isEmpty : (name, x) ∈ names.map fun name => (name, none)) :
      under name [] = x.toList := by
    obtain ⟨_, -, same⟩ := List.mem_map.mp isEmpty
    obtain ⟨rfl, rfl⟩ := Prod.mk.inj same
    rfl
  obtain ⟨sameNames, all⟩ := under_filled (unnamed.symm ▸ apart) nothing fills
  rw [unnamed] at sameNames
  rw [← List.zip_of_prod sameNames rfl]
  exact ⟨sameNames, all⟩

/-- A known member of an object is what the record has for its field. -/
theorem fields?_member {names : List String} {members : List (Bytes × Node)} {fields : List (Option Node)}
    (apart : names.Nodup) (read : fields? names (.object members) = some fields) {key : Bytes} {item : Node}
    {name : String} (isMember : (key, item) ∈ members) (named : Quoted.decode? key = some name)
    (known : name ∈ names) : (name, some item) ∈ names.zip fields := by
  obtain ⟨sameNames, all⟩ := under_of_fields? apart read
  rw [← sameNames] at known
  obtain ⟨⟨_, x⟩, given, rfl⟩ := List.mem_map.mp known
  have held : item ∈ under _ members := mem_under.mpr ⟨key, isMember, named⟩
  rw [all _ x given, Option.mem_toList] at held
  exact held ▸ given

/-- Whether an object tells a value under a name: it holds one thing there, and this is read as the value. -/
def Tells {α : Type} (members : List (Bytes × Node)) (name : String) (read : Node → Option α) (value : α) : Prop :=
  ∃ item, under name members = [item] ∧ read item = some value

theorem tells_of_required {α : Type} {names : List String} {members : List (Bytes × Node)}
    {fields : List (Option Node)} (apart : names.Nodup) (isFields : fields? names (.object members) = some fields)
    {name : String} {x : Option Node} (given : (name, x) ∈ names.zip fields) {read : Node → Option α} {value : α}
    (reads : required read x = some value) : Tells members name read value := by
  obtain ⟨item, rfl, reads⟩ := Option.bind_eq_some_iff.mp reads
  exact ⟨item, (under_of_fields? apart isFields).2 name (some item) given, reads⟩

/-- The empty place of a known name takes the value that is given for it, and the others keep theirs. -/
theorem fill?_known {names : List String} (apart : names.Nodup) {name : String} (known : name ∈ names)
    {held : String → Option Node} (empty : held name = none) (item : Node) :
    fill? name item (names.map fun field => (field, held field)) =
      some (names.map fun field => (field, if field = name then some item else held field)) := by
  induction names with
  | nil => simp at known
  | cons first names ih =>
    obtain ⟨new, apart⟩ := List.nodup_cons.mp apart
    rw [List.map_cons, List.map_cons]
    unfold fill?
    by_cases same : first = name
    · subst same
      have kept : names.map (fun field => (field, held field)) =
          names.map fun field => (field, if field = first then some item else held field) := by
        refine List.map_congr_left fun field member => ?_
        rw [if_neg (ne_of_mem_of_not_mem member new)]
      simp [empty, kept]
    · have later := ih apart ((List.mem_cons.mp known).resolve_left (Ne.symm same))
      simp [same, later]

/-- An object that has known fields, each once at most, gives them in the order of the record. -/
theorem fields?_known {names : List String} {members : List (String × Node)} (namesApart : names.Nodup)
    (apart : (members.map (·.1)).Nodup) (known : members.map (·.1) ⊆ names) :
    (Node.object (members.map fun m => (rawOf m.1, m.2))).fields? names =
      some (names.map fun name => members.lookup name) := by
  have filled (held : String → Option Node) (empty : ∀ m ∈ members, held m.1 = none) :
      (members.map fun m => (rawOf m.1, m.2)).foldlM
          (fun held (key, item) => do fill? (← Quoted.decode? key) item held)
          (names.map fun name => (name, held name)) =
        some (names.map fun name => (name, (members.lookup name).or (held name))) := by
    induction members generalizing held with
    | nil => simp
    | cons member members ih =>
      obtain ⟨field, item⟩ := member
      obtain ⟨new, apart⟩ := List.nodup_cons.mp apart
      obtain ⟨isKnown, known⟩ := List.cons_subset.mp known
      obtain ⟨isEmpty, empty⟩ := List.forall_mem_cons.mp empty
      have unlike (m : String × Node) (isMember : m ∈ members) : m.1 ≠ field :=
        ne_of_mem_of_not_mem (List.mem_map_of_mem (f := (·.1)) isMember) new
      have later := ih apart known (fun name => if name = field then some item else held name)
        fun m isMember => by rw [if_neg (unlike m isMember), empty m isMember]
      rw [List.map_cons, List.foldlM_cons]
      simp only [Quoted.decode?_raw, Option.bind_eq_bind, Option.bind_some,
        fill?_known namesApart isKnown isEmpty item]
      refine later.trans (congrArg some (List.map_congr_left fun name _ => ?_))
      by_cases same : name = field
      · subst same
        have once : members.lookup name = none :=
          List.lookup_eq_none_iff.mpr fun m isMember => by simpa using (unlike m isMember).symm
        simp [once]
      · have skipped : (name == field) = false := beq_eq_false_iff_ne.mpr same
        simp [List.lookup_cons, skipped, same]
  have all := filled (fun _ => none) fun m _ => rfl
  unfold fields?
  simp only [Option.bind_eq_bind] at all ⊢
  rw [all, Option.bind_some, List.map_map]
  simp [Function.comp_def]

end Node

/-! ### Values and what they convey -/

/-- Whether the tree of what is written for a value is read as a thing. -/
def Conveys {α : Type} (read : Node → Option α) (v : Value) (a : α) : Prop :=
  ∃ n, v.node? = some n ∧ read n = some a

theorem Conveys.read_write {α : Type} {read : Node → Option α} {v : Value} {a : α} (conveys : Conveys read v a) :
    (Node.read? (Bytes.ofText v.write)).bind read = some a := by
  obtain ⟨n, isTree, reads⟩ := conveys
  rw [Value.read?_write isTree, Option.bind_some, reads]

theorem conveys_text (s : String) : Conveys Node.text? (.string s) s := ⟨_, rfl, Quoted.decode?_raw s⟩

/-- An integer that fits 64 bits is read back. -/
theorem Node.int64?_ofInt {i : Int} (least : Int64.minValue.toInt ≤ i) (most : i ≤ Int64.maxValue.toInt) :
    (Node.int64? (.number (Numeral.ofInt i))).map Int64.toInt = some i := by
  unfold int64? Text.int64?
  dsimp only
  rw [Numeral.int?_ofInt, Option.bind_some, if_pos ⟨least, most⟩, Option.map_some,
    Int64.toInt_ofInt_of_le (by simpa using least) (Int.lt_of_le_of_lt most (by decide))]

theorem conveys_int64 (i : Int64) : Conveys Node.int64? (.int i.toInt) i := by
  refine ⟨.number (.ofInt i.toInt), rfl, ?_⟩
  have read := Node.int64?_ofInt (Int64.minValue_le_toInt i) (Int64.toInt_le i)
  obtain ⟨j, isRead, same⟩ := Option.map_eq_some_iff.mp read
  rw [isRead, Int64.toInt_inj.mp same]

theorem conveys_list {α : Type} {read : Node → Option α} {write : α → Value} (items : List α)
    (each : ∀ a ∈ items, Conveys read (write a) a) :
    Conveys (Node.list? read) (.array (items.map write)) items := by
  have trees : ∃ nodes, Value.itemNodes? (items.map write) = some nodes ∧ nodes.mapM read = some items := by
    induction items with
    | nil => exact ⟨[], rfl, rfl⟩
    | cons a items ih =>
      obtain ⟨⟨n, isTree, reads⟩, later⟩ := List.forall_mem_cons.mp each
      obtain ⟨nodes, areTrees, readAll⟩ := ih later
      exact ⟨n :: nodes, by simp [Value.itemNodes?, isTree, areTrees], by simp [reads, readAll]⟩
  obtain ⟨nodes, areTrees, readAll⟩ := trees
  exact ⟨.array nodes, by simp [Value.node?, areTrees], readAll⟩

/-- An object conveys what is read from its members, each for itself. -/
theorem conveys_members {α β : Type} {read : Node → Option β} {readMember : Bytes × Node → Option α}
    {key : α → String} {write : α → Value} {collect : List α → β} (entries : List α)
    (reads : ∀ members, read (.object members) = (members.mapM readMember).map collect)
    (each : ∀ a ∈ entries, Conveys (fun n => readMember (rawOf (key a), n)) (write a) a) :
    Conveys read (.object (entries.map fun a => (key a, write a))) (collect entries) := by
  have trees : ∃ members, Value.memberNodes? (entries.map fun a => (key a, write a)) = some members ∧
      members.mapM readMember = some entries := by
    induction entries with
    | nil => exact ⟨[], rfl, rfl⟩
    | cons a entries ih =>
      obtain ⟨⟨n, isTree, reads⟩, later⟩ := List.forall_mem_cons.mp each
      obtain ⟨members, areTrees, readAll⟩ := ih later
      exact ⟨(rawOf (key a), n) :: members, by simp [Value.memberNodes?, isTree, areTrees], by simp [reads, readAll]⟩
  obtain ⟨members, areTrees, readAll⟩ := trees
  exact ⟨.object members, by simp [Value.node?, areTrees], by rw [reads, readAll, Option.map_some]⟩

/-- A record conveys what is read from its fields, which are known by their names. -/
theorem conveys_record {α : Type} {read : Node → Option α} {members : List (String × Value)} {a : α}
    (names : List String) (nodes : List (String × Node))
    (trees : Value.memberNodes? members = some (nodes.map fun m => (rawOf m.1, m.2))) (namesApart : names.Nodup)
    (apart : (nodes.map (·.1)).Nodup) (known : nodes.map (·.1) ⊆ names)
    (reads : ∀ tree, (Node.object tree).fields? names = some (names.map fun name => nodes.lookup name) →
      read (.object tree) = some a) :
    Conveys read (.object members) a :=
  ⟨_, by simp [Value.node?, trees], reads _ (Node.fields?_known namesApart apart known)⟩

end Json

/-! ### Requests -/

section

open Json (Node)

variable {n : Node}

theorem LoginRequest.ofNode?_eq_some {r : LoginRequest} : LoginRequest.ofNode? n = some r ↔
    ∃ key email password, n.fields? ["public_key", "email", "password"] = some [key, email, password] ∧
      textOrEmpty key = some r.publicKey ∧ textOrEmpty email = some r.email ∧
      textOrEmpty password = some r.password := by
  obtain ⟨publicKey, address, secret⟩ := r
  constructor
  · intro read
    obtain ⟨fields, isFields, read⟩ := Option.bind_eq_some_iff.mp read
    split at read
    next key email password =>
      obtain ⟨_, readsKey, read⟩ := Option.bind_eq_some_iff.mp read
      obtain ⟨_, readsEmail, read⟩ := Option.bind_eq_some_iff.mp read
      obtain ⟨_, readsPassword, read⟩ := Option.bind_eq_some_iff.mp read
      cases read
      exact ⟨key, email, password, isFields, readsKey, readsEmail, readsPassword⟩
    next => simp at read
  · rintro ⟨key, email, password, isFields, readsKey, readsEmail, readsPassword⟩
    simp [LoginRequest.ofNode?, isFields, readsKey, readsEmail, readsPassword]

theorem RefreshRequest.ofNode?_eq_some {r : RefreshRequest} : RefreshRequest.ofNode? n = some r ↔
    ∃ email refresh, n.fields? ["email", "refresh_token"] = some [email, refresh] ∧
      textOrEmpty email = some r.email ∧ textOrEmpty refresh = some r.refreshToken := by
  obtain ⟨address, token⟩ := r
  constructor
  · intro read
    obtain ⟨fields, isFields, read⟩ := Option.bind_eq_some_iff.mp read
    split at read
    next email refresh =>
      refine ⟨email, refresh, isFields, ?_⟩
      simpa [Option.bind_eq_some_iff] using read
    next => simp at read
  · rintro ⟨email, refresh, isFields, readsEmail, readsToken⟩
    simp [RefreshRequest.ofNode?, isFields, readsEmail, readsToken]

theorem LogoutRequest.ofNode?_eq_some {r : LogoutRequest} : LogoutRequest.ofNode? n = some r ↔
    ∃ email token refresh, n.fields? ["email", "token", "refresh_token"] = some [email, token, refresh] ∧
      textOrEmpty email = some r.email ∧
      Node.defaulting (Node.nullable? Node.text?) none token = some r.token ∧
      Node.defaulting (Node.nullable? Node.text?) none refresh = some r.refreshToken := by
  obtain ⟨address, session, renewal⟩ := r
  constructor
  · intro read
    obtain ⟨fields, isFields, read⟩ := Option.bind_eq_some_iff.mp read
    split at read
    next email token refresh =>
      obtain ⟨_, readsEmail, read⟩ := Option.bind_eq_some_iff.mp read
      obtain ⟨_, readsToken, read⟩ := Option.bind_eq_some_iff.mp read
      obtain ⟨_, readsRefresh, read⟩ := Option.bind_eq_some_iff.mp read
      cases read
      exact ⟨email, token, refresh, isFields, readsEmail, readsToken, readsRefresh⟩
    next => simp at read
  · rintro ⟨email, token, refresh, isFields, readsEmail, readsToken, readsRefresh⟩
    simp [LogoutRequest.ofNode?, isFields, readsEmail, readsToken, readsRefresh]

theorem TokenLookup.ofNode?_eq_some {r : TokenLookup} : TokenLookup.ofNode? n = some r ↔
    ∃ email token, n.fields? ["email", "token"] = some [email, token] ∧
      textOrEmpty email = some r.email ∧ textOrEmpty token = some r.token := by
  obtain ⟨address, session⟩ := r
  constructor
  · intro read
    obtain ⟨fields, isFields, read⟩ := Option.bind_eq_some_iff.mp read
    split at read
    next email token =>
      refine ⟨email, token, isFields, ?_⟩
      simpa [Option.bind_eq_some_iff] using read
    next => simp at read
  · rintro ⟨email, token, isFields, readsEmail, readsToken⟩
    simp [TokenLookup.ofNode?, isFields, readsEmail, readsToken]

end

/-! ### What is written -/

open Json (Node Value conveys_record rawOf)

theorem textOrEmpty_raw (text : String) : textOrEmpty (some (.string (rawOf text))) = some text :=
  Json.Quoted.decode?_raw text

theorem LoginRequest.read_write (r : LoginRequest) :
    (Node.read? (Bytes.ofText r.toValue.write)).bind ofNode? = some r := by
  refine (conveys_record ["public_key", "email", "password"]
    [("public_key", .string (rawOf r.publicKey)), ("email", .string (rawOf r.email)),
      ("password", .string (rawOf r.password))]
    rfl (by simp) (by simp) (by simp) fun tree isRecord => ?_).read_write
  unfold ofNode?
  rw [isRecord]
  simp [List.lookup_cons, textOrEmpty_raw]

theorem RefreshRequest.read_write (r : RefreshRequest) :
    (Node.read? (Bytes.ofText r.toValue.write)).bind ofNode? = some r := by
  refine (conveys_record ["email", "refresh_token"]
    [("email", .string (rawOf r.email)), ("refresh_token", .string (rawOf r.refreshToken))]
    rfl (by simp) (by simp) (by simp) fun tree isRecord => ?_).read_write
  unfold ofNode?
  rw [isRecord]
  simp [List.lookup_cons, textOrEmpty_raw]

/-- A logout may name its session token alone. -/
theorem LogoutRequest.read_token (token : String) :
    (Node.read? (Bytes.ofText (Value.object [("token", .string token)]).write)).bind ofNode? =
      some ⟨"", some token, none⟩ := by
  have isText : Node.text? (.string (rawOf token)) = some token := Json.Quoted.decode?_raw token
  refine (conveys_record ["email", "token", "refresh_token"]
    [("token", .string (rawOf token))]
    rfl (by simp) (by simp) (by simp) fun tree isRecord => ?_).read_write
  unfold ofNode?
  rw [isRecord]
  simp [List.lookup_cons, textOrEmpty, Node.defaulting, Node.nullable?, isText]

theorem Claims.read_write {c : Claims}
    (inRange : ∀ i ∈ [c.issuedAt, c.notBefore, c.expires], Int64.minValue.toInt ≤ i ∧ i ≤ Int64.maxValue.toInt) :
    (Node.read? (Bytes.ofText c.toValue.write)).bind ofNode? = some c := by
  have text (s : String) : Node.text? (.string (rawOf s)) = some s := Json.Quoted.decode?_raw s
  have time {i : Int} (member : i ∈ [c.issuedAt, c.notBefore, c.expires]) :
      (Node.int64? (.number (Json.Numeral.ofInt i))).map Int64.toInt = some i :=
    Node.int64?_ofInt (inRange i member).1 (inRange i member).2
  have issuedAt := @time c.issuedAt (by simp)
  have notBefore := @time c.notBefore (by simp)
  have expires := @time c.expires (by simp)
  refine (conveys_record ["sub", "iss", "aud", "iat", "nbf", "exp"]
    [("sub", .string (rawOf c.subject)), ("iss", .string (rawOf c.issuer)),
      ("aud", .string (rawOf c.audience)), ("iat", .number (.ofInt c.issuedAt)),
      ("nbf", .number (.ofInt c.notBefore)), ("exp", .number (.ofInt c.expires))]
    rfl (by simp) (by simp) (by simp) fun tree isRecord => ?_).read_write
  unfold ofNode?
  simp [isRecord, List.lookup_cons, Node.required, text, issuedAt, notBefore, expires]

/-- A time in claims. -/
def Claims.time? (item : Node) : Option Int := item.int64?.map Int64.toInt

/-- What an object has to tell for claims to be its own. -/
structure Claims.Told (c : Claims) (members : List (Bytes × Node)) : Prop where
  subject : Node.Tells members "sub" Node.text? c.subject
  issuer : Node.Tells members "iss" Node.text? c.issuer
  audience : Node.Tells members "aud" Node.text? c.audience
  issuedAt : Node.Tells members "iat" time? c.issuedAt
  notBefore : Node.Tells members "nbf" time? c.notBefore
  expires : Node.Tells members "exp" time? c.expires

/-- Claims are read from an object that tells all six. -/
theorem Claims.told_of_ofNode? {n : Node} {c : Claims} (read : ofNode? n = some c) :
    ∃ members, n = .object members ∧ c.Told members := by
  unfold ofNode? at read
  split at read
  next members =>
    obtain ⟨fields, isFields, read⟩ := Option.bind_eq_some_iff.mp read
    split at read
    next sub iss aud iat nbf exp =>
      have tells {α : Type} {name : String} {x : Option Node} {kind : Node → Option α} {value : α}
          (given : (name, x) ∈ ["sub", "iss", "aud", "iat", "nbf", "exp"].zip [sub, iss, aud, iat, nbf, exp])
          (reads : Node.required kind x = some value) : Node.Tells members name kind value :=
        Node.tells_of_required (by decide) isFields given reads
      have time {x : Option Node} {value : Int} (reads : (Node.required Node.int64? x).map Int64.toInt = some value) :
          Node.required time? x = some value := by
        cases x with
        | none => simp [Node.required] at reads
        | some item => exact reads
      obtain ⟨subject, isSubject, read⟩ := Option.bind_eq_some_iff.mp read
      obtain ⟨issuer, isIssuer, read⟩ := Option.bind_eq_some_iff.mp read
      obtain ⟨audience, isAudience, read⟩ := Option.bind_eq_some_iff.mp read
      obtain ⟨issuedAt, isIssuedAt, read⟩ := Option.bind_eq_some_iff.mp read
      obtain ⟨notBefore, isNotBefore, read⟩ := Option.bind_eq_some_iff.mp read
      obtain ⟨expires, isExpires, read⟩ := Option.bind_eq_some_iff.mp read
      obtain rfl := Option.some.inj read
      exact ⟨members, rfl, {
        subject := tells (by simp) isSubject
        issuer := tells (by simp) isIssuer
        audience := tells (by simp) isAudience
        issuedAt := tells (by simp) (time isIssuedAt)
        notBefore := tells (by simp) (time isNotBefore)
        expires := tells (by simp) (time isExpires) }⟩
    next => cases read
  next => cases read

end Countersign
