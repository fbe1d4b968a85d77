import Countersign.Proofs.Progress
import Countersign.Proofs.Tokens

/-!
Which tokens are good, and when.

A token that is given out is good from a minute before its second to half a minute after its lifetime, and tells what
it was given out for; before and after it is refused for this reason (`TokenService.parse_issued`). One that is given
out in a leap second begins a second later (`TokenService.leapSecond_begins_later`).

And no token is good that the holder of the secret has not signed: each one has a header that names the algorithm, a
signature that is the HMAC of what stands before it, and a payload that tells the claims
(`TokenService.parse_authentic`). As Base64 has one text for each sequence of octets, the signature of a good token
cannot be written in another way.
-/

namespace Countersign

open Json (Node)

/-! ### When -/

namespace TokenService

/-- When the tokens of an instant begin: half a minute before its second, or a second later if that is a leap second. -/
def beginning (now : Instant) : Int := now.seconds - 30 + if now.isLeap then 1 else 0

/-- A token that is given out is good from half a minute before its beginning, a minute before its second in most cases,
to half a minute after its lifetime. -/
theorem parse_issued (service : TokenService) (subject : String) {lifetime : Lifetime}
    (lasting : 0 ≤ lifetime.seconds) {now : Instant} (late : 30 ≤ now.seconds)
    (inRange : Instant.inCalendar (now.seconds + lifetime.seconds)) :
    ∃ token, service.issueAt subject lifetime now = some token ∧ ∀ later : Instant, 30 ≤ later.seconds →
      (∀ c, service.parse token later = some (.ok c) ↔
        (beginning now - 30 ≤ later.seconds ∧ later.seconds ≤ now.seconds + lifetime.seconds + 30) ∧
          c = ⟨subject, "mwui", "mwui-clients", now.seconds, beginning now, now.seconds + lifetime.seconds⟩) ∧
      (now.seconds + lifetime.seconds + 30 < later.seconds → service.parse token later = some (.error .expired)) ∧
      (later.seconds < beginning now - 30 → service.parse token later = some (.error .notYetValid)) := by
  have leeway_eq : leeway = 30 := rfl
  have issued : service.issueAt subject lifetime now = some _ := issueAt_of_inCalendar (by omega) lasting inRange
  have read := read_of_issueAt issued late (by omega)
  have isClaims : claims subject lifetime now =
      ⟨subject, "mwui", "mwui-clients", now.seconds, beginning now, now.seconds + lifetime.seconds⟩ := by
    rw [beginning, ← leeway_eq, ← notBefore_claims subject lifetime now, ← expires_claims subject lasting now]
    rfl
  have begins : beginning now - 30 ≤ now.seconds := by
    unfold beginning
    split <;> omega
  refine ⟨_, issued, fun later lateToo => ?_⟩
  rw [parse_of_late read lateToo, isClaims]
  refine ⟨fun c => ?_, fun ended => ?_, fun early => ?_⟩
  · rw [Option.some.injEq, checkClaims_eq_ok_iff]
    dsimp only
    constructor
    · rintro ⟨⟨unended, begun, -⟩, rfl⟩
      exact ⟨⟨by omega, by omega⟩, rfl⟩
    · rintro ⟨⟨begun, unended⟩, rfl⟩
      exact ⟨⟨by omega, by omega, rfl, rfl⟩, rfl⟩
  · unfold checkClaims
    dsimp only
    rw [if_pos (by omega)]
  · unfold checkClaims
    dsimp only
    rw [if_neg (by omega), if_pos (by omega)]

/-- The window of a token that is good for five seconds, and whose subject is written with escapes. -/
theorem parse_issued_escaped :
    ∃ token, Sample.service.tokens.issueAt "\"\\\x00\n\u00e9" ⟨5, by decide⟩ ⟨100, 999999999⟩ = some token ∧
      ∀ later : Instant, 30 ≤ later.seconds →
        (∀ c, Sample.service.tokens.parse token later = some (.ok c) ↔
          (40 ≤ later.seconds ∧ later.seconds ≤ 135) ∧
            c = ⟨"\"\\\x00\n\u00e9", "mwui", "mwui-clients", 100, 70, 105⟩) ∧
        (135 < later.seconds → Sample.service.tokens.parse token later = some (.error .expired)) ∧
        (later.seconds < 40 → Sample.service.tokens.parse token later = some (.error .notYetValid)) :=
  parse_issued Sample.service.tokens _ (by decide) (by decide) (by decide)

/-- A token of the leap second at the end of 2016 is not yet valid a minute before the second that it prolongs, as it
begins one second later than half a minute before. -/
theorem leapSecond_begins_later :
    ∃ token, Sample.service.tokens.issueAt "a" ⟨300, by decide⟩ ⟨1483228799, 1500000000⟩ = some token ∧
      Sample.service.tokens.parse token ⟨1483228799 - 60, 0⟩ = some (.error .notYetValid) ∧
      Sample.service.tokens.parse token ⟨1483228799, 0⟩ =
        some (.ok ⟨"a", "mwui", "mwui-clients", 1483228799, 1483228799 - 29, 1483228799 + 300⟩) := by
  have issued : Sample.service.tokens.issueAt "a" ⟨300, by decide⟩ ⟨1483228799, 1500000000⟩ = some _ :=
    issueAt_of_inCalendar (by decide) (by decide) (by decide)
  have read := read_of_issueAt issued (by decide) (by decide)
  refine ⟨_, issued, ?_, ?_⟩
  · rw [parse_of_late read (by decide)]
    decide
  · rw [parse_of_late read (by decide)]
    decide

end TokenService

/-! ### Which -/

/-- What members hold under a name is what they hold under it when their names are read. -/
theorem Json.Node.under_of_mapM {members : List (Bytes × Node)} {named : List (String × Node)}
    (reads : (members.mapM fun (key, item) => (Quoted.decode? key).map fun key => (key, item)) = some named)
    (name : String) : under name members = (named.filter (·.1 == name)).map (·.2) := by
  induction members generalizing named with
  | nil =>
    obtain rfl : [] = named := by simpa using reads
    rfl
  | cons member members ih =>
    obtain ⟨key, item⟩ := member
    rw [List.mapM_cons] at reads
    obtain ⟨first, isFirst, reads⟩ := Option.bind_eq_some_iff.mp reads
    obtain ⟨rest, isRest, reads⟩ := Option.bind_eq_some_iff.mp reads
    obtain rfl := Option.some.inj reads
    obtain ⟨field, isField, rfl⟩ := Option.map_eq_some_iff.mp isFirst
    have later := ih isRest
    unfold under at later ⊢
    by_cases same : field = name <;> simp [isField, same, later]

/-- Of a name that must not stand twice there is one member, the one that is looked up. -/
theorem TokenHeader.filter_of_lookup {named : List (String × Node)} {known : String → Bool}
    (apart : ((named.map Prod.fst).filter known).Nodup) {name : String} (isKnown : known name = true) {item : Node}
    (isItem : named.lookup name = some item) : named.filter (·.1 == name) = [(name, item)] := by
  obtain ⟨before, after, rfl, others⟩ := List.lookup_eq_some_iff.mp isItem
  rw [List.map_append, List.map_cons, List.filter_append, List.filter_cons, if_pos isKnown] at apart
  have once := (List.nodup_cons.mp (List.nodup_append.mp apart).2.1).1
  have noneBefore : before.filter (·.1 == name) = [] := by
    rw [List.filter_eq_nil_iff]
    intro m isMember same
    exact bne_iff_ne.mp (others m isMember) (beq_iff_eq.mp same).symm
  have noneAfter : after.filter (·.1 == name) = [] := by
    rw [List.filter_eq_nil_iff]
    intro m isMember same
    obtain rfl := beq_iff_eq.mp same
    exact once (List.mem_filter.mpr ⟨List.mem_map.mpr ⟨m, isMember, rfl⟩, isKnown⟩)
  rw [List.filter_append, List.filter_cons, noneBefore, noneAfter, if_pos (beq_self_eq_true name)]
  rfl

/-- A header tells the algorithm that is read from it. -/
theorem TokenHeader.tells_of_read? {n : Node} {name : String} (read : read? n = some name) :
    ∃ members, n = .object members ∧ Node.Tells members "alg" Node.word? name := by
  unfold read? at read
  split at read
  next members =>
    obtain ⟨named, isNamed, read⟩ := Option.bind_eq_some_iff.mp read
    dsimp only at read
    split at read
    next fits =>
      obtain ⟨item, isItem, read⟩ := Option.bind_eq_some_iff.mp read
      obtain ⟨word, isWord, known⟩ := Option.bind_eq_some_iff.mp read
      obtain rfl : name = word := by simpa using List.find?_some known
      refine ⟨members, rfl, item, ?_, isWord⟩
      rw [Node.under_of_mapM isNamed, filter_of_lookup fits.1 (by simp) isItem]
      rfl
    next => cases read
  next => cases read

namespace TokenService

/-- Whether three texts are what the holder of the secret wrote to sign claims. -/
structure Authentic (service : TokenService) (header payload signature : String) (c : Claims) : Prop where
  undotted : ∀ part ∈ [header, payload, signature], '.' ∉ part.toList
  algorithm : ∃ members, (Base64.decode? .urlSafe header).bind Node.read? = some (.object members) ∧
    Node.Tells members "alg" Node.word? "HS256"
  signed : Base64.decode? .urlSafe signature =
    some (Hash.hmac service.secret (Bytes.ofText (header ++ "." ++ payload)))
  told : ∃ members, (Base64.decode? .urlSafe payload).bind Node.read? = some (.object members) ∧ c.Told members

/-- Two signatures of the same are the same text. -/
theorem Authentic.signature_unique {service : TokenService} {header payload signature signature' : String}
    {c c' : Claims} (authentic : service.Authentic header payload signature c)
    (authenticToo : service.Authentic header payload signature' c') : signature = signature' :=
  Base64.decode?_injective authentic.signed authenticToo.signed

/-- A text falls into such parts in one way. -/
theorem Authentic.parts_unique {service : TokenService} {header payload signature rest : String}
    {header' payload' signature' : String} {c c' : Claims} (authentic : service.Authentic header payload signature c)
    (authenticToo : service.Authentic header' payload' signature' c')
    (same : header ++ "." ++ payload ++ "." ++ rest = header' ++ "." ++ payload' ++ "." ++ signature') :
    header = header' ∧ payload = payload' ∧ rest = signature' := by
  have split (a b c : String) :
      (a ++ "." ++ b ++ "." ++ c).toList = a.toList ++ '.' :: (b.toList ++ '.' :: c.toList) := by
    simp
  have texts := congrArg String.toList same
  rw [split, split] at texts
  obtain ⟨headers, texts⟩ := Text.append_cons_inj (authentic.undotted header (by simp))
    (authenticToo.undotted header' (by simp)) texts
  obtain ⟨payloads, signatures⟩ := Text.append_cons_inj (authentic.undotted payload (by simp))
    (authenticToo.undotted payload' (by simp)) texts
  exact ⟨String.toList_injective headers, String.toList_injective payloads, String.toList_injective signatures⟩

/-- What is read is signed. -/
theorem authentic_of_read {service : TokenService} {token : String} {c : Claims} (isRead : service.read token = .ok c) :
    ∃ header payload signature, token = header ++ "." ++ payload ++ "." ++ signature ∧
      service.Authentic header payload signature c := by
  obtain ⟨header, payload, signature, parts, isHeader, signed, isPayload, -⟩ := (read_eq_ok_iff service).mp isRead
  obtain ⟨document, isDocument, isHeader⟩ := Option.bind_eq_some_iff.mp isHeader
  obtain ⟨members, rfl, tells⟩ := TokenHeader.tells_of_read? isHeader
  obtain ⟨document, isPayload, isClaims⟩ := Option.bind_eq_some_iff.mp isPayload
  obtain ⟨fields, rfl, told⟩ := Claims.told_of_ofNode? isClaims
  have whole := Text.intercalate_parts '.' token.toList
  rw [parts] at whole
  refine ⟨String.ofList header, String.ofList payload, String.ofList signature, ?_, ?_,
    ⟨members, isDocument, tells⟩, ?_, ⟨fields, isPayload, told⟩⟩
  · refine String.toList_injective ?_
    rw [← whole]
    simp [List.intercalate]
  · have undotted (part : List Char) (isPart : part ∈ [header, payload, signature]) :
        '.' ∉ (String.ofList part).toList := by
      rw [String.toList_ofList]
      exact Text.not_mem_of_mem_parts (parts ▸ isPart)
    simpa using undotted
  · have message : String.ofList header ++ "." ++ String.ofList payload = String.ofList (header ++ '.' :: payload) := by
      refine String.toList_injective ?_
      simp
    rw [signed, message]

/-- A token that is good was signed by the holder of the secret: it has three parts, of which the first names the
algorithm, the second tells the claims, and the third is the HMAC of the first two; the claims are of the one issuer
for the one audience, and the clock is between their beginning and their end. No other good token has the same first
two parts. -/
theorem parse_authentic {service : TokenService} {token : String} {c : Claims} {now : Instant}
    (parsed : service.parse token now = some (.ok c)) :
    ∃ header payload signature, token = header ++ "." ++ payload ++ "." ++ signature ∧
      service.Authentic header payload signature c ∧ c.issuer = "mwui" ∧ c.audience = "mwui-clients" ∧
      (0 ≤ c.expires ∧ now.seconds - 30 ≤ c.expires) ∧ (0 ≤ c.notBefore ∧ c.notBefore ≤ now.seconds + 30) ∧
      ∀ (token' : String) (now' : Instant) (c' : Claims), service.parse token' now' = some (.ok c') →
        (∃ rest, token' = header ++ "." ++ payload ++ "." ++ rest) → token' = token := by
  obtain ⟨isRead, -, unended, begun, issuer, audience⟩ := parse_eq_ok_iff.mp parsed
  obtain ⟨-, -, -, -, -, -, -, expires, notBefore⟩ := (read_eq_ok_iff service).mp isRead
  obtain ⟨header, payload, signature, isToken, authentic⟩ := authentic_of_read isRead
  refine ⟨header, payload, signature, isToken, authentic, issuer, audience, ⟨expires, unended⟩, ⟨notBefore, begun⟩, ?_⟩
  rintro token' now' c' parsed' ⟨rest, isPrefix⟩
  obtain ⟨header', payload', signature', isToken', authentic'⟩ := authentic_of_read (parse_eq_ok_iff.mp parsed').1
  obtain ⟨rfl, rfl, rfl⟩ := authentic.parts_unique authentic' (isPrefix.symm.trans isToken')
  rw [isPrefix, isToken, authentic.signature_unique authentic']

theorem parse_authentic_minute : ∃ c, Sample.service.tokens.parse Sample.token ⟨60, 0⟩ = some (.ok c) ∧
    ∃ header payload signature, Sample.token = header ++ "." ++ payload ++ "." ++ signature ∧
      Sample.service.tokens.Authentic header payload signature c ∧ c.issuer = "mwui" ∧ c.audience = "mwui-clients" ∧
      (0 ≤ c.expires ∧ 60 - 30 ≤ c.expires) ∧ (0 ≤ c.notBefore ∧ c.notBefore ≤ 60 + 30) ∧
      ∀ (token' : String) (now' : Instant) (c' : Claims), Sample.service.tokens.parse token' now' = some (.ok c') →
        (∃ rest, token' = header ++ "." ++ payload ++ "." ++ rest) → token' = Sample.token :=
  ⟨_, Sample.token_parses, parse_authentic Sample.token_parses⟩

end TokenService

end Countersign
