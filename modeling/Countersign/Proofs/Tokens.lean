import Countersign.Proofs.Records
import Countersign.Proofs.Signing

/-!
What a token tells.

No two claims have one text (`Claims.write_injective`), and no two of them one token
(`TokenService.encode_injective`). But claims count time in seconds, so a token tells its subject and the second in
which it was given out (`TokenService.issueAt_injective`), and no more: two that were given out for one subject in one
second are the same (`TokenService.issueAt_congr`).

A service reads the claims that it signed (`TokenService.read_eq_ok_iff`), so of its own tokens what it wrote there
(`TokenService.read_encode_eq_ok_iff`), and takes them from their beginning to their end
(`TokenService.parse_eq_ok_iff`).
-/

namespace Countersign

open Json (Value)

namespace Claims

open Json.Quoted (escape quoted_append_inj toList_writeOnto)

/-- A member of an object that is a string, with the quote that ends it. -/
def textMember (key value : String) : List Char :=
  '"' :: (key.toList.flatMap escape ++ '"' :: ':' :: '"' :: (value.toList.flatMap escape ++ ['"']))

/-- A member of an object that is a number. -/
def timeMember (key : String) (value : Int) : List Char :=
  '"' :: (key.toList.flatMap escape ++ '"' :: ':' :: (Text.ofInt value).toList)

theorem toList_write (c : Claims) : c.toValue.write.toList =
    '\x7b' :: (textMember "sub" c.subject ++ ',' :: (textMember "iss" c.issuer ++ ',' ::
      (textMember "aud" c.audience ++ ',' :: (timeMember "iat" c.issuedAt ++ ',' ::
        (timeMember "nbf" c.notBefore ++ ',' :: (timeMember "exp" c.expires ++ ['\x7d'])))))) := by
  simp [toValue, Value.write, Value.writeOnto, Value.writeMembers, Value.int, Json.Number.write, toList_writeOnto,
    textMember, timeMember]

theorem textMember_append_inj {key s t : String} {a b : List Char}
    (same : textMember key s ++ a = textMember key t ++ b) : s = t ∧ a = b := by
  simp only [textMember, List.cons_append, List.append_assoc, List.nil_append, List.cons.injEq, true_and,
    List.append_cancel_left_eq] at same
  obtain ⟨texts, rest⟩ := quoted_append_inj same
  exact ⟨String.toList_injective texts, rest⟩

theorem timeMember_append_inj {key : String} {i j : Int} {x : Char} {a b : List Char}
    (ends : x ≠ '-' ∧ x.isDigit = false) (same : timeMember key i ++ x :: a = timeMember key j ++ x :: b) :
    i = j ∧ a = b := by
  have noEnd (k : Int) : x ∉ (Text.ofInt k).toList := by
    intro member
    rcases Text.mem_ofInt member with sign | digit
    · exact ends.1 sign
    · rw [ends.2] at digit
      cases digit
  simp only [timeMember, List.cons_append, List.append_assoc, List.cons.injEq, true_and,
    List.append_cancel_left_eq] at same
  obtain ⟨texts, rest⟩ := Text.append_cons_inj (noEnd i) (noEnd j) same
  exact ⟨Text.ofInt_injective (String.toList_injective texts), rest⟩

theorem write_injective {c d : Claims} (same : c.toValue.write = d.toValue.write) : c = d := by
  have texts := congrArg String.toList same
  rw [toList_write, toList_write] at texts
  obtain ⟨subject, rest⟩ := textMember_append_inj (List.cons.inj texts).2
  obtain ⟨issuer, rest⟩ := textMember_append_inj (List.cons.inj rest).2
  obtain ⟨audience, rest⟩ := textMember_append_inj (List.cons.inj rest).2
  obtain ⟨issuedAt, rest⟩ := timeMember_append_inj (by decide) (List.cons.inj rest).2
  obtain ⟨notBefore, rest⟩ := timeMember_append_inj (by decide) rest
  obtain ⟨expires, -⟩ := timeMember_append_inj (by decide) rest
  cases c
  cases d
  simp_all

end Claims

theorem Base64.dot_not_mem (b : Bytes) : '.' ∉ (encode .urlSafe b).toList :=
  fun member => all_encode .urlSafe (p := (· ≠ '.')) (by decide) member rfl

namespace TokenService

/-- A text as a part of a token. -/
def part (text : String) : String := Base64.encode .urlSafe (Bytes.ofText text)

/-- What is signed of a token. -/
def message (c : Claims) : String := part TokenHeader.text ++ "." ++ part c.toValue.write

variable (service : TokenService)

theorem toList_encode (c : Claims) : (service.encode c).toList =
    (part TokenHeader.text).toList ++ '.' :: ((part c.toValue.write).toList ++ '.' ::
      (service.sign (message c)).toList) := by
  simp [encode, message, part]

theorem encode_plain (c : Claims) : Json.Plain (service.encode c) := by
  have dot : Json.Plain "." := by decide
  have part (text : String) : Json.Plain (part text) := Base64.encode_plain .urlSafe _
  unfold encode
  exact ((((part _).append dot).append (part _)).append dot).append (Base64.encode_plain .urlSafe _)

theorem encode_injective {c d : Claims} (same : service.encode c = service.encode d) : c = d := by
  have texts := congrArg String.toList same
  rw [toList_encode, toList_encode] at texts
  have payloads := (List.cons.inj (List.append_cancel_left texts)).2
  obtain ⟨payload, -⟩ := Text.append_cons_inj (Base64.dot_not_mem _) (Base64.dot_not_mem _) payloads
  have written := Base64.encode_injective .urlSafe (String.toList_injective payload)
  exact Claims.write_injective (Bytes.ofText_injective written)

/-- A token given out in a leap second begins a second later than others do. -/
theorem notBefore_claims (subject : String) (lifetime : Lifetime) (now : Instant) :
    (claims subject lifetime now).notBefore = now.seconds - leeway + if now.isLeap then 1 else 0 := by
  have back : -leeway < 0 := by decide
  show (now.plus (-leeway)).seconds = _
  rw [Instant.seconds_plus, Int.sub_eq_add_neg]
  simp only [back, and_true]

theorem expires_claims (subject : String) {lifetime : Lifetime} (lasting : 0 ≤ lifetime.seconds) (now : Instant) :
    (claims subject lifetime now).expires = now.seconds + lifetime.seconds :=
  now.seconds_plus_of_nonneg lasting

section

variable {service : TokenService} {subject subject' token : String} {lifetime lifetime' : Lifetime}
  {now now' : Instant}

theorem issueAt_eq_some_iff : service.issueAt subject lifetime now = some token ↔
    (Instant.inCalendar (claims subject lifetime now).notBefore ∧
      Instant.inCalendar (claims subject lifetime now).expires) ∧
        service.encode (claims subject lifetime now) = token := by
  unfold issueAt
  dsimp only
  rw [Option.ite_none_right_eq_some, Option.some.injEq]

/-- If its times are in the calendar, a token can be given out. -/
theorem issueAt_of_inCalendar (first : 0 ≤ now.seconds) (lasting : 0 ≤ lifetime.seconds)
    (ends : Instant.inCalendar (now.seconds + lifetime.seconds)) :
    service.issueAt subject lifetime now = some (service.encode (claims subject lifetime now)) := by
  have inLeeway : leeway = 30 := rfl
  refine issueAt_eq_some_iff.mpr ⟨⟨?_, ?_⟩, rfl⟩
  · rw [notBefore_claims]
    unfold Instant.inCalendar at ends ⊢
    split <;> omega
  · rw [expires_claims subject lasting]
    exact ends

/-- A token tells its subject and the second in which it was given out. -/
theorem issueAt_injective (issued : service.issueAt subject lifetime now = some token)
    (issuedToo : service.issueAt subject' lifetime' now' = some token) :
    subject = subject' ∧ now.truncated = now'.truncated := by
  have same := encode_injective service
    ((issueAt_eq_some_iff.mp issued).2.trans (issueAt_eq_some_iff.mp issuedToo).2.symm)
  have seconds : now.seconds = now'.seconds := congrArg Claims.issuedAt same
  have begins := congrArg Claims.notBefore same
  rw [notBefore_claims, notBefore_claims, seconds] at begins
  have leaps : (if now.isLeap then (1 : Int) else 0) = if now'.isLeap then 1 else 0 := Int.add_left_cancel begins
  refine ⟨congrArg Claims.subject same, Instant.truncated_eq_iff.mpr ⟨seconds, ?_⟩⟩
  revert leaps
  cases now.isLeap <;> cases now'.isLeap <;> decide

/-- It tells no more: within a second the same is given out again. -/
theorem issueAt_congr (same : now.truncated = now'.truncated) :
    service.issueAt subject lifetime now = service.issueAt subject lifetime now' := by
  obtain ⟨seconds, leaps⟩ := Instant.truncated_eq_iff.mp same
  unfold issueAt claims
  simp only [Instant.seconds_plus, seconds, leaps]

theorem issuePair_eq_some_iff {pair : TokenPair} : service.issuePair subject now = some pair ↔
    now.onClock? = some now ∧ service.issueAt subject service.sessionLifetime now = some pair.token ∧
      service.issueAt subject service.refreshLifetime now = some pair.refreshToken := by
  constructor
  · intro issued
    obtain ⟨t, shown, given⟩ := Option.bind_eq_some_iff.mp issued
    obtain rfl : t = now := Instant.eq_of_onClock? shown
    obtain ⟨token, isToken, given⟩ := Option.bind_eq_some_iff.mp given
    obtain ⟨refreshToken, isRefresh, given⟩ := Option.bind_eq_some_iff.mp given
    obtain rfl := Option.some.inj given
    exact ⟨shown, isToken, isRefresh⟩
  · rintro ⟨shown, isToken, isRefresh⟩
    unfold issuePair
    simp [shown, isToken, isRefresh]

theorem issueAt_of_issuePair {pair : TokenPair} (issued : service.issuePair subject now = some pair) :
    service.issueAt subject service.refreshLifetime now = some pair.refreshToken :=
  (issuePair_eq_some_iff.mp issued).2.2

end

/-! ### Reading -/

theorem readPart?_part (text : String) : readPart? (part text).toList = Json.Node.read? (Bytes.ofText text) := by
  unfold readPart? part
  rw [String.ofList_toList, Base64.decode?_encode]
  rfl

/-- A token of three parts, of which the last signs the first two, carries the claims of the second. -/
theorem read_eq_ok_iff {token : String} {c : Claims} : service.read token = .ok c ↔
    ∃ header payload signature, Text.parts '.' token.toList = [header, payload, signature] ∧
      (readPart? header).bind TokenHeader.read? = some TokenHeader.algorithm ∧
      Base64.decode? .urlSafe (String.ofList signature) =
        some (Hash.hmac service.secret (Bytes.ofText (String.ofList (header ++ '.' :: payload)))) ∧
      (readPart? payload).bind Claims.ofNode? = some c ∧ 0 ≤ c.expires ∧ 0 ≤ c.notBefore := by
  constructor
  · intro isRead
    unfold read at isRead
    split at isRead
    next header payload signature parts =>
      split at isRead
      · cases isRead
      next algorithm isHeader =>
        split at isRead
        · cases isRead
        next known =>
          split at isRead
          · cases isRead
          next mac isMac =>
            dsimp only at isRead
            split at isRead
            · cases isRead
            next signed =>
              split at isRead
              · cases isRead
              next d isPayload =>
                split at isRead
                · cases isRead
                next timely =>
                  obtain rfl : d = c := Except.ok.inj isRead
                  obtain rfl : algorithm = TokenHeader.algorithm := Decidable.not_not.mp known
                  rw [Decidable.not_not.mp signed] at isMac
                  exact ⟨header, payload, signature, parts, isHeader, isMac, isPayload, by omega, by omega⟩
    next => cases isRead
  · rintro ⟨header, payload, signature, parts, isHeader, signed, isPayload, expires, notBefore⟩
    unfold read
    rw [parts]
    simp only [isHeader, ne_eq, not_true_eq_false, ↓reduceIte, signed, isPayload]
    rw [if_neg (by omega)]

/-- What stands in a token that a service signed is what the service reads of it, if its numbers fit the machine. -/
theorem read_encode_eq_ok_iff {c d : Claims}
    (inRange : ∀ i ∈ [c.issuedAt, c.notBefore, c.expires], Int64.minValue.toInt ≤ i ∧ i ≤ Int64.maxValue.toInt) :
    service.read (service.encode c) = .ok d ↔ c = d ∧ 0 ≤ c.expires ∧ 0 ≤ c.notBefore := by
  have parts : Text.parts '.' (service.encode c).toList =
      [(part TokenHeader.text).toList, (part c.toValue.write).toList, (service.sign (message c)).toList] := by
    have noDot (text : String) : '.' ∉ (part text).toList := Base64.dot_not_mem _
    have noDotToo : '.' ∉ (service.sign (message c)).toList := Base64.dot_not_mem _
    rw [toList_encode, Text.parts_append_cons (noDot _), Text.parts_append_cons (noDot _),
      Text.parts_of_not_mem noDotToo]
  have header : (Json.Node.read? (Bytes.ofText TokenHeader.text)).bind TokenHeader.read? =
      some TokenHeader.algorithm := by
    decide +kernel
  have signed : String.ofList ((part TokenHeader.text).toList ++ '.' :: (part c.toValue.write).toList) =
      message c := by
    refine String.toList_injective ?_
    simp [message]
  have payload : (readPart? (part c.toValue.write).toList).bind Claims.ofNode? = some c := by
    rw [readPart?_part]
    exact Claims.read_write inRange
  rw [read_eq_ok_iff, parts]
  constructor
  · rintro ⟨header, body, signature, same, -, -, isPayload, ends⟩
    obtain ⟨rfl, rfl, rfl⟩ : _ ∧ _ ∧ _ := by simpa using same
    obtain rfl : c = d := Option.some.inj (payload.symm.trans isPayload)
    exact ⟨rfl, ends⟩
  · rintro ⟨rfl, ends⟩
    refine ⟨_, _, _, rfl, ?_, ?_, payload, ends⟩
    · rw [readPart?_part]
      exact header
    · rw [signed, String.ofList_toList]
      exact Base64.decode?_encode .urlSafe _

section

variable {service : TokenService} {subject token : String} {lifetime : Lifetime} {now : Instant}

/-- A service reads of its own tokens what it wrote there, unless they begin or end before 1970. -/
theorem read_iff_of_issueAt {c : Claims} (issued : service.issueAt subject lifetime now = some token) :
    service.read token = .ok c ↔ claims subject lifetime now = c ∧
      0 ≤ (claims subject lifetime now).expires ∧ 0 ≤ (claims subject lifetime now).notBefore := by
  obtain ⟨⟨begins, ends⟩, isToken⟩ := issueAt_eq_some_iff.mp issued
  rw [← isToken]
  refine read_encode_eq_ok_iff service fun i member => ?_
  have lowest : Int64.minValue.toInt ≤ (-8334601228800 : Int) := by decide
  have highest : (8210266876799 : Int) + leeway ≤ Int64.maxValue.toInt := by decide
  have inLeeway : leeway = 30 := rfl
  have issuedAt : (claims subject lifetime now).issuedAt = now.seconds := rfl
  have begun := notBefore_claims subject lifetime now
  unfold Instant.inCalendar at begins ends
  simp only [List.mem_cons, List.not_mem_nil, or_false] at member
  rcases member with rfl | rfl | rfl <;> split at begun <;> omega

theorem read_of_issueAt (issued : service.issueAt subject lifetime now = some token) (late : leeway ≤ now.seconds)
    (positive : 0 ≤ now.seconds + lifetime.seconds) : service.read token = .ok (claims subject lifetime now) := by
  have begins : now.seconds - leeway ≤ (claims subject lifetime now).notBefore := now.le_seconds_plus _
  have ends : now.seconds + lifetime.seconds ≤ (claims subject lifetime now).expires := now.le_seconds_plus _
  exact (read_iff_of_issueAt issued).mpr ⟨rfl, by omega, by omega⟩

end

section

variable {service : TokenService} {token : String} {c : Claims} {now : Instant}

theorem checkClaims_eq_ok_iff {d : Claims} {now : Int} : checkClaims c now = .ok d ↔
    (now - leeway ≤ c.expires ∧ c.notBefore ≤ now + leeway ∧ c.issuer = Claims.theIssuer ∧
      c.audience = Claims.theAudience) ∧ c = d := by
  unfold checkClaims
  split
  next ended => simp only [reduceCtorEq, false_iff]; omega
  next unended =>
    split
    next early => simp only [reduceCtorEq, false_iff]; omega
    next begun =>
      split
      next foreign => simp [foreign]
      next issuer =>
        split
        next foreign => simp [foreign]
        next audience =>
        simp [Decidable.not_not.mp issuer, Decidable.not_not.mp audience, Int.not_lt.mp unended, Int.not_lt.mp begun]

/-- From the end of the first half minute on, claims that are read are checked. -/
theorem parse_of_late (read : service.read token = .ok c) (late : leeway ≤ now.seconds) :
    service.parse token now = some (checkClaims c now.seconds) := by
  unfold parse
  rw [read]
  exact if_neg (Int.not_lt.mpr late)

/-- A token is good from its beginning to its end, with the leeway at both, but not in the first half minute of the
calendar, in which the clock less the leeway is no number. -/
theorem parse_eq_ok_iff : service.parse token now = some (.ok c) ↔
    service.read token = .ok c ∧ leeway ≤ now.seconds ∧ now.seconds - leeway ≤ c.expires ∧
      c.notBefore ≤ now.seconds + leeway ∧ c.issuer = Claims.theIssuer ∧ c.audience = Claims.theAudience := by
  constructor
  · intro parsed
    unfold parse at parsed
    split at parsed
    next => cases parsed
    next d isRead =>
      split at parsed
      next => cases parsed
      next late =>
        obtain ⟨checked, rfl⟩ := checkClaims_eq_ok_iff.mp (Option.some.inj parsed)
        exact ⟨isRead, Int.not_lt.mp late, checked⟩
  · rintro ⟨isRead, late, checked⟩
    rw [parse_of_late isRead late, checkClaims_eq_ok_iff.mpr ⟨checked, rfl⟩]

theorem late_of_parse (parsed : service.parse token now = some (.ok c)) : leeway ≤ now.seconds :=
  (parse_eq_ok_iff.mp parsed).2.1

end

end TokenService

end Countersign
