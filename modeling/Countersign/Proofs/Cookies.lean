import Countersign.Proofs.Signing
import Countersign.Session

/-!
Which token a request presents.

The first authorization header decides if it bears a token (`Session.bearer?_eq_some_iff`); else the first cookie that
holds a session (`Session.cookie?_eq_some_iff`), in the order of the headers. So what is presented is said by the
cookies in their order (`Session.presented?_eq_iff`), and not by the headers that pack them: cookie headers can be
packed anew, and cookies that hold no session put in between (`Session.presented?_repacked`).
-/

namespace Countersign

open Http (Header Headers)

/-! ### White space at the ends -/

namespace Text

/-- Whether a text is what remains of another without the white space at its ends. -/
structure Trimmed (s t : List Char) : Prop where
  within : ∃ before after, s = before ++ (t ++ after) ∧ (∀ c ∈ before, isBlank c = true) ∧ ∀ c ∈ after, isBlank c = true
  first : ∀ c ∈ t.head?, isBlank c = false
  last : ∀ c ∈ t.getLast?, isBlank c = false

theorem dropWhile_isBlank {before t : List Char} (blank : ∀ c ∈ before, isBlank c = true)
    (first : ∀ c ∈ t.head?, isBlank c = false) : (before ++ t).dropWhile isBlank = t := by
  rw [List.dropWhile_append_of_pos blank]
  cases t with
  | nil => rfl
  | cons c t => exact List.dropWhile_cons_of_neg (by simpa using first c rfl)

theorem Trimmed.trim_eq {s t : List Char} (trimmed : Trimmed s t) : trim s = t := by
  obtain ⟨⟨before, after, rfl, blank, blankToo⟩, first, last⟩ := trimmed
  have reversed : ∀ c ∈ after.reverse, isBlank c = true := fun c member => blankToo c (List.mem_reverse.mp member)
  unfold trim
  cases t with
  | nil =>
    have all : ∀ c ∈ before ++ after, isBlank c = true := fun c member =>
      (List.mem_append.mp member).elim (blank c) (blankToo c)
    have nothing := dropWhile_isBlank (t := []) all (by simp)
    rw [List.append_nil] at nothing
    rw [List.nil_append, nothing]
    rfl
  | cons c t =>
    rw [dropWhile_isBlank blank (t := c :: t ++ after) first, List.reverse_append,
      dropWhile_isBlank reversed (by rw [List.head?_reverse]; exact last), List.reverse_reverse]

theorem trimmed_trim (s : List Char) : Trimmed s (trim s) := by
  have dropped (l : List Char) : ∀ c ∈ (l.dropWhile isBlank).head?, isBlank c = false := fun c isHead => by
    simpa [Option.mem_def.mp isHead] using List.head?_dropWhile_not isBlank l
  have taken (l : List Char) : ∀ c ∈ l.takeWhile isBlank, isBlank c = true := fun c member =>
    List.all_eq_true.mp List.all_takeWhile c member
  have begun : s.dropWhile isBlank = trim s ++ ((s.dropWhile isBlank).reverse.takeWhile isBlank).reverse := by
    unfold trim
    rw [← List.reverse_append, List.takeWhile_append_dropWhile, List.reverse_reverse]
  constructor
  · refine ⟨s.takeWhile isBlank, ((s.dropWhile isBlank).reverse.takeWhile isBlank).reverse, ?_, taken s,
      fun c member => taken _ c (List.mem_reverse.mp member)⟩
    rw [← begun, List.takeWhile_append_dropWhile]
  · intro c isHead
    refine dropped s c ?_
    rw [begun, List.head?_append, Option.mem_def.mp isHead]
    rfl
  · unfold trim
    rw [List.getLast?_reverse]
    exact dropped _

theorem trim_eq_iff {s t : List Char} : trim s = t ↔ Trimmed s t :=
  ⟨fun same => same ▸ trimmed_trim s, Trimmed.trim_eq⟩

end Text

/-! ### Readable headers -/

theorem Http.Header.readable_of_text? {h : Header} {value : String} (isText : h.text? = some value) :
    Readable value := by
  unfold text? at isText
  split at isText
  next readable =>
    obtain rfl := Option.some.inj isText
    intro c member
    rw [String.toList_ofList] at member
    obtain ⟨b, isOctet, rfl⟩ := List.mem_map.mp member
    have isReadable := List.all_eq_true.mp readable b isOctet
    have all : ∀ n : Fin 256, Header.isReadable (UInt8.ofNat n) = true →
        32 ≤ (Char.ofNat n).toNat ∧ (Char.ofNat n).toNat < 127 ∨ (Char.ofNat n).toNat = 9 := by decide +kernel
    have octet := all ⟨b.toNat, b.toNat_lt⟩
    rw [UInt8.ofNat_toNat] at octet
    exact octet isReadable
  next => cases isText

theorem Http.Header.Readable.of_append {s t : String} (readable : Readable (s ++ t)) : Readable s ∧ Readable t := by
  constructor
  · exact fun c member => readable c (by rw [String.toList_append]; exact List.mem_append_left _ member)
  · exact fun c member => readable c (by rw [String.toList_append]; exact List.mem_append_right _ member)

namespace Session

/-! ### Tokens in headers and in cookies -/

theorem after?_eq_some_iff {beginning s rest : List Char} :
    after? beginning s = some rest ↔ s = beginning ++ rest := by
  induction beginning generalizing s with
  | nil => simp [after?]
  | cons b beginning ih =>
    cases s with
    | nil => simp [after?]
    | cons c s => by_cases same : b = c <;> simp [after?, same, ih, eq_comm]

/-- Whether the value of an authorization header bears a token: behind the scheme stands nothing else but white
space. -/
def Bears (value token : String) : Prop :=
  token ≠ "" ∧ ∃ rest, value = "Bearer " ++ rest ∧ Text.Trimmed rest.toList token.toList

theorem bearer?_eq_some_iff {value token : String} : bearer? value = some token ↔ Bears value token := by
  unfold bearer?
  constructor
  · intro read
    obtain ⟨rest, isRest, read⟩ := Option.bind_eq_some_iff.mp read
    dsimp only at read
    split at read
    · cases read
    next some_token =>
      obtain rfl := Option.some.inj read
      refine ⟨?_, String.ofList rest, String.toList_injective ?_, ?_⟩
      · simpa [← String.toList_inj] using some_token
      · rw [String.toList_append, String.toList_ofList (l := rest)]
        exact after?_eq_some_iff.mp isRest
      · rw [String.toList_ofList, String.toList_ofList]
        exact Text.trimmed_trim rest
  · rintro ⟨token_ne, rest, rfl, trimmed⟩
    rw [after?_eq_some_iff.mpr String.toList_append, Option.bind_eq_bind, Option.bind_some]
    simp [trimmed.trim_eq, token_ne]

/-- Whether a cookie holds a session: without white space at its ends it is the name, the sign behind it and the token,
which is not empty. -/
def HoldsSession (pair : List Char) (token : String) : Prop :=
  token ≠ "" ∧ Text.Trimmed pair ("session=" ++ token).toList

theorem cookie?_eq_some_iff {pair : List Char} {token : String} :
    cookie? pair = some token ↔ HoldsSession pair token := by
  have named (token : String) : ("session=" ++ token).toList = cookieName.toList ++ '=' :: token.toList :=
    String.toList_append
  unfold cookie? HoldsSession
  rw [← Text.trim_eq_iff, named]
  constructor
  · intro read
    obtain ⟨⟨name, value⟩, cut, read⟩ := Option.bind_eq_some_iff.mp read
    dsimp only at read
    split at read
    next isSession =>
      obtain ⟨rfl, some_value⟩ := isSession
      obtain rfl := Option.some.inj read
      refine ⟨?_, ?_⟩
      · simpa [← String.toList_inj] using some_value
      · rw [String.toList_ofList]
        exact (Text.eq_of_cut? cut).1
    next => cases read
  · rintro ⟨token_ne, trimmed⟩
    have cut : Text.cut? '=' (Text.trim pair) = some (cookieName.toList, token.toList) := by
      rw [trimmed]
      exact Text.cut?_append_cons (by decide) token.toList
    rw [cut, Option.bind_eq_bind, Option.bind_some]
    simp [token_ne]

/-! ### Cookies in headers -/

/-- Whether headers pack these cookies in this order: each readable cookie header is a row of cookies with semicolons
between them, and no other header holds cookies. -/
inductive Packs : Headers → List (List Char) → Prop where
  | nil : Packs [] []
  | cookie {h : Header} {value : String} {own : List (List Char)} {headers : Headers} {pairs : List (List Char)}
      (named : h.name = "cookie") (readable : h.text? = some value) (some_pair : own ≠ [])
      (apart : ∀ pair ∈ own, ';' ∉ pair) (joined : value.toList = [';'].intercalate own)
      (rest : Packs headers pairs) : Packs (h :: headers) (own ++ pairs)
  | other {h : Header} {headers : Headers} {pairs : List (List Char)}
      (noCookie : h.name = "cookie" → h.text? = none) (rest : Packs headers pairs) : Packs (h :: headers) pairs

/-- The cookies that headers pack. -/
def cookies (headers : Headers) : List (List Char) :=
  (headers.texts "cookie").flatMap fun value => Text.parts ';' value.toList

theorem cookies_append (headers more : Headers) : cookies (headers ++ more) = cookies headers ++ cookies more := by
  simp [cookies, Headers.texts]

theorem cookies_of_readable {h : Header} {value : String} (named : h.name = "cookie") (readable : h.text? = some value)
    (headers : Headers) : cookies (h :: headers) = Text.parts ';' value.toList ++ cookies headers := by
  simp [cookies, Headers.texts, named, readable]

theorem cookies_of_other {h : Header} (noCookie : h.name = "cookie" → h.text? = none) (headers : Headers) :
    cookies (h :: headers) = cookies headers := by
  by_cases named : h.name = "cookie"
  · simp [cookies, Headers.texts, named, noCookie named]
  · simp [cookies, Headers.texts, named]

theorem packs_iff {headers : Headers} {pairs : List (List Char)} : Packs headers pairs ↔ cookies headers = pairs := by
  constructor
  · intro packs
    induction packs with
    | nil => rfl
    | cookie named readable some_pair apart joined _ ih =>
      rw [cookies_of_readable named readable, ih, joined, Text.parts_intercalate some_pair apart]
    | other noCookie _ ih => rw [cookies_of_other noCookie, ih]
  · rintro rfl
    induction headers with
    | nil => exact .nil
    | cons h headers ih =>
      by_cases noCookie : h.name = "cookie" → h.text? = none
      · rw [cookies_of_other noCookie]
        exact .other noCookie ih
      · obtain ⟨named, some_text⟩ := Classical.not_imp.mp noCookie
        obtain ⟨value, readable⟩ := Option.ne_none_iff_exists'.mp some_text
        rw [cookies_of_readable named readable]
        exact .cookie named readable (Text.parts_ne_nil ';' _) (fun _ => Text.not_mem_of_mem_parts)
          (Text.intercalate_parts ';' _).symm ih

/-! ### What is presented -/

/-- Whether the first authorization header bears a token. -/
def BearsFirst (headers : Headers) (token : String) : Prop :=
  ∃ h, headers.first? "authorization" = some h ∧ ∃ value, h.text? = some value ∧ Bears value token

/-- What a list of headers presents: the token of its authorization header if that bears one, and else that of the first
cookie with a session, wherever it is packed. -/
inductive Presented (headers : Headers) : Option String → Prop where
  | bearer {token : String} (bears : BearsFirst headers token) : Presented headers (some token)
  | cookie {before after : List (List Char)} {pair : List Char} {token : String}
      (noBearer : ∀ t, ¬ BearsFirst headers t) (packs : Packs headers (before ++ pair :: after))
      (earlier : ∀ p ∈ before, ∀ t, ¬ HoldsSession p t) (holds : HoldsSession pair token) :
      Presented headers (some token)
  | nothing {pairs : List (List Char)} (noBearer : ∀ t, ¬ BearsFirst headers t) (packs : Packs headers pairs)
      (noSession : ∀ p ∈ pairs, ∀ t, ¬ HoldsSession p t) : Presented headers none

theorem bind_bearer?_eq_some_iff {headers : Headers} {token : String} :
    (headers.text? "authorization").bind bearer? = some token ↔ BearsFirst headers token := by
  simp only [Headers.text?, Option.bind_assoc, Option.bind_eq_some_iff, bearer?_eq_some_iff]
  rfl

theorem cookie?_eq_none_iff {pair : List Char} : cookie? pair = none ↔ ∀ t, ¬ HoldsSession pair t := by
  simp only [← cookie?_eq_some_iff, Option.eq_none_iff_forall_ne_some, ne_eq]

section

variable {headers : Headers}

theorem presented?_of_bears {token : String} (bears : BearsFirst headers token) : presented? headers = some token := by
  unfold presented?
  rw [bind_bearer?_eq_some_iff.mpr bears, Option.some_or]

theorem presented?_of_noBearer (noBearer : ∀ t, ¬ BearsFirst headers t) :
    presented? headers = (cookies headers).findSome? cookie? := by
  have nothing : (headers.text? "authorization").bind bearer? = none :=
    Option.eq_none_iff_forall_ne_some.mpr fun t bears => noBearer t (bind_bearer?_eq_some_iff.mp bears)
  unfold presented?
  rw [nothing, Option.none_or]
  rfl

/-- The token of the first authorization header is presented, or else that of the first cookie with a session. -/
theorem presented?_eq_iff {r : Option String} : presented? headers = r ↔ Presented headers r := by
  constructor
  · rintro rfl
    by_cases bearer : ∃ t, BearsFirst headers t
    · obtain ⟨token, bears⟩ := bearer
      rw [presented?_of_bears bears]
      exact .bearer bears
    · have noBearer := not_exists.mp bearer
      rw [presented?_of_noBearer noBearer]
      cases found : (cookies headers).findSome? cookie? with
      | some token =>
        obtain ⟨before, pair, after, isPairs, holds, earlier⟩ := List.findSome?_eq_some_iff.mp found
        exact .cookie noBearer (packs_iff.mpr isPairs) (fun p member => cookie?_eq_none_iff.mp (earlier p member))
          (cookie?_eq_some_iff.mp holds)
      | none =>
        have noSession := List.findSome?_eq_none_iff.mp found
        exact .nothing noBearer (packs_iff.mpr rfl) fun p member => cookie?_eq_none_iff.mp (noSession p member)
  · rintro (bears | ⟨noBearer, packs, earlier, holds⟩ | ⟨noBearer, packs, noSession⟩)
    · exact presented?_of_bears bears
    · rw [presented?_of_noBearer noBearer, packs_iff.mp packs]
      exact List.findSome?_eq_some_iff.mpr ⟨_, _, _, rfl, cookie?_eq_some_iff.mpr holds,
        fun p member => cookie?_eq_none_iff.mpr (earlier p member)⟩
    · rw [presented?_of_noBearer noBearer, packs_iff.mp packs]
      exact List.findSome?_eq_none_iff.mpr fun p member => cookie?_eq_none_iff.mpr (noSession p member)

end

theorem presented?_ne_empty (headers : Headers) : presented? headers ≠ some "" := by
  intro empty
  cases presented?_eq_iff.mp empty with
  | bearer bears =>
    obtain ⟨h, -, value, -, token_ne, -⟩ := bears
    exact token_ne rfl
  | cookie _ _ _ holds => exact holds.1 rfl

/-! ### Packing cookies anew -/

theorem parts_semicolon (a b : String) :
    Text.parts ';' (a ++ ";" ++ b).toList = Text.parts ';' a.toList ++ Text.parts ';' b.toList := by
  rw [String.toList_append, String.toList_append, List.append_assoc]
  exact Text.parts_append_separator ';' a.toList b.toList

theorem cookies_ofText {value : String} (readable : Header.Readable value) (headers : Headers) :
    cookies (.ofText "cookie" value :: headers) = Text.parts ';' value.toList ++ cookies headers :=
  cookies_of_readable rfl (Header.text?_ofText readable) headers

section

variable {before after : Headers} {h : Header} {a b : String}

/-- Cookie headers can be packed anew among other headers, as long as the first session stays the same. -/
theorem presented?_repacked (own other : Headers) (named : ∀ h ∈ own ++ other, h.name = "cookie")
    (same : (cookies own).findSome? cookie? = (cookies other).findSome? cookie?) :
    presented? (before ++ (own ++ after)) = presented? (before ++ (other ++ after)) := by
  have skipped {headers : Headers} (named : ∀ h ∈ headers, h.name = "cookie") :
      headers.find? (fun h => h.name == "authorization") = none :=
    List.find?_eq_none.mpr fun h member => by simp [named h member]
  have ownSkipped := skipped fun h member => named h (List.mem_append_left other member)
  have otherSkipped := skipped fun h member => named h (List.mem_append_right own member)
  have sameFirst : Headers.text? (before ++ (own ++ after)) "authorization" =
      Headers.text? (before ++ (other ++ after)) "authorization" := by
    simp [Headers.text?, Headers.first?, List.find?_append, ownSkipped, otherSkipped]
  have sameCookie : (cookies (before ++ (own ++ after))).findSome? cookie? =
      (cookies (before ++ (other ++ after))).findSome? cookie? := by
    simp [cookies_append, List.findSome?_append, same]
  unfold presented?
  rw [sameFirst]
  exact congrArg _ sameCookie

/-- A cookie header can be cut in two at any semicolon. -/
theorem presented?_cut (named : h.name = "cookie") (readable : h.text? = some (a ++ ";" ++ b)) :
    presented? (before ++ h :: after) =
      presented? (before ++ .ofText "cookie" a :: .ofText "cookie" b :: after) := by
  obtain ⟨begins, readableEnd⟩ := (Header.readable_of_text? readable).of_append
  have readableStart := begins.of_append.1
  refine presented?_repacked [h] [.ofText "cookie" a, .ofText "cookie" b] ?_ ?_
  · simp [named, Header.ofText]
  · rw [cookies_of_readable named readable, cookies_ofText readableStart, cookies_ofText readableEnd, parts_semicolon,
      List.append_assoc]

/-- A cookie that holds no session can be put between two others. -/
theorem presented?_inserted (named : h.name = "cookie") (readable : h.text? = some (a ++ ";" ++ b)) {t : String}
    (isReadable : Header.Readable t) (single : ';' ∉ t.toList) (noSession : ∀ token, ¬ HoldsSession t.toList token) :
    presented? (before ++ .ofText "cookie" (a ++ ";" ++ (t ++ ";" ++ b)) :: after) =
      presented? (before ++ h :: after) := by
  obtain ⟨begins, readableEnd⟩ := (Header.readable_of_text? readable).of_append
  have readableAll : Header.Readable (a ++ ";" ++ (t ++ ";" ++ b)) :=
    begins.append ((isReadable.append begins.of_append.2).append readableEnd)
  refine presented?_repacked [.ofText "cookie" (a ++ ";" ++ (t ++ ";" ++ b))] [h] ?_ ?_
  · simp [named, Header.ofText]
  · have skipped := cookie?_eq_none_iff.mpr noSession
    rw [cookies_of_readable named readable, cookies_ofText readableAll, parts_semicolon, parts_semicolon,
      Text.parts_of_not_mem single, parts_semicolon]
    simp [List.findSome?_append, skipped]

end

/-- What is presented is the token of the first authorization header, whatever cookies there are, or else that of the
first cookie with a session, and never empty. So it stays the same when a readable cookie header is cut in two at a
semicolon, and when something without semicolons that holds no session is put between two cookies. -/
theorem presented_exact :
    (∀ (headers : Headers) (r : Option String), presented? headers = r ↔ Presented headers r) ∧
    (∀ headers : Headers, presented? headers ≠ some "") ∧
    (∀ (before after : Headers) (h : Header) (a b : String), h.name = "cookie" → h.text? = some (a ++ ";" ++ b) →
      presented? (before ++ h :: after) =
        presented? (before ++ .ofText "cookie" a :: .ofText "cookie" b :: after)) ∧
    ∀ (before after : Headers) (h : Header) (a b t : String), h.name = "cookie" → h.text? = some (a ++ ";" ++ b) →
      Header.Readable t → ';' ∉ t.toList → (∀ token, ¬ HoldsSession t.toList token) →
      presented? (before ++ .ofText "cookie" (a ++ ";" ++ (t ++ ";" ++ b)) :: after) =
        presented? (before ++ h :: after) :=
  ⟨fun _ _ => presented?_eq_iff, presented?_ne_empty, fun _ _ _ _ _ named readable => presented?_cut named readable,
    fun _ _ _ _ _ _ named readable isReadable single noSession =>
      presented?_inserted named readable isReadable single noSession⟩

end Session

/-- A cookie header that packs a session behind another cookie. -/
def Sample.crumbs : Header := .ofText "cookie" "a=b; session=c"

/-- A session without a token, put in front, does not hide it. -/
theorem Session.presented_exact_crumbs :
    Sample.crumbs.text? = some ("a=b" ++ ";" ++ " session=c") ∧
    Header.Readable " session=" ∧ ';' ∉ " session=".toList ∧ (∀ token, ¬ HoldsSession " session=".toList token) ∧
    Presented [Sample.crumbs] (some "c") ∧
    presented? [Sample.crumbs] = presented? [.ofText "cookie" "a=b", .ofText "cookie" " session=c"] ∧
    presented? [.ofText "cookie" ("a=b" ++ ";" ++ (" session=" ++ ";" ++ " session=c"))] =
      presented? [Sample.crumbs] := by
  have readable : Sample.crumbs.text? = some ("a=b" ++ ";" ++ " session=c") := Header.text?_ofText (by decide)
  have noSession : ∀ token, ¬ HoldsSession " session=".toList token := cookie?_eq_none_iff.mp (by decide)
  obtain ⟨isPresented, -, cut, inserted⟩ := presented_exact
  refine ⟨readable, by decide, by decide, noSession, (isPresented _ _).mp (by decide +kernel), ?_, ?_⟩
  · exact cut [] [] _ _ _ rfl readable
  · exact inserted [] [] _ _ _ _ rfl readable (by decide) (by decide) noSession

end Countersign
