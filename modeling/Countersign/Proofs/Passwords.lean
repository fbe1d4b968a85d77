import Countersign.Password
import Countersign.Proofs.Base64
import Countersign.Proofs.Dates
import Countersign.Proofs.Texts

/-!
Which texts are kept for passwords, and which candidates they accept.

`PasswordRecord.Stands` says what a text holds from which a record is read: six fields, of which the fourth has the
settings (`PasswordRecord.Setting.Sound`), each name counting as it is set last (`PasswordRecord.Gives`), and the last
two are the Base64 texts of salt and digest. These texts are read and no others (`PasswordRecord.read_eq_ok_iff`); that
of a new password is one of them (`PasswordRecord.read_write_new`), and so the password is accepted
(`Password.verify_hash`). Whatever is accepted has the digest that its text claims (`Password.verify_exact`).
-/

namespace Countersign

open Text (natDigits)

theorem Hash.Blake2b.Chain.length_toBytes (h : Chain) : h.toBytes.length = 64 := rfl

theorem Hash.Blake2b.length_digest {size : Nat} (short : size ≤ 64) (message : Bytes) :
    (digest size message).length = size := by
  unfold digest
  dsimp only
  rw [List.length_take, Chain.length_toBytes]
  omega

theorem Argon2.length_digest (p : Params) {size : Nat} (short : size ≤ 64) (password salt data : Bytes) :
    (digest p size password salt data).length = size := by
  unfold digest longDigest
  dsimp only
  rw [if_pos short]
  exact Hash.Blake2b.length_digest short _

namespace PasswordRecord

/-! ### Settings -/

namespace Setting

/-- A setting as it is written. -/
def text (s : Setting) : List Char := s.name.toList ++ '=' :: s.value

/-- A setting that means something. -/
inductive Sound : Setting → Prop
  | memory {n : Nat} (n_lt : n < 2 ^ 32) : Sound ⟨"m", natDigits n⟩
  | passes {n : Nat} (n_lt : n < 2 ^ 32) : Sound ⟨"t", natDigits n⟩
  | lanes {n : Nat} (n_lt : n < 2 ^ 32) : Sound ⟨"p", natDigits n⟩
  | keyId {b : Bytes} (short : b.length ≤ 8) : Sound ⟨"keyid", (Base64.encode .standard b).toList⟩
  | data {b : Bytes} (short : b.length ≤ 32) : Sound ⟨"data", (Base64.encode .standard b).toList⟩

end Setting

/-- Settings as they are written, with commas between them. -/
def settingsText (settings : List Setting) : List Char := [','].intercalate (settings.map Setting.text)

theorem number?_eq_some_iff {value : List Char} {n : Nat} :
    number? value = some n ↔ value = natDigits n ∧ n < 2 ^ 32 := by
  constructor
  · intro isNumber
    obtain ⟨m, isNat, rest⟩ := Option.bind_eq_some_iff.mp isNumber
    obtain ⟨⟨leading, m_lt⟩, rfl⟩ :
        ((value.length = 1 ∨ value.head? ≠ some '0') ∧ m < 2 ^ 32) ∧ m = n := by simpa using rest
    obtain ⟨⟨some_digit, digits⟩, rfl⟩ : (value ≠ [] ∧ ∀ c ∈ value, c.isDigit = true) ∧ Text.natOfDigits value = m := by
      simpa [Text.readNat?] using isNat
    exact ⟨(Text.natDigits_natOfDigits some_digit digits leading).symm, m_lt⟩
  · rintro ⟨rfl, n_lt⟩
    have isNat : Text.readNat? (natDigits n) = some n := by
      have digits : (natDigits n).all Char.isDigit = true :=
        List.all_eq_true.mpr fun c member => Text.isDigit_of_mem_natDigits member
      simp [Text.readNat?, digits, Text.natDigits_ne, Text.natOfDigits_natDigits]
    have inRange : ((natDigits n).length = 1 ∨ (natDigits n).head? ≠ some '0') ∧ n < 1 <<< 32 :=
      ⟨Text.natDigits_leading n, n_lt⟩
    unfold number?
    rw [isNat]
    exact if_pos inRange

namespace Setting

variable {s : Setting}

/-- Names and values have few characters, and no mark among them. -/
theorem Sound.grammar (sound : s.Sound) :
    (1 ≤ s.name.toList.length ∧ s.name.toList.length ≤ 32 ∧ s.name.toList.all isNameChar = true) ∧
      s.value.length ≤ 64 ∧ s.value.all isValueChar = true := by
  have digits {n : Nat} (n_lt : n < 2 ^ 32) :
      (natDigits n).length ≤ 64 ∧ (natDigits n).all isValueChar = true := by
    constructor
    · have ten := Text.length_natDigits (show 0 < 10 by decide) (Nat.lt_trans n_lt (show 2 ^ 32 < 10 ^ 10 by decide))
      omega
    · apply List.all_eq_true.mpr
      intro c member
      simp [isValueChar, Char.isAlphanum, Text.isDigit_of_mem_natDigits member]
  have octets {b : Bytes} (short : b.length ≤ 32) :
      (Base64.encode .standard b).toList.length ≤ 64 ∧ (Base64.encode .standard b).toList.all isValueChar = true := by
    constructor
    · rw [Base64.length_encode]
      omega
    · exact List.all_eq_true.mpr fun c member =>
        Base64.all_encode .standard (p := (isValueChar · = true)) (by decide) member
  constructor
  · cases sound <;> dsimp only <;> decide
  · cases sound with
    | memory n_lt => exact digits n_lt
    | passes n_lt => exact digits n_lt
    | lanes n_lt => exact digits n_lt
    | keyId short => exact octets (by omega)
    | data short => exact octets short

theorem Sound.not_mem_text (sound : s.Sound) {x : Char} (noName : isNameChar x = false) (noValue : isValueChar x = false)
    (other : x ≠ '=') : x ∉ s.text := by
  obtain ⟨⟨-, -, names⟩, -, values⟩ := sound.grammar
  intro member
  rcases List.mem_append.mp member with inName | rest
  · simp [List.all_eq_true.mp names x inName] at noName
  · rcases List.mem_cons.mp rest with same | inValue
    · exact other same
    · simp [List.all_eq_true.mp values x inValue] at noValue

end Setting

theorem setting?_text {s : Setting} (sound : s.Sound) : setting? s.text = some s := by
  obtain ⟨⟨some_char, short, names⟩, shortToo, values⟩ := sound.grammar
  have isParts : Text.parts '=' s.text = [s.name.toList, s.value] := by
    have noName : '=' ∉ s.name.toList := fun member =>
      absurd (List.all_eq_true.mp names '=' member) (by decide)
    have noValue : '=' ∉ s.value := fun member =>
      absurd (List.all_eq_true.mp values '=' member) (by decide)
    rw [Setting.text, Text.parts_append_cons noName, Text.parts_of_not_mem noValue]
  unfold setting?
  rw [isParts]
  exact (if_pos ⟨some_char, short, names, shortToo, values⟩).trans (by rw [String.ofList_toList])

theorem text_of_setting? {s : List Char} {setting : Setting} (isSetting : setting? s = some setting) :
    setting.text = s := by
  unfold setting? at isSetting
  split at isSetting
  next name value isParts =>
    split at isSetting
    · cases isSetting
      have joined := Text.intercalate_parts '=' s
      rw [isParts] at joined
      simpa [Setting.text, List.intercalate_cons_cons] using joined
    · cases isSetting
  · cases isSetting

theorem mapM_setting?_eq_some {texts : List (List Char)} {settings : List Setting}
    (isSettings : texts.mapM setting? = some settings) : settings.map Setting.text = texts := by
  induction texts generalizing settings with
  | nil =>
    cases isSettings
    rfl
  | cons text texts ih =>
    rw [List.mapM_cons] at isSettings
    obtain ⟨setting, isSetting, rest⟩ := Option.bind_eq_some_iff.mp isSettings
    obtain ⟨others, isOthers, rfl⟩ : ∃ others, texts.mapM setting? = some others ∧ setting :: others = settings := by
      simpa [Option.bind_eq_some_iff] using rest
    simp [text_of_setting? isSetting, ih isOthers]

theorem mapM_setting?_text {settings : List Setting} (sound : ∀ s ∈ settings, s.Sound) :
    (settings.map Setting.text).mapM setting? = some settings := by
  induction settings with
  | nil => rfl
  | cons s settings ih =>
    rw [List.forall_mem_cons] at sound
    simp [List.mapM_cons, setting?_text sound.1, ih sound.2]

theorem settingsText_of_settings? {s : List Char} {settings : List Setting} (isSettings : settings? s = some settings) :
    settingsText settings = s ∧ s.length ≤ 127 ∧ settings ≠ [] := by
  unfold settings? at isSettings
  split at isSettings
  next short =>
    have texts := mapM_setting?_eq_some isSettings
    refine ⟨?_, short, ?_⟩
    · rw [settingsText, texts]
      exact Text.intercalate_parts ',' s
    · rintro rfl
      exact Text.parts_ne_nil ',' s texts.symm
  · cases isSettings

theorem settings?_settingsText {settings : List Setting} (sound : ∀ s ∈ settings, s.Sound) (some_setting : settings ≠ [])
    (short : (settingsText settings).length ≤ 127) : settings? (settingsText settings) = some settings := by
  have apart : ∀ text ∈ settings.map Setting.text, ',' ∉ text := by
    intro text member
    obtain ⟨s, isSetting, rfl⟩ := List.mem_map.mp member
    exact (sound s isSetting).not_mem_text (by decide) (by decide) (by decide)
  unfold settings?
  rw [if_pos short, settingsText, Text.parts_intercalate (by simpa using some_setting) apart]
  exact mapM_setting?_text sound

/-! ### Parameters -/

/-- What a name is set to last. -/
def lastValue? (settings : List Setting) (name : String) : Option (List Char) :=
  (settings.reverse.find? (·.name = name)).map (·.value)

/-- The parameters are those that the settings give, or the usual ones, each the decimal text of its number, and the
further data is what Base64 makes of the text that is given for it. -/
structure Gives (settings : List Setting) (c : Costs) : Prop where
  memory : (lastValue? settings "m").getD (natDigits 19456) = natDigits c.params.memory
  passes : (lastValue? settings "t").getD (natDigits 2) = natDigits c.params.passes
  lanes : (lastValue? settings "p").getD (natDigits 1) = natDigits c.params.lanes
  data : (lastValue? settings "data").getD [] = (Base64.encode .standard c.data).toList

theorem Gives.unique {settings : List Setting} {c c' : Costs} (first : Gives settings c) (second : Gives settings c') :
    c = c' := by
  have memory := Text.natDigits_injective (first.memory.symm.trans second.memory)
  have passes := Text.natDigits_injective (first.passes.symm.trans second.passes)
  have lanes := Text.natDigits_injective (first.lanes.symm.trans second.lanes)
  have data := Base64.encode_injective .standard (String.toList_injective (first.data.symm.trans second.data))
  obtain ⟨⟨_, _, _⟩, _⟩ := c
  obtain ⟨⟨_, _, _⟩, _⟩ := c'
  simp_all

theorem lastValue?_concat (settings : List Setting) (s : Setting) (name : String) :
    lastValue? (settings ++ [s]) name = if s.name = name then some s.value else lastValue? settings name := by
  by_cases same : s.name = name
  · simp [lastValue?, same]
  · simp [lastValue?, same]

/-- A setting that means something is taken: it replaces what its name was set to before, and leaves the others alone. -/
theorem Gives.take {settings : List Setting} {c : Costs} {s : Setting} (gives : Gives settings c) (sound : s.Sound) :
    ∃ c', c.take? s = some c' ∧ Gives (settings ++ [s]) c' := by
  obtain ⟨memory, passes, lanes, data⟩ := gives
  have isNumber {n : Nat} (n_lt : n < 2 ^ 32) : number? (natDigits n) = some n := number?_eq_some_iff.mpr ⟨rfl, n_lt⟩
  cases sound with
  | @memory n n_lt =>
    refine ⟨{ c with params := { c.params with memory := n } }, by simp [Costs.take?, isNumber n_lt], ?_⟩
    constructor <;> simp [lastValue?_concat, passes, lanes, data]
  | @passes n n_lt =>
    refine ⟨{ c with params := { c.params with passes := n } }, by simp [Costs.take?, isNumber n_lt], ?_⟩
    constructor <;> simp [lastValue?_concat, memory, lanes, data]
  | @lanes n n_lt =>
    refine ⟨{ c with params := { c.params with lanes := n } }, by simp [Costs.take?, isNumber n_lt], ?_⟩
    constructor <;> simp [lastValue?_concat, memory, passes, data]
  | @keyId b short =>
    refine ⟨c, by simp [Costs.take?, Base64.decode?_encode, short], ?_⟩
    constructor <;> simp [lastValue?_concat, memory, passes, lanes, data]
  | @data b short =>
    refine ⟨{ c with data := b }, by simp [Costs.take?, Base64.decode?_encode, short], ?_⟩
    constructor <;> simp [lastValue?_concat, memory, passes, lanes]

theorem sound_of_take? {c c' : Costs} {s : Setting} (taken : c.take? s = some c') : s.Sound := by
  obtain ⟨name, value⟩ := s
  unfold Costs.take? at taken
  dsimp only at taken
  split at taken
  case h_1 =>
    obtain ⟨n, isNumber, -⟩ := Option.map_eq_some_iff.mp taken
    obtain ⟨rfl, n_lt⟩ := number?_eq_some_iff.mp isNumber
    exact .memory n_lt
  case h_2 =>
    obtain ⟨n, isNumber, -⟩ := Option.map_eq_some_iff.mp taken
    obtain ⟨rfl, n_lt⟩ := number?_eq_some_iff.mp isNumber
    exact .passes n_lt
  case h_3 =>
    obtain ⟨n, isNumber, -⟩ := Option.map_eq_some_iff.mp taken
    obtain ⟨rfl, n_lt⟩ := number?_eq_some_iff.mp isNumber
    exact .lanes n_lt
  case h_4 =>
    obtain ⟨b, isBytes, kept⟩ := Option.bind_eq_some_iff.mp taken
    obtain rfl := Base64.decode?_ofList_eq_some_iff.mp isBytes
    obtain ⟨short, -⟩ : b.length ≤ 8 ∧ c = c' := by simpa using kept
    exact .keyId short
  case h_5 =>
    obtain ⟨b, isBytes, kept⟩ := Option.bind_eq_some_iff.mp taken
    obtain rfl := Base64.decode?_ofList_eq_some_iff.mp isBytes
    obtain ⟨short, -⟩ : b.length ≤ 32 ∧ { c with data := b } = c' := by simpa using kept
    exact .data short
  case h_6 => cases taken

theorem costs?_concat (settings : List Setting) (s : Setting) :
    costs? (settings ++ [s]) = (costs? settings).bind (Costs.take? · s) := by
  simp [costs?, List.foldlM_append]

/-- Settings that mean something give parameters. -/
theorem costs?_of_sound {settings : List Setting} (sound : ∀ s ∈ settings, s.Sound) :
    ∃ c, costs? settings = some c ∧ Gives settings c := by
  induction settings using List.reverseRecOn with
  | nil =>
    refine ⟨{}, rfl, ?_⟩
    constructor <;> simp [lastValue?]
    rfl
  | append_singleton settings s ih =>
    obtain ⟨c, isCosts, gives⟩ := ih fun t member => sound t (List.mem_append_left [s] member)
    obtain ⟨c', taken, givesToo⟩ := gives.take (sound s (by simp))
    exact ⟨c', by simp [costs?_concat, isCosts, taken], givesToo⟩

theorem sound_of_costs? {settings : List Setting} {c : Costs} (isCosts : costs? settings = some c) :
    ∀ s ∈ settings, s.Sound := by
  induction settings using List.reverseRecOn generalizing c with
  | nil => simp
  | append_singleton settings s ih =>
    rw [costs?_concat] at isCosts
    obtain ⟨before, isBefore, taken⟩ := Option.bind_eq_some_iff.mp isCosts
    intro t member
    rcases List.mem_append.mp member with earlier | last
    · exact ih isBefore t earlier
    · rw [List.mem_singleton.mp last]
      exact sound_of_take? taken

theorem costs?_eq_some_iff {settings : List Setting} {c : Costs} :
    costs? settings = some c ↔ (∀ s ∈ settings, s.Sound) ∧ Gives settings c := by
  constructor
  · intro isCosts
    have sound := sound_of_costs? isCosts
    obtain ⟨c', isCostsToo, gives⟩ := costs?_of_sound sound
    obtain rfl : c = c' := Option.some.inj (isCosts.symm.trans isCostsToo)
    exact ⟨sound, gives⟩
  · rintro ⟨sound, gives⟩
    obtain ⟨c', isCosts, givesToo⟩ := costs?_of_sound sound
    rw [isCosts, givesToo.unique gives]

theorem usable?_eq_true_iff {p : Argon2.Params} :
    usable? p = some true ↔ 1 ≤ p.passes ∧ 1 ≤ p.lanes ∧ p.lanes < 2 ^ 24 ∧ 8 * p.lanes ≤ p.memory := by
  have bits : (1 <<< 32 : Nat) = 2 ^ 32 ∧ (1 <<< 24 : Nat) = 2 ^ 24 := by decide
  by_cases small : p.memory < 8
  · simp [usable?, small]
    omega
  · simp [usable?, leastMemory?, small, bits]
    omega

/-! ### Records -/

theorem digest?_eq_some_iff {s : List Char} {b : Bytes} :
    digest? s = some b ↔ (Base64.encode .standard b).toList = s ∧ 10 ≤ b.length ∧ b.length ≤ 64 := by
  simp [digest?, Option.bind_eq_some_iff, Base64.decode?_ofList_eq_some_iff]

theorem salt?_eq_some_iff {s : List Char} {b : Bytes} :
    salt? s = some b ↔ (Base64.encode .standard b).toList = s ∧ 8 ≤ b.length := by
  simp [salt?, Option.bind_eq_some_iff, Base64.decode?_ofList_eq_some_iff]

theorem ofFields_eq_ok_iff {settings : List Setting} {salt : List Char} {digest : Bytes} {r : PasswordRecord} :
    ofFields settings salt digest = some (.ok r) ↔ costs? settings = some ⟨r.params, r.data⟩ ∧
      usable? r.params = some true ∧ salt? salt = some r.salt ∧ r.digest = digest := by
  constructor
  · intro isRecord
    unfold ofFields at isRecord
    cases isCosts : costs? settings with
    | none => simp [isCosts] at isRecord
    | some c =>
      cases isSalt : salt? salt with
      | none => simp [isCosts, isSalt] at isRecord
      | some b =>
        obtain ⟨usable, rfl⟩ : usable? c.params = some true ∧ (⟨c.params, b, c.data, digest⟩ : PasswordRecord) = r := by
          simpa [isCosts, isSalt, ite_eq_iff] using isRecord
        exact ⟨rfl, usable, rfl, rfl⟩
  · rintro ⟨isCosts, usable, isSalt, rfl⟩
    simp [ofFields, isCosts, usable, isSalt]

/-- What a text holds from which a record is read, its fourth field being some settings. -/
structure Stands (stored : String) (settings : List Setting) (r : PasswordRecord) : Prop where
  fields : Text.parts '$' stored.toList = [[], "argon2id".toList, "v=19".toList, settingsText settings,
    (Base64.encode .standard r.salt).toList, (Base64.encode .standard r.digest).toList]
  sound : ∀ s ∈ settings, s.Sound
  some_setting : settings ≠ []
  short : (settingsText settings).length ≤ 127
  gives : Gives settings ⟨r.params, r.data⟩
  usable : 1 ≤ r.params.passes ∧ 1 ≤ r.params.lanes ∧ r.params.lanes < 2 ^ 24 ∧ 8 * r.params.lanes ≤ r.params.memory
  salt : 8 ≤ r.salt.length ∧ r.salt.length ≤ 48
  digest : 10 ≤ r.digest.length ∧ r.digest.length ≤ 64

/-- The fields with dollars between them are the whole text. -/
theorem Stands.text {stored : String} {settings : List Setting} {r : PasswordRecord} (stands : Stands stored settings r) :
    stored = "$argon2id$v=19$" ++ String.ofList (settingsText settings) ++ "$" ++ Base64.encode .standard r.salt ++ "$" ++
      Base64.encode .standard r.digest := by
  have joined := Text.intercalate_parts '$' stored.toList
  rw [stands.fields] at joined
  apply String.toList_injective
  rw [← joined]
  simp [List.intercalate_cons_cons]

theorem Stands.of_read {stored : String} {r : PasswordRecord} (isRecord : read stored = some (.ok r)) :
    ∃ settings, Stands stored settings r := by
  unfold read at isRecord
  split at isRecord
  next before algorithm version settingsField saltField digestField isFields =>
    split at isRecord
    · cases isRecord
    next isAlgorithm =>
      split at isRecord
      · cases isRecord
      next isVersion =>
        split at isRecord
        · cases isRecord
        next grammar =>
          split at isRecord
          next settings digest isSettings isDigest =>
            obtain ⟨isCosts, usable, isSalt, rfl⟩ := ofFields_eq_ok_iff.mp isRecord
            obtain ⟨sound, gives⟩ := costs?_eq_some_iff.mp isCosts
            obtain ⟨rfl, short, some_setting⟩ := settingsText_of_settings? isSettings
            obtain ⟨rfl, least⟩ := salt?_eq_some_iff.mp isSalt
            obtain ⟨rfl, range⟩ := digest?_eq_some_iff.mp isDigest
            have noField : before = [] := by simpa using (not_or.mp grammar).1
            have most : r.salt.length ≤ 48 := by
              simp only [not_or, Base64.length_encode] at grammar
              omega
            refine ⟨settings, ?_, sound, some_setting, short, gives, usable?_eq_true_iff.mp usable, ⟨least, most⟩, range⟩
            rw [isFields, noField, not_not.mp isAlgorithm, not_not.mp isVersion]
          · cases isRecord
  · cases isRecord

theorem Stands.read {stored : String} {settings : List Setting} {r : PasswordRecord} (stands : Stands stored settings r) :
    PasswordRecord.read stored = some (.ok r) := by
  obtain ⟨fields, sound, some_setting, short, gives, usable, ⟨least, most⟩, range⟩ := stands
  have grammar : ¬ (¬ ([] : List Char).isEmpty = true ∨ (Base64.encode .standard r.salt).toList.length < 4 ∨
      64 < (Base64.encode .standard r.salt).toList.length ∨
      ¬ (Base64.encode .standard r.salt).toList.all isValueChar = true) := by
    have values : (Base64.encode .standard r.salt).toList.all isValueChar = true :=
      List.all_eq_true.mpr fun c member => Base64.all_encode .standard (p := (isValueChar · = true)) (by decide) member
    rw [Base64.length_encode, values]
    simp
    omega
  unfold PasswordRecord.read
  rw [fields]
  dsimp only
  rw [if_neg (not_not_intro rfl), if_neg (not_not_intro rfl), if_neg grammar,
    settings?_settingsText sound some_setting short, digest?_eq_some_iff.mpr ⟨rfl, range⟩]
  apply ofFields_eq_ok_iff.mpr
  exact ⟨costs?_eq_some_iff.mpr ⟨sound, gives⟩, usable?_eq_true_iff.mpr usable, salt?_eq_some_iff.mpr ⟨rfl, least⟩, rfl⟩

/-- These texts are read, and no others. -/
theorem read_eq_ok_iff {stored : String} {r : PasswordRecord} :
    read stored = some (.ok r) ↔ ∃ settings, Stands stored settings r := by
  constructor
  · exact Stands.of_read
  · rintro ⟨settings, stands⟩
    exact stands.read

/-! ### New records -/

/-- The settings of a new password's record. -/
def standardSettings : List Setting := [⟨"m", natDigits 65536⟩, ⟨"t", natDigits 3⟩, ⟨"p", natDigits 2⟩]

variable {password : String} {salt : Bytes}

theorem length_new : (new password salt).digest.length = 32 :=
  Argon2.length_digest standard (show 32 ≤ 64 by decide) (Bytes.ofText password) salt []

theorem toList_write_new : (new password salt).write.toList = [] ++ '$' :: ("argon2id".toList ++ '$' ::
    ("v=19".toList ++ '$' :: (settingsText standardSettings ++ '$' :: ((Base64.encode .standard salt).toList ++ '$' ::
      (Base64.encode .standard (new password salt).digest).toList)))) := by
  have params : ("$argon2id$v=19$m=" ++ Text.ofNat standard.memory ++ ",t=" ++ Text.ofNat standard.passes ++ ",p=" ++
      Text.ofNat standard.lanes ++ "$").toList = [] ++ '$' :: ("argon2id".toList ++ '$' ::
        ("v=19".toList ++ '$' :: (settingsText standardSettings ++ ['$']))) := by decide +kernel
  have dollar : "$".toList = ['$'] := by decide
  show ("$argon2id$v=19$m=" ++ Text.ofNat standard.memory ++ ",t=" ++ Text.ofNat standard.passes ++ ",p=" ++
    Text.ofNat standard.lanes ++ "$" ++ Base64.encode .standard salt ++ "$" ++
      Base64.encode .standard (new password salt).digest).toList = _
  rw [String.toList_append, String.toList_append, String.toList_append, params, dollar]
  simp only [List.append_assoc, List.cons_append, List.nil_append]

theorem stands_new (least : 8 ≤ salt.length) (most : salt.length ≤ 48) :
    Stands (new password salt).write standardSettings (new password salt) where
  fields := by
    have noDollar (b : Bytes) : '$' ∉ (Base64.encode .standard b).toList :=
      fun member => Base64.all_encode .standard (p := (· ≠ '$')) (by decide) member rfl
    rw [toList_write_new, Text.parts_append_cons List.not_mem_nil, Text.parts_append_cons (by decide),
      Text.parts_append_cons (by decide), Text.parts_append_cons (by decide +kernel), Text.parts_append_cons (noDollar _),
      Text.parts_of_not_mem (noDollar _)]
    rfl
  sound := by
    intro s member
    simp only [standardSettings, List.mem_cons, List.not_mem_nil, or_false] at member
    rcases member with rfl | rfl | rfl
    · exact .memory (by decide)
    · exact .passes (by decide)
    · exact .lanes (by decide)
  some_setting := by simp [standardSettings]
  short := by decide +kernel
  gives := by
    show Gives standardSettings ⟨standard, []⟩
    constructor <;> simp [standardSettings, lastValue?, standard]
    rfl
  usable := by
    show 1 ≤ standard.passes ∧ 1 ≤ standard.lanes ∧ standard.lanes < 2 ^ 24 ∧ 8 * standard.lanes ≤ standard.memory
    decide
  salt := ⟨least, most⟩
  digest := by simp [length_new]

/-- The record of a new password is read back. -/
theorem read_write_new (least : 8 ≤ salt.length) (most : salt.length ≤ 48) :
    read (new password salt).write = some (.ok (new password salt)) := (stands_new least most).read

end PasswordRecord

namespace Password

open PasswordRecord (standard)

variable {candidate : String}

theorem verify_none : verify candidate none = some (.ok false) := rfl

theorem verify_empty : verify candidate (some "") = some (.ok false) := rfl

/-- A candidate is checked against the record that a text is read as. -/
theorem verify_of_read {stored : String} {r : PasswordRecord} (isRecord : PasswordRecord.read stored = some (.ok r)) :
    verify candidate (some stored) = some (.ok (r.accepts candidate)) := by
  have kept : stored.isEmpty = false := by
    rw [Bool.eq_false_iff, ne_eq, String.isEmpty_iff]
    rintro rfl
    cases isRecord
  simp [verify, kept, isRecord, Except.map]

theorem verify_eq_true_iff {stored : String} : verify candidate (some stored) = some (.ok true) ↔
    ∃ r, PasswordRecord.read stored = some (.ok r) ∧
      Argon2.digest r.params r.digest.length (Bytes.ofText candidate) r.salt r.data = r.digest := by
  constructor
  · intro accepted
    by_cases empty : stored = ""
    · simp [empty, verify_empty] at accepted
    · obtain ⟨answer, isRead, isAnswer⟩ : ∃ answer, PasswordRecord.read stored = some answer ∧
          answer.map (fun r => r.accepts candidate) = .ok true := by
        simpa [verify, empty] using accepted
      cases answer with
      | error e => cases isAnswer
      | ok r =>
        have accepts : r.accepts candidate = true := by simpa [Except.map] using isAnswer
        exact ⟨r, isRead, beq_iff_eq.mp accepts⟩
  · rintro ⟨r, isRecord, same⟩
    have accepts : r.accepts candidate = true := beq_iff_eq.mpr same
    rw [verify_of_read isRecord, accepts]

theorem accepts_new {password : String} {salt : Bytes} : (PasswordRecord.new password salt).accepts candidate =
    decide (Argon2.digest standard 32 (Bytes.ofText candidate) salt [] =
      Argon2.digest standard 32 (Bytes.ofText password) salt []) := by
  rw [PasswordRecord.accepts, PasswordRecord.length_new, Bool.eq_iff_iff, beq_iff_eq, decide_eq_true_iff]
  rfl

/-- A candidate is accepted for a new password's text just if both digest alike. -/
theorem verify_hash_eq (password : String) {salt : Bytes} (least : 8 ≤ salt.length) (most : salt.length ≤ 48) :
    verify candidate (some (hash password salt)) = some (.ok (decide
      (Argon2.digest standard 32 (Bytes.ofText candidate) salt [] =
        Argon2.digest standard 32 (Bytes.ofText password) salt []))) := by
  rw [hash, verify_of_read (PasswordRecord.read_write_new least most), accepts_new]

/-- A password matches its own record. -/
theorem verify_hash (password : String) {salt : Bytes} (least : 8 ≤ salt.length) (most : salt.length ≤ 48) :
    verify password (some (hash password salt)) = some (.ok true) := by
  rw [verify_hash_eq password least most, decide_eq_true rfl]

theorem hash_eq (password : String) (salt : Bytes) :
    hash password salt = "$argon2id$v=19$m=65536,t=3,p=2$" ++ Base64.encode .standard salt ++ "$" ++
      Base64.encode .standard (Argon2.digest standard 32 (Bytes.ofText password) salt []) := by
  have params : "$argon2id$v=19$m=" ++ Text.ofNat standard.memory ++ ",t=" ++ Text.ofNat standard.passes ++ ",p=" ++
      Text.ofNat standard.lanes ++ "$" = "$argon2id$v=19$m=65536,t=3,p=2$" := by decide +kernel
  rw [← params]
  rfl

/-- A new password's text is accepted with the password, and with another candidate just if that digests alike. A text
is accepted with a candidate just if it has the six fields of a record whose digest is that of the candidate, under the
parameters and the salt that are read in it. Where nothing is kept, nothing is accepted. -/
theorem verify_exact :
    (∀ password candidate salt, salt.length = 16 →
      (Argon2.digest standard 32 (Bytes.ofText password) salt []).length = 32 ∧
      hash password salt = "$argon2id$v=19$m=65536,t=3,p=2$" ++ Base64.encode .standard salt ++ "$" ++
        Base64.encode .standard (Argon2.digest standard 32 (Bytes.ofText password) salt []) ∧
      verify password (some (hash password salt)) = some (.ok true) ∧
      verify candidate (some (hash password salt)) = some (.ok (decide
        (Argon2.digest standard 32 (Bytes.ofText candidate) salt [] =
          Argon2.digest standard 32 (Bytes.ofText password) salt [])))) ∧
    (∀ candidate stored, verify candidate (some stored) = some (.ok true) ↔ ∃ settings r,
      PasswordRecord.Stands stored settings r ∧
      stored = "$argon2id$v=19$" ++ String.ofList (PasswordRecord.settingsText settings) ++ "$" ++
        Base64.encode .standard r.salt ++ "$" ++ Base64.encode .standard r.digest ∧
      r.digest = Argon2.digest r.params r.digest.length (Bytes.ofText candidate) r.salt r.data) ∧
    ∀ candidate, verify candidate none = some (.ok false) ∧ verify candidate (some "") = some (.ok false) := by
  refine ⟨?_, ?_, ?_⟩
  · intro password candidate salt sixteen
    refine ⟨@PasswordRecord.length_new password salt, hash_eq password salt, ?_, ?_⟩
    · exact verify_hash password (by omega) (by omega)
    · exact verify_hash_eq password (by omega) (by omega)
  · intro candidate stored
    rw [verify_eq_true_iff]
    constructor
    · rintro ⟨r, isRecord, same⟩
      obtain ⟨settings, stands⟩ := PasswordRecord.read_eq_ok_iff.mp isRecord
      exact ⟨settings, r, stands, stands.text, same.symm⟩
    · rintro ⟨settings, r, stands, -, same⟩
      exact ⟨r, stands.read, same.symm⟩
  · exact fun candidate => ⟨verify_none, verify_empty⟩

theorem verify_exact_zeroSalt :
    verify "admin123" (some (hash "admin123" (List.replicate 16 0))) = some (.ok true) ∧ ∃ settings r,
      PasswordRecord.Stands (hash "admin123" (List.replicate 16 0)) settings r ∧
        r.digest = Argon2.digest r.params r.digest.length (Bytes.ofText "admin123") r.salt r.data := by
  obtain ⟨made, tells, -⟩ := verify_exact
  have accepted := (made "admin123" "admin124" (List.replicate 16 0) List.length_replicate).2.2.1
  obtain ⟨settings, r, stands, -, digests⟩ := (tells _ _).mp accepted
  exact ⟨accepted, settings, r, stands, digests⟩

end Password

end Countersign
