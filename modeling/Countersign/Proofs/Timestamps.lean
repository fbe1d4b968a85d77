import Countersign.Proofs.Dates
import Countersign.Replay
import Mathlib.Tactic.Ring

/-!
What the texts of instants are.

`Spelling` has the parts of such a text as they are written, digit by digit, and `Spelling.chars` puts them together.
A text is read exactly if it is spelled by parts within their bounds, and it is read as the instant of these parts
(`read?_eq_some_iff`). The reader leaves alone what follows (`readChars?_append`), so no text of an instant is the
beginning of another one. That is why a key tells both its parts, although a hyphen may stand in each of them
(`ReplayGuard.key_eq_iff`).
-/

namespace Countersign

namespace Text

/-- Whether a text is so many digits. -/
structure IsNumeral (width : Nat) (ds : List Char) : Prop where
  length : ds.length = width
  digits : ∀ c ∈ ds, c.isDigit = true

theorem IsNumeral.of_all {width : Nat} {ds : List Char} (length : ds.length = width)
    (all : ds.all Char.isDigit = true) : IsNumeral width ds :=
  ⟨length, List.all_eq_true.mp all⟩

/-- The number of a text of digits grows by what is put behind it. -/
theorem natOfDigits_append (ds more : List Char) :
    natOfDigits (ds ++ more) = natOfDigits ds * 10 ^ more.length + natOfDigits more := by
  have shifted (n : Nat) : more.foldl (fun n c => n * 10 + digitValue c) n =
      n * 10 ^ more.length + more.foldl (fun n c => n * 10 + digitValue c) 0 := by
    induction more generalizing n with
    | nil => simp
    | cons c more ih =>
      simp only [List.foldl_cons, List.length_cons]
      rw [ih, ih (0 * 10 + digitValue c)]
      ring
  unfold natOfDigits
  rw [List.foldl_append]
  exact shifted _

theorem natOfDigits_zeros (count : Nat) : natOfDigits (List.replicate count '0') = 0 := by
  induction count with
  | zero => rfl
  | succ count ih => exact ih

theorem natOfDigits_lt {ds : List Char} (digits : ∀ c ∈ ds, c.isDigit = true) : natOfDigits ds < 10 ^ ds.length := by
  induction ds with
  | nil => decide
  | cons c ds ih =>
    have first := digitValue_lt (digits c List.mem_cons_self)
    have others := ih fun d member => digits d (List.mem_cons_of_mem c member)
    have split := natOfDigits_append [c] ds
    have single : natOfDigits [c] = digitValue c := by simp [natOfDigits]
    rw [single, List.singleton_append] at split
    rw [split, List.length_cons, Nat.pow_succ]
    have : digitValue c * 10 ^ ds.length ≤ 9 * 10 ^ ds.length := Nat.mul_le_mul_right _ (by omega)
    omega

/-- Nine digits behind the point are the whole nanoseconds of a fraction: what is missing counts as zero, and what
is too much is cut off. -/
theorem natOfDigits_nine {ds : List Char} (digits : ∀ c ∈ ds, c.isDigit = true) :
    natOfDigits ((ds ++ List.replicate 9 '0').take 9) = natOfDigits ds * 10 ^ 9 / 10 ^ ds.length := by
  by_cases short : ds.length ≤ 9
  · obtain ⟨missing, isMissing⟩ : ∃ missing, 9 = ds.length + missing := ⟨9 - ds.length, by omega⟩
    have padded : (ds ++ List.replicate 9 '0').take 9 = ds ++ List.replicate missing '0' := by
      rw [List.take_append, List.take_of_length_le short, List.take_replicate]
      congr 2
      omega
    rw [padded, natOfDigits_append, natOfDigits_zeros, List.length_replicate, Nat.add_zero]
    have whole : natOfDigits ds * 10 ^ 9 = natOfDigits ds * 10 ^ missing * 10 ^ ds.length := by
      rw [Nat.mul_assoc, ← Nat.pow_add, Nat.add_comm missing, ← isMissing]
    rw [whole, Nat.mul_div_cancel _ (Nat.pow_pos (by decide))]
  · obtain ⟨first, rest, rfl, nine⟩ : ∃ first rest, ds = first ++ rest ∧ first.length = 9 :=
      ⟨ds.take 9, ds.drop 9, (List.take_append_drop 9 ds).symm, by rw [List.length_take]; omega⟩
    have cut : ((first ++ rest) ++ List.replicate 9 '0').take 9 = first := by
      rw [List.append_assoc, ← nine, List.take_left]
    have less := natOfDigits_lt fun c member => digits c (List.mem_append_right first member)
    rw [cut, natOfDigits_append, List.length_append, nine, Nat.pow_add, Nat.mul_comm (10 ^ 9),
      Nat.mul_div_mul_right _ _ (by decide), Nat.mul_comm (natOfDigits first),
      Nat.mul_add_div (Nat.pow_pos (by decide)), Nat.div_eq_of_lt less, Nat.add_zero]

end Text

namespace Time.Rfc3339

open Text (IsNumeral natOfDigits digitValue)

/-! ### Spellings -/

/-- The distance from UTC as it is written: a letter for none, or hours and minutes with a sign. -/
inductive Zone where
  | letter (z : Char)
  | distance (sign : Char) (hours minutes : List Char)

namespace Zone

def chars : Zone → List Char
  | .letter z => [z]
  | .distance sign hours minutes => sign :: (hours ++ ':' :: minutes)

/-- By how many seconds the time of day is ahead of UTC. -/
def seconds : Zone → Int
  | .letter _ => 0
  | .distance sign hours minutes =>
    let distance : Int := natOfDigits hours * 3600 + natOfDigits minutes * 60
    if sign = '+' then distance else -distance

/-- Whether there is such a distance. The minus may be that of mathematics. -/
inductive Valid : Zone → Prop
  | letter {z : Char} (isLetter : z ∈ ['Z', 'z']) : Valid (.letter z)
  | distance {sign : Char} {hours minutes : List Char} (isSign : sign ∈ ['+', '-', '\u2212'])
      (hours_numeral : IsNumeral 2 hours) (minutes_numeral : IsNumeral 2 minutes)
      (inDay : natOfDigits hours < 24) (inHour : natOfDigits minutes < 60) : Valid (.distance sign hours minutes)

end Zone

/-- The parts of the text of an instant, as they are written. -/
structure Spelling where
  year : List Char
  month : List Char
  day : List Char
  /-- What stands between date and time of day. -/
  separator : Char
  hour : List Char
  minute : List Char
  second : List Char
  /-- The digits behind the point; without any there is no point. -/
  fraction : List Char
  zone : Zone

namespace Spelling

/-- The fraction of a second, with its point. -/
def fractionChars : List Char → List Char
  | [] => []
  | ds => '.' :: ds

def dateChars (p : Spelling) : List Char := p.year ++ '-' :: (p.month ++ '-' :: p.day)

def timeChars (p : Spelling) : List Char :=
  p.hour ++ ':' :: (p.minute ++ ':' :: (p.second ++ fractionChars p.fraction))

/-- The text that is spelled. -/
def chars (p : Spelling) : List Char := p.dateChars ++ p.separator :: (p.timeChars ++ p.zone.chars)

def date (p : Spelling) : Date := ⟨natOfDigits p.year, natOfDigits p.month, natOfDigits p.day⟩

/-- Whether there are such a day and such a time of day. The second 60 is a leap second. -/
structure Valid (p : Spelling) : Prop where
  year : IsNumeral 4 p.year
  month : IsNumeral 2 p.month
  day : IsNumeral 2 p.day
  isDate : p.date.Exists
  separator : p.separator ∈ ['T', 't', ' ']
  hour : IsNumeral 2 p.hour
  minute : IsNumeral 2 p.minute
  second : IsNumeral 2 p.second
  inDay : natOfDigits p.hour < 24
  inHour : natOfDigits p.minute < 60
  inMinute : natOfDigits p.second ≤ 60
  fraction : ∀ c ∈ p.fraction, c.isDigit = true
  zone : p.zone.Valid

/-- The whole nanoseconds of the fraction. -/
def nanos (p : Spelling) : Nat := natOfDigits p.fraction * 10 ^ 9 / 10 ^ p.fraction.length

/-- Nanoseconds in the second of the parts, or in the one that is prolonged. -/
def prolonged (p : Spelling) : Nat := if natOfDigits p.second = 60 then p.nanos + 1000000000 else p.nanos

/-- The instant of the parts. -/
def instant (p : Spelling) : Instant :=
  .of (p.date.dayNumber * Instant.day +
    ↑(natOfDigits p.hour * 3600 + natOfDigits p.minute * 60 + min (natOfDigits p.second) 59) - p.zone.seconds)
    p.prolonged

end Spelling

/-! ### Marks -/

theorem letter_cases {z : Char} (isLetter : z ∈ ['Z', 'z']) : z = 'Z' ∨ z = 'z' := by simpa using isLetter

theorem sign_cases {c : Char} (isSign : c ∈ ['+', '-', '\u2212']) : c = '+' ∨ c = '-' ∨ c = '\u2212' := by
  simpa using isSign

theorem isSign_iff {c : Char} : Rfc3339.isSign c = true ↔ c ∈ ['+', '-', '\u2212'] := by
  simp [Rfc3339.isSign, or_assoc]

theorem separates_iff {c : Char} : (c == 'T' || c == 't' || c == ' ') = true ↔ c ∈ ['T', 't', ' '] := by
  simp [or_assoc]

/-! ### Reading what is spelled -/

theorem digits_numeral {width : Nat} {ds : List Char} (numeral : IsNumeral width ds) (rest : List Char) :
    digits width 0 (ds ++ rest) = some (natOfDigits ds, rest) := by
  rw [← numeral.length]
  exact digits_of_all numeral.digits 0 rest

theorem date_spelled {p : Spelling} (valid : p.Valid) (rest : List Char) :
    Rfc3339.date (p.dateChars ++ rest) = some (p.date, rest) := by
  have dash (s : List Char) : one (· == '-') ('-' :: s) = some ('-', s) := one_cons rfl s
  simp only [Spelling.dateChars, List.append_assoc, List.cons_append, Rfc3339.date, Option.bind_eq_bind,
    digits_numeral valid.year, digits_numeral valid.month, digits_numeral valid.day, dash, Option.bind_some]
  exact if_pos valid.isDate

/-- A text that goes on with no digit and no point. -/
def Ends (rest : List Char) : Prop := ∀ c ∈ rest.head?, c.isDigit = false ∧ c ≠ '.'

theorem fraction_spelled {ds : List Char} (digits : ∀ c ∈ ds, c.isDigit = true) {rest : List Char}
    (ends : Ends rest) : fraction (Spelling.fractionChars ds ++ rest) =
      some (natOfDigits ds * 10 ^ 9 / 10 ^ ds.length, rest) := by
  cases ds with
  | nil =>
    cases rest with
    | nil => rfl
    | cons c rest =>
      have other : c ≠ '.' := (ends c rfl).2
      simp [Spelling.fractionChars, fraction, other, natOfDigits]
  | cons d ds =>
    have taken : ((d :: ds) ++ rest).takeWhile Char.isDigit = d :: ds := by
      rw [List.takeWhile_append_of_pos digits]
      cases rest with
      | nil => simp
      | cons c rest => simp [(ends c rfl).1]
    have dropped : ((d :: ds) ++ rest).dropWhile Char.isDigit = rest := by
      rw [List.dropWhile_append_of_pos digits]
      cases rest with
      | nil => rfl
      | cons c rest => simp [(ends c rfl).1]
    show fraction ('.' :: ((d :: ds) ++ rest)) = _
    simp only [fraction]
    rw [taken, dropped, Text.natOfDigits_nine digits]
    rfl

theorem timeOfDay_spelled {p : Spelling} (valid : p.Valid) {rest : List Char} (ends : Ends rest) :
    timeOfDay (p.timeChars ++ rest) =
      some (natOfDigits p.hour * 3600 + natOfDigits p.minute * 60 + min (natOfDigits p.second) 59, p.prolonged,
        rest) := by
  have colon (s : List Char) : one (· == ':') (':' :: s) = some (':', s) := one_cons rfl s
  have hours := valid.inDay
  have minutes := valid.inHour
  have seconds := valid.inMinute
  simp only [Spelling.timeChars, List.append_assoc, List.cons_append, timeOfDay, Option.bind_eq_bind,
    digits_numeral valid.hour, digits_numeral valid.minute, digits_numeral valid.second, colon,
    fraction_spelled valid.fraction ends, Option.bind_some]
  rw [if_neg (by omega)]
  unfold Spelling.prolonged Spelling.nanos
  by_cases leap : natOfDigits p.second = 60
  · simp [leap]
  · simp [leap, show min (natOfDigits p.second) 59 = natOfDigits p.second by omega]

theorem offset_spelled {zone : Zone} (valid : zone.Valid) (rest : List Char) :
    offset (zone.chars ++ rest) = some (zone.seconds, rest) := by
  cases valid with
  | letter isLetter =>
    rcases letter_cases isLetter with rfl | rfl <;> rfl
  | @distance sign hours minutes isSign hours_numeral minutes_numeral inDay inHour =>
    have colon (s : List Char) : one (· == ':') (':' :: s) = some (':', s) := one_cons rfl s
    have signed (s : List Char) : offset (sign :: s) = (one Rfc3339.isSign (sign :: s)).bind fun sign =>
        (digits 2 0 sign.2).bind fun hours => (one (· == ':') hours.2).bind fun colon =>
          (digits 2 0 colon.2).bind fun minutes =>
            if 24 ≤ hours.1 ∨ 60 ≤ minutes.1 then none
            else
              let distance : Int := hours.1 * 3600 + minutes.1 * 60
              some (if sign.1 = '+' then distance else -distance, minutes.2) := by
      rcases sign_cases isSign with rfl | rfl | rfl <;> rfl
    have isOne (s : List Char) : one Rfc3339.isSign (sign :: s) = some (sign, s) := one_cons (isSign_iff.mpr isSign) s
    simp only [Zone.chars, List.append_assoc, List.cons_append, signed, isOne, digits_numeral hours_numeral,
      digits_numeral minutes_numeral, colon, Option.bind_some]
    rw [if_neg (by omega)]
    rfl

theorem ends_zone {zone : Zone} (valid : zone.Valid) (rest : List Char) : Ends (zone.chars ++ rest) := by
  intro c first
  cases valid with
  | letter isLetter =>
    simp only [Zone.chars, List.singleton_append, List.head?_cons, Option.mem_some_iff] at first
    subst first
    rcases letter_cases isLetter with rfl | rfl <;> decide
  | distance isSign =>
    simp only [Zone.chars, List.cons_append, List.head?_cons, Option.mem_some_iff] at first
    subst first
    rcases sign_cases isSign with rfl | rfl | rfl <;> decide

/-- What is spelled is read to its end, and nothing may follow it. -/
theorem readChars?_append {p : Spelling} (valid : p.Valid) (rest : List Char) :
    readChars? (p.chars ++ rest) = if rest.isEmpty then some p.instant else none := by
  have separates (s : List Char) : one (fun c => c == 'T' || c == 't' || c == ' ') (p.separator :: s) =
      some (p.separator, s) := one_cons (separates_iff.mpr valid.separator) s
  simp only [Spelling.chars, List.append_assoc, List.cons_append, readChars?, Option.bind_eq_bind,
    date_spelled valid, separates, timeOfDay_spelled valid (ends_zone valid.zone rest), offset_spelled valid.zone,
    Option.bind_some]
  rfl

/-! ### The parts of what is read -/

theorem numeral_of_digits {width n m : Nat} {s rest : List Char} (read : digits width n s = some (m, rest)) :
    ∃ ds, IsNumeral width ds ∧ s = ds ++ rest ∧ m = ds.foldl (fun n c => n * 10 + digitValue c) n := by
  induction width generalizing n s with
  | zero =>
    cases read
    exact ⟨[], ⟨rfl, by simp⟩, rfl, rfl⟩
  | succ width ih =>
    cases s with
    | nil => cases read
    | cons c s =>
      rw [digits] at read
      split at read
      next digit =>
        obtain ⟨ds, numeral, rfl, rfl⟩ := ih read
        refine ⟨c :: ds, ⟨?_, ?_⟩, rfl, rfl⟩
        · rw [List.length_cons, numeral.length]
        · intro d member
          rcases List.mem_cons.mp member with rfl | member
          · exact digit
          · exact numeral.digits d member
      · cases read

theorem cons_of_one {accepts : Char → Bool} {c : Char} {s rest : List Char}
    (read : one accepts s = some (c, rest)) : s = c :: rest ∧ accepts c = true := by
  cases s with
  | nil => cases read
  | cons d s =>
    rw [one] at read
    split at read
    next accepted =>
      cases read
      exact ⟨rfl, accepted⟩
    · cases read

theorem numerals_of_date {d : Date} {s rest : List Char} (read : Rfc3339.date s = some (d, rest)) :
    ∃ year month day, IsNumeral 4 year ∧ IsNumeral 2 month ∧ IsNumeral 2 day ∧
      s = year ++ '-' :: (month ++ '-' :: (day ++ rest)) ∧
      d = ⟨natOfDigits year, natOfDigits month, natOfDigits day⟩ ∧ d.Exists := by
  simp only [Rfc3339.date, Option.bind_eq_bind, Option.bind_eq_some_iff] at read
  obtain ⟨⟨_, s1⟩, years, ⟨_, s2⟩, dash, ⟨_, s3⟩, months, ⟨_, s4⟩, dash', ⟨_, s5⟩, days, bounds⟩ := read
  obtain ⟨year, isYear, rfl, rfl⟩ := numeral_of_digits years
  obtain ⟨rfl, first⟩ := cons_of_one dash
  obtain ⟨month, isMonth, rfl, rfl⟩ := numeral_of_digits months
  obtain ⟨rfl, second⟩ := cons_of_one dash'
  obtain ⟨day, isDay, rfl, rfl⟩ := numeral_of_digits days
  obtain rfl := eq_of_beq first
  obtain rfl := eq_of_beq second
  split at bounds
  next isDate =>
    cases bounds
    exact ⟨year, month, day, isYear, isMonth, isDay, rfl, rfl, isDate⟩
  · cases bounds

theorem numeral_of_fraction {n : Nat} {s rest : List Char} (read : fraction s = some (n, rest)) :
    ∃ ds, (∀ c ∈ ds, c.isDigit = true) ∧ s = Spelling.fractionChars ds ++ rest ∧
      n = natOfDigits ds * 10 ^ 9 / 10 ^ ds.length := by
  unfold fraction at read
  split at read
  next s =>
    dsimp only at read
    split at read
    · cases read
    next some_ =>
      cases read
      have digits := List.all_eq_true.mp (List.all_takeWhile (p := Char.isDigit) (l := s))
      refine ⟨s.takeWhile Char.isDigit, digits, ?_, Text.natOfDigits_nine digits⟩
      have point : Spelling.fractionChars (s.takeWhile Char.isDigit) = '.' :: s.takeWhile Char.isDigit := by
        unfold Spelling.fractionChars
        split
        next none_ => simp [none_] at some_
        · rfl
      rw [point, List.cons_append, List.takeWhile_append_dropWhile]
  · cases read
    exact ⟨[], by simp, rfl, rfl⟩

theorem numerals_of_timeOfDay {n m : Nat} {s rest : List Char} (read : timeOfDay s = some (n, m, rest)) :
    ∃ hour minute second fraction, IsNumeral 2 hour ∧ IsNumeral 2 minute ∧ IsNumeral 2 second ∧
      (∀ c ∈ fraction, c.isDigit = true) ∧
      natOfDigits hour < 24 ∧ natOfDigits minute < 60 ∧ natOfDigits second ≤ 60 ∧
      s = hour ++ ':' :: (minute ++ ':' :: (second ++ (Spelling.fractionChars fraction ++ rest))) := by
  simp only [timeOfDay, Option.bind_eq_bind, Option.bind_eq_some_iff] at read
  obtain ⟨⟨_, s1⟩, hours, ⟨_, s2⟩, colon, ⟨_, s3⟩, minutes, ⟨_, s4⟩, colon', ⟨_, s5⟩, seconds, ⟨_, s6⟩, nanos,
    bounds⟩ := read
  obtain ⟨hour, isHour, rfl, rfl⟩ := numeral_of_digits hours
  obtain ⟨rfl, first⟩ := cons_of_one colon
  obtain ⟨minute, isMinute, rfl, rfl⟩ := numeral_of_digits minutes
  obtain ⟨rfl, second_⟩ := cons_of_one colon'
  obtain ⟨second, isSecond, rfl, rfl⟩ := numeral_of_digits seconds
  obtain ⟨fraction, digits, rfl, rfl⟩ := numeral_of_fraction nanos
  obtain rfl := eq_of_beq first
  obtain rfl := eq_of_beq second_
  split at bounds
  · cases bounds
  next inDay =>
    have bounded : natOfDigits hour < 24 ∧ natOfDigits minute < 60 ∧ natOfDigits second ≤ 60 := by
      unfold natOfDigits
      omega
    refine ⟨hour, minute, second, fraction, isHour, isMinute, isSecond, digits, bounded.1, bounded.2.1, bounded.2.2, ?_⟩
    split at bounds <;> cases bounds <;> rfl

theorem zone_of_offset {n : Int} {s rest : List Char} (read : offset s = some (n, rest)) :
    ∃ zone : Zone, zone.Valid ∧ s = zone.chars ++ rest := by
  unfold offset at read
  split at read
  · cases read
    exact ⟨.letter 'Z', .letter (by simp), rfl⟩
  · cases read
    exact ⟨.letter 'z', .letter (by simp), rfl⟩
  · simp only [Option.bind_eq_bind, Option.bind_eq_some_iff] at read
    obtain ⟨⟨sign, s1⟩, signs, ⟨_, s2⟩, hours, ⟨_, s3⟩, colon, ⟨_, s4⟩, minutes, bounds⟩ := read
    obtain ⟨rfl, isSign⟩ := cons_of_one signs
    obtain ⟨hour, isHour, rfl, rfl⟩ := numeral_of_digits hours
    obtain ⟨rfl, first⟩ := cons_of_one colon
    obtain ⟨minute, isMinute, rfl, rfl⟩ := numeral_of_digits minutes
    obtain rfl := eq_of_beq first
    split at bounds
    · cases bounds
    next inDay =>
      cases bounds
      have bounded : natOfDigits hour < 24 ∧ natOfDigits minute < 60 := by
        unfold natOfDigits
        omega
      refine ⟨.distance sign hour minute, .distance ?_ isHour isMinute bounded.1 bounded.2, ?_⟩
      · exact isSign_iff.mp isSign
      · simp [Zone.chars]

/-- A text is read exactly if it is spelled, and as the instant of its parts. -/
theorem read?_eq_some_iff {s : String} {t : Instant} :
    read? s = some t ↔ ∃ p : Spelling, p.Valid ∧ p.chars = s.toList ∧ p.instant = t := by
  unfold read?
  constructor
  · intro read
    -- It is enough to find the parts: what they are read as is known.
    obtain ⟨p, valid, spelled⟩ : ∃ p : Spelling, p.Valid ∧ p.chars = s.toList := by
      simp only [readChars?, Option.bind_eq_bind, Option.bind_eq_some_iff] at read
      obtain ⟨⟨_, s1⟩, dated, ⟨c, s2⟩, middle, ⟨_, _, s3⟩, time, ⟨_, s4⟩, distance, ended⟩ := read
      obtain ⟨year, month, day, isYear, isMonth, isDay, isText, rfl, isDate⟩ := numerals_of_date dated
      obtain ⟨rfl, separates⟩ := cons_of_one middle
      obtain ⟨hour, minute, second, fraction, isHour, isMinute, isSecond, digits, inDay, inHour, inMinute, rfl⟩ :=
        numerals_of_timeOfDay time
      obtain ⟨zone, isZone, rfl⟩ := zone_of_offset distance
      split at ended
      next nothing =>
        obtain rfl := List.isEmpty_iff.mp nothing
        refine ⟨⟨year, month, day, c, hour, minute, second, fraction, zone⟩, ⟨isYear, isMonth, isDay, isDate, ?_,
          isHour, isMinute, isSecond, inDay, inHour, inMinute, digits, isZone⟩, ?_⟩
        · exact separates_iff.mp separates
        · rw [isText]
          simp [Spelling.chars, Spelling.dateChars, Spelling.timeChars]
      · cases ended
    refine ⟨p, valid, spelled, ?_⟩
    have again := readChars?_append valid []
    rw [List.append_nil, spelled, read] at again
    exact (Option.some.inj again).symm
  · rintro ⟨p, valid, spelled, rfl⟩
    have read := readChars?_append valid []
    rw [List.append_nil, spelled] at read
    exact read

/-- The text of an instant has no semicolon. -/
theorem not_mem_of_read? {s : String} {t : Instant} (read : read? s = some t) : ';' ∉ s.toList := by
  obtain ⟨p, valid, spelled, -⟩ := read?_eq_some_iff.mp read
  have numeral {width : Nat} {ds : List Char} (numeral : IsNumeral width ds) : ';' ∉ ds := fun member =>
    absurd (numeral.digits ';' member) (by decide)
  have separator : ';' ≠ p.separator := by
    intro same
    have isSeparator := valid.separator
    rw [← same] at isSeparator
    exact absurd isSeparator (by decide)
  have fraction : ';' ∉ Spelling.fractionChars p.fraction := by
    have digits : ';' ∉ p.fraction := fun member => absurd (valid.fraction ';' member) (by decide)
    unfold Spelling.fractionChars
    split <;> simp_all
  have zone : ';' ∉ p.zone.chars := by
    have isZone := valid.zone
    generalize p.zone = zone at isZone
    cases isZone with
    | letter isLetter =>
      rcases letter_cases isLetter with rfl | rfl <;> decide
    | distance isSign hours minutes =>
      rcases sign_cases isSign with rfl | rfl | rfl <;> simp [Zone.chars, numeral hours, numeral minutes]
  rw [← spelled]
  simp [Spelling.chars, Spelling.dateChars, Spelling.timeChars, numeral valid.year, numeral valid.month,
    numeral valid.day, separator, numeral valid.hour, numeral valid.minute, numeral valid.second, fraction, zone]

/-! ### One spelling for each text -/

theorem Zone.chars_injective {zone other : Zone} (valid : zone.Valid) (validToo : other.Valid)
    (same : zone.chars = other.chars) : zone = other := by
  cases valid with
  | letter isLetter =>
    cases validToo with
    | letter isLetterToo => rw [(List.cons.inj same).1]
    | distance => simp [chars] at same
  | distance isSign hours minutes =>
    cases validToo with
    | letter isLetter => simp [chars] at same
    | distance isSignToo hoursToo minutesToo =>
      obtain ⟨rfl, texts⟩ := List.cons.inj same
      obtain ⟨rfl, colons⟩ := List.append_inj texts (by rw [hours.length, hoursToo.length])
      rw [(List.cons.inj colons).2]

theorem Spelling.fractionChars_injective {ds more : List Char} (same : fractionChars ds = fractionChars more) :
    ds = more := by
  cases ds with
  | nil =>
    cases more with
    | nil => rfl
    | cons => cases same
  | cons =>
    cases more with
    | nil => cases same
    | cons => exact (List.cons.inj same).2

/-- The parts can be told from the text. -/
theorem Spelling.chars_injective {p q : Spelling} (valid : p.Valid) (validToo : q.Valid) (same : p.chars = q.chars) :
    p = q := by
  unfold chars dateChars timeChars at same
  simp only [List.append_assoc, List.cons_append] at same
  obtain ⟨year, same⟩ := List.append_inj same (by rw [valid.year.length, validToo.year.length])
  obtain ⟨month, same⟩ := List.append_inj (List.cons.inj same).2 (by rw [valid.month.length, validToo.month.length])
  obtain ⟨day, same⟩ := List.append_inj (List.cons.inj same).2 (by rw [valid.day.length, validToo.day.length])
  obtain ⟨separator, same⟩ := List.cons.inj same
  obtain ⟨hour, same⟩ := List.append_inj same (by rw [valid.hour.length, validToo.hour.length])
  obtain ⟨minute, same⟩ := List.append_inj (List.cons.inj same).2
    (by rw [valid.minute.length, validToo.minute.length])
  obtain ⟨second, same⟩ := List.append_inj (List.cons.inj same).2
    (by rw [valid.second.length, validToo.second.length])
  -- The digits of the fraction have no length of their own: they end where the reader ends.
  have read := fraction_spelled valid.fraction (List.append_nil p.zone.chars ▸ ends_zone valid.zone [])
  have readToo := fraction_spelled validToo.fraction (List.append_nil q.zone.chars ▸ ends_zone validToo.zone [])
  rw [same, readToo] at read
  have zones : q.zone.chars = p.zone.chars := congrArg Prod.snd (Option.some.inj read)
  rw [zones] at same
  have fraction := fractionChars_injective (List.append_cancel_right same)
  have zone := Zone.chars_injective validToo.zone valid.zone zones
  cases p
  cases q
  simp_all

/-- No text of an instant is the beginning of another one. -/
theorem eq_of_read?_of_begins {s s' : String} {t t' : Instant} (read : read? s = some t) (readToo : read? s' = some t')
    (begins : s.toList <+: s'.toList) : s = s' := by
  obtain ⟨p, valid, spelled, -⟩ := read?_eq_some_iff.mp read
  obtain ⟨rest, isRest⟩ := begins
  have both := readChars?_append valid rest
  rw [spelled, isRest] at both
  unfold read? at readToo
  rw [readToo] at both
  cases rest with
  | nil => exact String.toList_injective (by simpa using isRest)
  | cons c rest => simp at both

end Time.Rfc3339

/-- A key tells instant and nonce, if the instant is one. -/
theorem ReplayGuard.key_eq_iff {timestamp timestamp' : String} {t t' : Instant}
    (dated : Time.Rfc3339.read? timestamp = some t) (datedToo : Time.Rfc3339.read? timestamp' = some t')
    (nonce nonce' : String) : key timestamp nonce = key timestamp' nonce' ↔ timestamp = timestamp' ∧ nonce = nonce' := by
  constructor
  · intro same
    have texts := congrArg String.toList same
    simp only [key, String.toList_append, List.append_assoc] at texts
    -- One of the two instants begins the other, whichever hyphen is the one between the parts.
    have one : timestamp = timestamp' := by
      rcases List.prefix_or_prefix_of_prefix ⟨_, texts⟩ ⟨_, rfl⟩ with begins | begins
      · exact Time.Rfc3339.eq_of_read?_of_begins dated datedToo begins
      · exact (Time.Rfc3339.eq_of_read?_of_begins datedToo dated begins).symm
    subst one
    refine ⟨rfl, String.toList_injective ?_⟩
    simpa using texts
  · rintro ⟨rfl, rfl⟩
    rfl

/-- Hyphens in the date, in the distance from UTC and in the nonce. -/
theorem ReplayGuard.key_eq_iff_hyphens :
    Time.Rfc3339.read? "2026-01-01T00:00:00-05:00" = some ⟨1767243600, 0⟩ ∧
    Time.Rfc3339.read? "2026-01-01 00:00:00.5-05:00" = some ⟨1767243600, 500000000⟩ ∧
    (key "2026-01-01T00:00:00-05:00" "-05:00-aaaaaaaaaaaaaaaaaaaa" =
        key "2026-01-01 00:00:00.5-05:00" "05:00-aaaaaaaaaaaaaaaaaaaa" ↔
      "2026-01-01T00:00:00-05:00" = "2026-01-01 00:00:00.5-05:00" ∧
        "-05:00-aaaaaaaaaaaaaaaaaaaa" = "05:00-aaaaaaaaaaaaaaaaaaaa") := by
  have read : Time.Rfc3339.read? "2026-01-01T00:00:00-05:00" = some ⟨1767243600, 0⟩ := by decide +kernel
  have readToo : Time.Rfc3339.read? "2026-01-01 00:00:00.5-05:00" = some ⟨1767243600, 500000000⟩ := by decide +kernel
  exact ⟨read, readToo, key_eq_iff read readToo _ _⟩

end Countersign
