import Countersign.Proofs.Texts
import Countersign.Time.Rfc3339
import Mathlib.Algebra.Group.Nat.Defs

/-!
Instants come back from their texts.

A day of any year is found again by its number (`Date.dayNumber_ofDayNumber`). So the text of an instant of the years 0
to 9999 is read as the second that the instant lies in (`Rfc3339.read?_write`).
-/

namespace Countersign

namespace Text

theorem length_natDigits {n width : Nat} (positive : 0 < width) (small : n < 10 ^ width) :
    (natDigits n).length ≤ width := by
  induction n using natDigits.induct generalizing width with
  | case1 n less =>
    rw [natDigits, if_pos less]
    exact positive
  | case2 n large ih =>
    obtain ⟨width, rfl⟩ : ∃ more, width = more + 1 := ⟨width - 1, by omega⟩
    have wide : 0 < width := by
      rcases Nat.eq_zero_or_pos width with rfl | wide
      · omega
      · exact wide
    rw [natDigits, if_neg large, List.length_append, List.length_singleton]
    have shorter := ih wide (Nat.div_lt_of_lt_mul (by rw [Nat.pow_succ] at small; omega))
    omega

/-- A padded number has its width, and digits only, which make the number. -/
theorem padded_spec {n width : Nat} (positive : 0 < width) (small : n < 10 ^ width) :
    (padded width n).toList.length = width ∧ (∀ c ∈ (padded width n).toList, c.isDigit = true) ∧
      natOfDigits (padded width n).toList = n := by
  have short := length_natDigits positive small
  have zeros (count : Nat) : (List.replicate count '0').foldl (fun n c => n * 10 + digitValue c) 0 = 0 := by
    induction count with
    | zero => rfl
    | succ count ih => exact ih
  unfold padded
  dsimp only
  rw [String.toList_ofList]
  refine ⟨?_, ?_, ?_⟩
  · rw [List.length_append, List.length_replicate]
    omega
  · intro c member
    rcases List.mem_append.mp member with zero | digit
    · rw [List.eq_of_mem_replicate zero]
      decide
    · exact isDigit_of_mem_natDigits digit
  · unfold natOfDigits
    rw [List.foldl_append, zeros]
    exact natOfDigits_natDigits n

end Text

namespace Time

/-! ### Dates -/

theorem isLeapYear_iff (year : Int) :
    isLeapYear year = true ↔ year % 4 = 0 ∧ (year % 100 ≠ 0 ∨ year % 400 = 0) := by
  simp [isLeapYear]

theorem daysBeforeYear_succ (year : Int) :
    daysBeforeYear (year + 1) = daysBeforeYear year + if isLeapYear year then 366 else 365 := by
  unfold daysBeforeYear
  split
  next leap =>
    rw [isLeapYear_iff] at leap
    omega
  next common =>
    rw [isLeapYear_iff] at common
    omega

/-- The lengths of months depend on the year in one way only. -/
theorem daysBeforeMonth_congr {year other : Int} (same : isLeapYear year = isLeapYear other) :
    daysBeforeMonth year = daysBeforeMonth other ∧ daysInMonth year = daysInMonth other := by
  have lengths : daysInMonth year = daysInMonth other := by
    funext month
    unfold daysInMonth
    rw [same]
  refine ⟨?_, lengths⟩
  funext month
  unfold daysBeforeMonth
  rw [lengths]

/-- The month of a day within a year, which is found by the lengths of the months. -/
def monthOf (year : Int) (rest : Nat) : Nat :=
  ((List.range 12).find? fun m => rest < daysBeforeMonth year (m + 2)).getD 11 + 1

theorem monthOf_spec (year : Int) {rest : Nat} (within : rest < if isLeapYear year then 366 else 365) :
    1 ≤ monthOf year rest ∧ monthOf year rest ≤ 12 ∧ daysBeforeMonth year (monthOf year rest) ≤ rest ∧
      rest - daysBeforeMonth year (monthOf year rest) + 1 ≤ daysInMonth year (monthOf year rest) := by
  have leap : ∀ rest : Fin 366, 1 ≤ monthOf 2000 rest ∧ monthOf 2000 rest ≤ 12 ∧
      daysBeforeMonth 2000 (monthOf 2000 rest) ≤ rest ∧
      rest - daysBeforeMonth 2000 (monthOf 2000 rest) + 1 ≤ daysInMonth 2000 (monthOf 2000 rest) := by
    decide +kernel
  have common : ∀ rest : Fin 365, 1 ≤ monthOf 2001 rest ∧ monthOf 2001 rest ≤ 12 ∧
      daysBeforeMonth 2001 (monthOf 2001 rest) ≤ rest ∧
      rest - daysBeforeMonth 2001 (monthOf 2001 rest) + 1 ≤ daysInMonth 2001 (monthOf 2001 rest) := by
    decide +kernel
  unfold monthOf at *
  by_cases isLeap : isLeapYear year = true
  · obtain ⟨before, lengths⟩ := daysBeforeMonth_congr (isLeap.trans (show true = isLeapYear 2000 from rfl))
    rw [if_pos isLeap] at within
    rw [before, lengths]
    exact leap ⟨rest, within⟩
  · obtain ⟨before, lengths⟩ := daysBeforeMonth_congr
      ((Bool.not_eq_true _).mp isLeap |>.trans (show false = isLeapYear 2001 from rfl))
    rw [if_neg isLeap] at within
    rw [before, lengths]
    exact common ⟨rest, within⟩

namespace Date

/-- The year of a day is the one that has begun by then and has not ended. -/
theorem year_ofDayNumber (n : Int) : daysBeforeYear (ofDayNumber n).year ≤ n + epoch ∧
    n + epoch < daysBeforeYear ((ofDayNumber n).year + 1) := by
  unfold ofDayNumber
  dsimp only
  generalize n + epoch = days
  split
  next late =>
    rw [Int.sub_add_cancel]
    refine ⟨?_, late⟩
    unfold daysBeforeYear
    omega
  next begun =>
    split
    next ended =>
      refine ⟨ended, ?_⟩
      unfold daysBeforeYear
      omega
    next unended => exact ⟨Int.not_lt.mp begun, Int.not_le.mp unended⟩

/-- A day is found by its number. -/
theorem ofDayNumber_spec (n : Int) : (ofDayNumber n).Exists ∧ (ofDayNumber n).dayNumber = n := by
  obtain ⟨begun, unended⟩ := year_ofDayNumber n
  rw [daysBeforeYear_succ] at unended
  have isDate : ofDayNumber n =
      let year := (ofDayNumber n).year
      let rest := (n + epoch - daysBeforeYear year).toNat
      ⟨year, monthOf year rest, rest - daysBeforeMonth year (monthOf year rest) + 1⟩ := rfl
  generalize (ofDayNumber n).year = year at *
  obtain ⟨rest, isRest⟩ : ∃ rest : Nat, n + epoch - daysBeforeYear year = rest :=
    ⟨(n + epoch - daysBeforeYear year).toNat, by omega⟩
  have within : rest < if isLeapYear year then 366 else 365 := by
    split at unended <;> split <;> first | contradiction | omega
  obtain ⟨first, last, before, short⟩ := monthOf_spec year within
  rw [isDate]
  dsimp only
  rw [isRest, Int.toNat_natCast]
  refine ⟨⟨first, last, Nat.le_add_left 1 _, short⟩, ?_⟩
  unfold dayNumber
  dsimp only
  omega

/-- The days of four digits of a year. -/
theorem year_bounds {n : Int} (first : -719528 ≤ n) (last : n ≤ 2932896) :
    0 ≤ (ofDayNumber n).year ∧ (ofDayNumber n).year ≤ 9999 := by
  obtain ⟨begun, unended⟩ := year_ofDayNumber n
  unfold daysBeforeYear epoch at *
  omega

theorem late_year {n : Int} (late : 2932896 < n) : 9999 < (ofDayNumber n).year := by
  obtain ⟨begun, unended⟩ := year_ofDayNumber n
  unfold daysBeforeYear epoch at *
  omega

end Date

/-! ### Texts -/

namespace Rfc3339

theorem digits_of_all {s : List Char} (all : ∀ c ∈ s, c.isDigit = true) (n : Nat) (rest : List Char) :
    digits s.length n (s ++ rest) = some (s.foldl (fun n c => n * 10 + Text.digitValue c) n, rest) := by
  induction s generalizing n with
  | nil => rfl
  | cons c s ih =>
    rw [List.length_cons, List.cons_append, digits, if_pos (all c List.mem_cons_self), List.foldl_cons]
    exact ih (fun d member => all d (List.mem_cons_of_mem c member)) _

theorem digits_padded {n width : Nat} (positive : 0 < width) (small : n < 10 ^ width) (rest : List Char) :
    digits width 0 ((Text.padded width n).toList ++ rest) = some (n, rest) := by
  obtain ⟨isLength, all, isNumber⟩ := Text.padded_spec positive small
  have read := digits_of_all all 0 rest
  rw [isLength] at read
  rw [read]
  exact congrArg (fun n => some (n, rest)) isNumber

theorem digits_four {n : Nat} (small : n < 10000) (rest : List Char) :
    digits 4 0 ((Text.padded 4 n).toList ++ rest) = some (n, rest) := digits_padded (by decide) small rest

theorem digits_two {n : Nat} (small : n < 100) (rest : List Char) :
    digits 2 0 ((Text.padded 2 n).toList ++ rest) = some (n, rest) := digits_padded (by decide) small rest

theorem one_cons {accepts : Char → Bool} {c : Char} (accepted : accepts c = true) (rest : List Char) :
    one accepts (c :: rest) = some (c, rest) := if_pos accepted

theorem date_text {year month day : Nat} (isDate : Date.Exists ⟨year, month, day⟩) (short : year < 10000)
    (rest : List Char) : date ((Text.padded 4 year).toList ++ '-' :: ((Text.padded 2 month).toList ++
      '-' :: ((Text.padded 2 day).toList ++ rest))) = some (⟨year, month, day⟩, rest) := by
  have bounds : 1 ≤ month ∧ month ≤ 12 ∧ 1 ≤ day ∧ day ≤ daysInMonth year month := isDate
  obtain ⟨-, months, -, days⟩ := bounds
  have short_month : daysInMonth year month ≤ 31 := by
    unfold daysInMonth
    split
    · split <;> omega
    · split <;> omega
  have dash (s : List Char) : one (· == '-') ('-' :: s) = some ('-', s) := one_cons rfl s
  simp only [date, Option.bind_eq_bind, digits_four short, digits_two (show month < 100 by omega),
    digits_two (show day < 100 by omega), dash, Option.bind_some]
  exact if_pos isDate

/-- The text of a second of the day is read as that second, and one of a leap second as the second before, prolonged. -/
theorem timeOfDay_text {s : Nat} (inDay : s < 86400) {leap : Bool} (last : leap = true → s % 60 = 59)
    (rest : List Char) : timeOfDay ((Text.padded 2 (s / 3600)).toList ++ ':' :: ((Text.padded 2 (s / 60 % 60)).toList ++
      ':' :: ((Text.padded 2 (s % 60 + if leap then 1 else 0)).toList ++ 'Z' :: rest))) =
      some (s, if leap then 1000000000 else 0, 'Z' :: rest) := by
  have colon (s : List Char) : one (· == ':') (':' :: s) = some (':', s) := one_cons rfl s
  have whole : fraction ('Z' :: rest) = some (0, 'Z' :: rest) := rfl
  have parts : s / 3600 * 3600 + s / 60 % 60 * 60 + s % 60 = s := by omega
  have digitsOf {n : Nat} (small : n ≤ 60) (rest : List Char) :
      digits 2 0 ((Text.padded 2 n).toList ++ rest) = some (n, rest) := digits_two (by omega) rest
  cases leap with
  | false =>
    simp only [timeOfDay, Option.bind_eq_bind, digitsOf (show s / 3600 ≤ 60 by omega),
      digitsOf (show s / 60 % 60 ≤ 60 by omega), digitsOf (show s % 60 + 0 ≤ 60 by omega), colon, whole,
      Option.bind_some, Bool.false_eq_true, if_false]
    rw [if_neg (by omega), if_neg (by omega), Nat.add_zero, parts]
  | true =>
    have isLast := last rfl
    simp only [timeOfDay, Option.bind_eq_bind, digitsOf (show s / 3600 ≤ 60 by omega),
      digitsOf (show s / 60 % 60 ≤ 60 by omega), digitsOf (show s % 60 + 1 ≤ 60 by omega), colon, whole,
      Option.bind_some, if_true]
    rw [if_neg (by omega), if_pos (by omega), ← isLast, parts]

/-- The text of an instant is read as the beginning of the second in which it lies. -/
theorem read?_write {t : Instant} (first : -62167219200 ≤ t.seconds) (last : t.seconds ≤ 253402300799) :
    read? (write t) = some t.truncated := by
  obtain ⟨isDate, isNumber⟩ := Date.ofDayNumber_spec (t.seconds / Instant.day)
  obtain ⟨firstYear, lastYear⟩ : 0 ≤ (Date.ofDayNumber (t.seconds / Instant.day)).year ∧
      (Date.ofDayNumber (t.seconds / Instant.day)).year ≤ 9999 :=
    Date.year_bounds (by unfold Instant.day; omega) (by unfold Instant.day; omega)
  unfold write
  dsimp only
  generalize Date.ofDayNumber (t.seconds / Instant.day) = d at *
  obtain ⟨year, month, day⟩ := d
  obtain ⟨year, rfl⟩ := Int.eq_ofNat_of_zero_le firstYear
  obtain ⟨s, isSecond⟩ : ∃ s : Nat, t.seconds % Instant.day = s := ⟨(t.seconds % Instant.day).toNat, by
    unfold Instant.day
    omega⟩
  have split : t.seconds / Instant.day * Instant.day + s = t.seconds := by
    rw [← isSecond]
    exact Int.ediv_mul_add_emod ..
  have withinDay : s < 86400 := by
    unfold Instant.day at isSecond
    omega
  have atEnd (leap : t.isLeap = true) : s % 60 = 59 := by
    have last := Instant.last_of_isLeap leap
    unfold Instant.day at isSecond
    omega
  have short : year < 10000 := by
    have : (year : Int) ≤ 9999 := lastYear
    omega
  have theT (s : List Char) : one (fun c => c == 'T' || c == 't' || c == ' ') ('T' :: s) = some ('T', s) :=
    one_cons rfl s
  have theZ : offset ['Z'] = some (0, []) := rfl
  rw [isSecond, Int.toNat_natCast]
  unfold yearText
  rw [if_pos ⟨firstYear, lastYear⟩]
  unfold read? readChars?
  simp only [String.toList_append, Int.toNat_natCast, List.append_assoc]
  show (date ((Text.padded 4 year).toList ++ '-' :: ((Text.padded 2 month).toList ++ '-' ::
    ((Text.padded 2 day).toList ++ 'T' :: ((Text.padded 2 (s / 3600)).toList ++ ':' ::
      ((Text.padded 2 (s / 60 % 60)).toList ++ ':' ::
        ((Text.padded 2 (s % 60 + if t.isLeap then 1 else 0)).toList ++ ['Z']))))))).bind _ = _
  rw [date_text isDate short, Option.bind_some]
  simp only [theT, Option.bind_eq_bind, Option.bind_some, timeOfDay_text withinDay atEnd, theZ]
  rw [isNumber, split, Int.sub_zero]
  rfl

/-- The text of an instant after the year 9999 is none that is read. -/
theorem read?_write_late {t : Instant} (late : 253402300799 < t.seconds) : read? (write t) = none := by
  have year : 9999 < (Date.ofDayNumber (t.seconds / Instant.day)).year := Date.late_year (by unfold Instant.day; omega)
  unfold write
  dsimp only
  generalize Date.ofDayNumber (t.seconds / Instant.day) = d at *
  have sign : (yearText d.year).toList = '+' :: (Text.padded 4 d.year.natAbs).toList := by
    unfold yearText
    rw [if_neg (by omega), if_neg (by omega), String.toList_append]
    rfl
  unfold read? readChars?
  simp only [String.toList_append, sign, List.cons_append]
  rfl

end Rfc3339

end Time

end Countersign
