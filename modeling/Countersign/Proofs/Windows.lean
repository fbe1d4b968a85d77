import Countersign.Proofs.Handlers
import Countersign.Proofs.Signing
import Countersign.Proofs.Timestamps
import Countersign.Proofs.Verdicts
import Mathlib.Algebra.BigOperators.Intervals

/-!
How close the instant of a signed request must be to the clock.

The instant that a text spells is counted here by the calendar alone: whole years, whole months, days, the time of day
less the distance from UTC, and the whole nanoseconds of the fraction (`Spelling.sent`). A second 60 counts as the
first one of the next minute. The reader's instant is the same, by another count (`nanoseconds_instant`). The distance
that is compared is the difference of the two counts, but for a leap second, in the text or on the clock, that lies
between the two times of day (`since_instant`); so the window is exact to the nanosecond, and a leap second shifts it by
at most a second (`Signature.window_exact`, `Signature.leapClock_shuts_window`).
-/

namespace Countersign

/-! ### Days by the calendar -/

namespace Time

/-- Days in a year, month by month. -/
def daysInYear (year : Int) : Nat := ∑ m ∈ Finset.Ico 1 13, daysInMonth year m

/-- Days before a date, from the beginning of the year 0: whole years, whole months, days. -/
def daysUntil (year month day : Nat) : Nat :=
  ∑ y ∈ Finset.range year, daysInYear y + ∑ m ∈ Finset.Ico 1 month, daysInMonth year m + (day - 1)

theorem daysInYear_eq (year : Int) : daysInYear year = if isLeapYear year then 366 else 365 := by
  by_cases leap : isLeapYear year = true
  · simp [daysInYear, Finset.sum_Ico_succ_top, daysInMonth, leap]
  · simp [daysInYear, Finset.sum_Ico_succ_top, daysInMonth, leap]

theorem daysBeforeYear_eq (year : Nat) : daysBeforeYear year = ∑ y ∈ Finset.range year, daysInYear y := by
  induction year with
  | zero => rfl
  | succ year ih =>
    simp only [Finset.sum_range_succ, Int.natCast_add, Int.natCast_one, daysBeforeYear_succ, ih, daysInYear_eq year]
    split <;> rfl

theorem daysBeforeMonth_eq (year : Int) (month : Nat) :
    daysBeforeMonth year month = ∑ m ∈ Finset.Ico 1 month, daysInMonth year m := by
  have counted (n : Nat) : (List.range n).foldl (fun days m => days + daysInMonth year (m + 1)) 0 =
      ∑ m ∈ Finset.range n, daysInMonth year (m + 1) := by
    induction n with
    | zero => rfl
    | succ n ih => rw [List.range_succ, List.foldl_append, ih, Finset.sum_range_succ]; rfl
  unfold daysBeforeMonth
  rw [counted, Finset.sum_Ico_eq_sum_range]
  simp only [Nat.add_comm 1]

theorem daysUntil_eq (year month : Nat) {day : Nat} (some_day : 1 ≤ day) :
    (daysUntil year month day : Int) = daysBeforeYear year + daysBeforeMonth year month + day - 1 := by
  unfold daysUntil
  rw [daysBeforeYear_eq, daysBeforeMonth_eq]
  omega

/-- The number of a day is counted from 1970-01-01. -/
theorem dayNumber_eq (year month : Nat) {day : Nat} (some_day : 1 ≤ day) :
    Date.dayNumber ⟨year, month, day⟩ = daysUntil year month day - daysUntil 1970 1 1 := by
  have epoch : daysBeforeYear ↑(1970 : Nat) + daysBeforeMonth ↑(1970 : Nat) 1 + ↑(1 : Nat) - 1 = Date.epoch := rfl
  rw [daysUntil_eq year month some_day, daysUntil_eq 1970 1 (Nat.le_refl 1), epoch]
  rfl

end Time

/-- Nanoseconds from the beginning of 1970, where a leap second runs on into the next one. -/
def Instant.nanoseconds (t : Instant) : Int := t.seconds * second + t.nanos

namespace Time.Rfc3339

open Text (natOfDigits)

/-- Distances from UTC are whole minutes. -/
theorem Zone.seconds_emod (zone : Zone) : zone.seconds % 60 = 0 := by
  cases zone with
  | letter z => rfl
  | distance sign hours minutes =>
    unfold seconds
    dsimp only
    split <;> omega

namespace Spelling

variable {p : Spelling}

/-- Seconds of UTC, in nanoseconds from the beginning of 1970, at which the text says that it was written. -/
def sent (p : Spelling) : Int :=
  let days : Int :=
    daysUntil (natOfDigits p.year) (natOfDigits p.month) (natOfDigits p.day) - daysUntil 1970 1 1
  let seconds : Int := ((days * 24 + natOfDigits p.hour) * 60 + natOfDigits p.minute) * 60 + natOfDigits p.second
  (seconds - p.zone.seconds) * 1000000000 + p.nanos

theorem nanos_lt (valid : p.Valid) : p.nanos < 1000000000 := by
  have less := Text.natOfDigits_lt valid.fraction
  unfold nanos
  rw [Nat.div_lt_iff_lt_mul (Nat.pow_pos (by decide)), Nat.mul_comm 1000000000]
  exact Nat.mul_lt_mul_of_pos_right less (by decide)

theorem nanos_instant (valid : p.Valid) : p.instant.nanos = p.prolonged := by
  have less := nanos_lt valid
  refine Instant.nanos_of ?_
  unfold prolonged Instant.span
  by_cases leap : natOfDigits p.second = 60
  · have minutes := p.zone.seconds_emod
    have last : (p.date.dayNumber * Instant.day + ↑(natOfDigits p.hour * 3600 + natOfDigits p.minute * 60 +
        min (natOfDigits p.second) 59) - p.zone.seconds) % 60 = 59 := by
      unfold Instant.day
      omega
    rw [if_pos leap, if_pos last]
    omega
  · rw [if_neg leap]
    split <;> omega

/-- The instant that is read is the one that was counted. -/
theorem nanoseconds_instant (valid : p.Valid) : p.instant.nanoseconds = p.sent := by
  have isDay : 1 ≤ natOfDigits p.day := valid.isDate.2.2.1
  have inMinute := valid.inMinute
  unfold Instant.nanoseconds
  rw [nanos_instant valid]
  unfold sent instant date prolonged Instant.second Instant.day
  rw [dayNumber_eq _ _ isDay, Instant.seconds_of]
  by_cases leap : natOfDigits p.second = 60
  · simp only [leap, if_true]
    push_cast
    omega
  · rw [if_neg leap, Nat.min_eq_left (by omega)]
    push_cast
    omega

theorem isLeap_instant (valid : p.Valid) : p.instant.isLeap = true ↔ natOfDigits p.second = 60 := by
  have less := nanos_lt valid
  rw [Instant.isLeap_iff, nanos_instant valid]
  unfold prolonged
  by_cases leap : natOfDigits p.second = 60
  · simp [leap]
  · simp [leap, less]

/-- What is added to the difference from a clock: a second, if a leap second is meant and the time of day that the
clock shows is a later one. -/
def passed (p : Spelling) (now : Instant) : Int :=
  if natOfDigits p.second = 60 ∧ p.instant.seconds % Instant.day < now.seconds % Instant.day then Instant.second else 0

/-- What is taken from the difference from a clock: a second, if the clock stands in a leap second and the time of day
that it shows is an earlier one. -/
def coming (p : Spelling) (now : Instant) : Int :=
  if now.isLeap = true ∧ now.seconds % Instant.day < p.instant.seconds % Instant.day then Instant.second else 0

theorem since_instant (valid : p.Valid) (now : Instant) :
    now.since p.instant = now.nanoseconds - p.sent + p.passed now - p.coming now := by
  rw [← nanoseconds_instant valid]
  unfold Instant.since passed coming Instant.nanoseconds
  simp only [isLeap_instant valid]
  ring

theorem passed_cases (p : Spelling) (now : Instant) :
    p.passed now = 0 ∨ p.passed now = 1000000000 ∧ natOfDigits p.second = 60 := by
  unfold passed
  split
  next leap => exact .inr ⟨rfl, leap.1⟩
  · exact .inl rfl

theorem coming_cases (p : Spelling) (now : Instant) :
    p.coming now = 0 ∨ p.coming now = 1000000000 ∧ now.isLeap = true := by
  unfold coming
  split
  next leap => exact .inr ⟨rfl, leap.1⟩
  · exact .inl rfl

end Spelling

end Time.Rfc3339

/-! ### The window -/

namespace Signature

/-- Whether the check of a request answers anything but that its instant is too far from the clock. -/
def Timely (backend : Backend) (request : SignedRequest) (secret : Option Bytes) (now : Instant) (w : World) : Prop :=
  ∃ answer, ((checkAt request secret now).run (World.answerWith backend) w).1 = some answer ∧
    answer ≠ .error .timestampOutOfRange

/-- Only the reading of the stamp finds that an instant is too far from the clock. -/
theorem Verdict.late_iff {guard left : ReplayGuard} {request : SignedRequest} {now : Instant} {secret : Option Bytes}
    {answer : Except SignatureError Unit} (verdict : Verdict guard request now secret answer left) :
    answer = .error .timestampOutOfRange ↔ Stamp.read request.headers now = .error .timestampOutOfRange := by
  cases verdict with
  | unread unread => simp [unread]
  | unsigned read | emptySecret read | otherBody read | replayed read | mismatched read | accepted read => simp [read]

theorem timely_iff {request : SignedRequest} {signature nonce text : String} {sent : Instant}
    (signed : request.headers.text? signatureHeader = some signature) (signature_ne : signature ≠ "")
    (unique : request.headers.text? nonceHeader = some nonce) (long : minNonceLength ≤ nonce.length)
    (dated : request.headers.text? timestampHeader = some text) (isInstant : Time.Rfc3339.read? text = some sent)
    (backend : Backend) (secret : Option Bytes) (now : Instant) (w : World) :
    Timely backend request secret now w ↔ Stamp.inWindow now sent = true := by
  obtain ⟨answer, left, ran, verdict, -⟩ := run_checkAt backend request secret now w
  have answered : Timely backend request secret now w ↔
      Stamp.read request.headers now ≠ .error .timestampOutOfRange := by
    unfold Timely
    rw [ran, Ne, ← verdict.late_iff]
    simp
  have read : Stamp.read request.headers now = if Stamp.inWindow now sent then .ok ⟨signature, nonce, text⟩
      else .error .timestampOutOfRange :=
    Stamp.read_eq_of_texts signed signature_ne unique long dated isInstant
  rw [answered, read]
  split <;> simp [*]

open Time.Rfc3339 (Spelling)
open Text (natOfDigits)

/-- A text that is read as an instant spells one, in one way. With signature and nonce in order, the check gets past the
window exactly if clock and instant are at most sixty seconds apart, to the nanosecond, where a leap second between the
times of day of both counts as a second of its own. So if neither of them lies in a leap second, the difference itself
decides; and a leap second of the text widens the window only to what is sent later than the clock, one of the clock
only to what was sent earlier. -/
theorem window_exact {request : SignedRequest} {signature nonce text : String} {t : Instant}
    (signed : request.headers.text? signatureHeader = some signature) (signature_ne : signature ≠ "")
    (unique : request.headers.text? nonceHeader = some nonce) (long : 20 ≤ nonce.length)
    (dated : request.headers.text? timestampHeader = some text) (isInstant : Time.Rfc3339.read? text = some t)
    (now : Instant) (secret : Option Bytes) (backend : Backend) (w : World) :
    ∃ p : Spelling, p.Valid ∧ p.chars = text.toList ∧ (∀ q : Spelling, q.Valid → q.chars = text.toList → q = p) ∧
      (Timely backend request secret now w ↔
        -60 * 1000000000 ≤ now.nanoseconds - p.sent + p.passed now - p.coming now ∧
          now.nanoseconds - p.sent + p.passed now - p.coming now ≤ 60 * 1000000000) ∧
      (now.isLeap = false → natOfDigits p.second ≠ 60 → (Timely backend request secret now w ↔
        -60 * 1000000000 ≤ now.nanoseconds - p.sent ∧ now.nanoseconds - p.sent ≤ 60 * 1000000000)) ∧
      (now.isLeap = false → natOfDigits p.second = 60 → Timely backend request secret now w →
        -61 * 1000000000 ≤ now.nanoseconds - p.sent ∧ now.nanoseconds - p.sent ≤ 60 * 1000000000) ∧
      (now.isLeap = true → natOfDigits p.second ≠ 60 → Timely backend request secret now w →
        -60 * 1000000000 ≤ now.nanoseconds - p.sent ∧ now.nanoseconds - p.sent ≤ 61 * 1000000000) ∧
      (now.isLeap = true → natOfDigits p.second = 60 → Timely backend request secret now w →
        -61 * 1000000000 ≤ now.nanoseconds - p.sent ∧ now.nanoseconds - p.sent ≤ 61 * 1000000000) := by
  obtain ⟨p, valid, spelled, rfl⟩ := Time.Rfc3339.read?_eq_some_iff.mp isInstant
  have window : Timely backend request secret now w ↔
      -60 * 1000000000 ≤ now.nanoseconds - p.sent + p.passed now - p.coming now ∧
        now.nanoseconds - p.sent + p.passed now - p.coming now ≤ 60 * 1000000000 := by
    rw [timely_iff signed signature_ne unique long dated isInstant, Stamp.inWindow_iff,
      ← Spelling.since_instant valid now]
    exact Iff.rfl
  have passed := p.passed_cases now
  have coming := p.coming_cases now
  refine ⟨p, valid, spelled, ?_, window, ?_, ?_, ?_, ?_⟩
  · intro q validToo spelledToo
    exact Spelling.chars_injective validToo valid (spelledToo.trans spelled.symm)
  · intro plainClock plainSecond
    have noneComing : p.coming now = 0 := coming.resolve_right fun leap => by simp [plainClock] at leap
    have nonePassed : p.passed now = 0 := passed.resolve_right fun leap => plainSecond leap.2
    rw [window, noneComing, nonePassed, Int.add_zero, Int.sub_zero]
  · intro plainClock _ timely
    have noneComing : p.coming now = 0 := coming.resolve_right fun leap => by simp [plainClock] at leap
    obtain ⟨early, late⟩ := window.mp timely
    omega
  · intro _ plainSecond timely
    have nonePassed : p.passed now = 0 := passed.resolve_right fun leap => plainSecond leap.2
    obtain ⟨early, late⟩ := window.mp timely
    omega
  · intro _ _ timely
    obtain ⟨early, late⟩ := window.mp timely
    omega

end Signature

/-! ### A sample -/

namespace Sample

/-- An hour that is this year's in the west, and the next one's in UTC; the last digit is less than a nanosecond. -/
def newYear : Time.Rfc3339.Spelling where
  year := ['2', '0', '2', '4']
  month := ['1', '2']
  day := ['3', '1']
  separator := 't'
  hour := ['2', '3']
  minute := ['3', '0']
  second := ['0', '0']
  fraction := ['9', '9', '9', '9', '9', '9', '9', '9', '9', '9']
  zone := .distance '-' ['0', '0'] ['4', '5']

theorem newYear_valid : newYear.Valid where
  year := .of_all rfl rfl
  month := .of_all rfl rfl
  day := .of_all rfl rfl
  isDate := by decide
  separator := by decide
  hour := .of_all rfl rfl
  minute := .of_all rfl rfl
  second := .of_all rfl rfl
  inDay := by decide
  inHour := by decide
  inMinute := by decide
  fraction := List.all_eq_true.mp rfl
  zone := .distance (by decide) (.of_all rfl rfl) (.of_all rfl rfl) (by decide) (by decide)

theorem newYear_sent : newYear.sent = 1735690500999999999 := by
  rw [← Time.Rfc3339.Spelling.nanoseconds_instant newYear_valid]
  rfl

/-- A request of that time. -/
def dated : SignedRequest where
  method := .get
  target := "/"
  headers := (⟨"aaaaaaaaaaaaaaaaaaaa", "2024-12-31t23:30:00.9999999999-00:45", "", "A"⟩ : RequestSignature).headers
  body := []

end Sample

/-- A minute later to the nanosecond it is in time, and one nanosecond later it is not. -/
theorem Signature.window_exact_newYear :
    Timely Store.answer Sample.dated none ⟨1735690560, 999999999⟩ Sample.world ∧
    ¬ Timely Store.answer Sample.dated none ⟨1735690561, 0⟩ Sample.world := by
  have signed : Sample.dated.headers.text? signatureHeader = some "A" := by decide +kernel
  have unique : Sample.dated.headers.text? nonceHeader = some "aaaaaaaaaaaaaaaaaaaa" := by decide +kernel
  have dated : Sample.dated.headers.text? timestampHeader = some "2024-12-31t23:30:00.9999999999-00:45" := by
    decide +kernel
  have isInstant : Time.Rfc3339.read? "2024-12-31t23:30:00.9999999999-00:45" = some ⟨1735690500, 999999999⟩ := by
    decide +kernel
  have timely_iff {now : Instant} (plain : now.isLeap = false) :
      Timely Store.answer Sample.dated none now Sample.world ↔
        -60 * 1000000000 ≤ now.nanoseconds - Sample.newYear.sent ∧
        now.nanoseconds - Sample.newYear.sent ≤ 60 * 1000000000 := by
    obtain ⟨p, -, -, unambiguous, -, exact, -⟩ :=
      window_exact signed (by decide) unique (by decide) dated isInstant now none Store.answer Sample.world
    cases unambiguous Sample.newYear Sample.newYear_valid (by decide)
    exact exact plain (by decide)
  rw [timely_iff (by decide), timely_iff (by decide), Sample.newYear_sent]
  decide

/-! ### A leap second on the clock -/

namespace Sample

/-- The third minute of 1970. -/
def thirdMinute : Time.Rfc3339.Spelling where
  year := ['1', '9', '7', '0']
  month := ['0', '1']
  day := ['0', '1']
  separator := 'T'
  hour := ['0', '0']
  minute := ['0', '2']
  second := ['0', '0']
  fraction := []
  zone := .letter 'Z'

theorem thirdMinute_valid : thirdMinute.Valid where
  year := .of_all rfl rfl
  month := .of_all rfl rfl
  day := .of_all rfl rfl
  isDate := by decide
  separator := by decide
  hour := .of_all rfl rfl
  minute := .of_all rfl rfl
  second := .of_all rfl rfl
  inDay := by decide
  inHour := by decide
  inMinute := by decide
  fraction := List.all_eq_true.mp rfl
  zone := .letter (by decide)

/-- A request of that time. -/
def ahead : SignedRequest where
  method := .get
  target := "/"
  headers := (⟨"aaaaaaaaaaaaaaaaaaaa", "1970-01-01T00:02:00Z", "", "A"⟩ : RequestSignature).headers
  body := []

end Sample

/-- On a clock that stands half way through the leap second of the first minute, what comes 59.5 seconds after it, each
second taken at its place, is out of the window: the rest of the leap second counts on top of the minute. -/
theorem Signature.leapClock_shuts_window :
    Sample.thirdMinute.Valid ∧ Sample.thirdMinute.chars = "1970-01-01T00:02:00Z".toList ∧
      Text.natOfDigits Sample.thirdMinute.second ≠ 60 ∧
      Sample.ahead.headers.text? signatureHeader = some "A" ∧
      Sample.ahead.headers.text? nonceHeader = some "aaaaaaaaaaaaaaaaaaaa" ∧
      Sample.ahead.headers.text? timestampHeader = some "1970-01-01T00:02:00Z" ∧
      Instant.nanoseconds ⟨59, 1500000000⟩ - Sample.thirdMinute.sent = -59500000000 ∧
      ¬ Timely Store.answer Sample.ahead none ⟨59, 1500000000⟩ Sample.world := by
  have signed : Sample.ahead.headers.text? signatureHeader = some "A" := by decide +kernel
  have unique : Sample.ahead.headers.text? nonceHeader = some "aaaaaaaaaaaaaaaaaaaa" := by decide +kernel
  have dated : Sample.ahead.headers.text? timestampHeader = some "1970-01-01T00:02:00Z" := by decide +kernel
  have isInstant : Time.Rfc3339.read? "1970-01-01T00:02:00Z" = some ⟨120, 0⟩ := by decide +kernel
  have sent : Sample.thirdMinute.sent = 120000000000 := by
    rw [← Time.Rfc3339.Spelling.nanoseconds_instant Sample.thirdMinute_valid]
    rfl
  refine ⟨Sample.thirdMinute_valid, rfl, by decide, signed, unique, dated, ?_, ?_⟩
  · rw [sent]
    decide
  · rw [timely_iff signed (by decide) unique (by decide) dated isInstant]
    decide

end Countersign
