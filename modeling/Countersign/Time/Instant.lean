import Countersign.Time.Calendar

/-!
Instants of UTC, and how far two of them are apart.

A leap second is the second before it, prolonged: its nanoseconds run on from 1000000000 to 1999999999. Only the last
second of a minute can be prolonged.
-/

namespace Countersign

/-- How many nanoseconds a second has, with the leap second that may prolong it. -/
def Instant.span (seconds : Int) : Nat := if seconds % 60 = 59 then 2000000000 else 1000000000

theorem Instant.span_pos (seconds : Int) : 0 < span seconds := by
  unfold span
  split <;> omega

/-- Nanoseconds that are too many for a second wrap. -/
instance (seconds : Int) : Coe Nat (Fin (Instant.span seconds)) :=
  ⟨fun nanos => ⟨nanos % Instant.span seconds, Nat.mod_lt nanos (Instant.span_pos seconds)⟩⟩

/-- The same for numbers that are written out. -/
instance (seconds : Int) (nanos : Nat) : OfNat (Fin (Instant.span seconds)) nanos := ⟨nanos⟩

/-- A point in time: seconds from 1970-01-01T00:00:00Z, leap seconds not counted, and nanoseconds in the second. -/
structure Instant where
  seconds : Int
  part : Fin (Instant.span seconds) := 0
deriving DecidableEq

namespace Instant

/-- Nanoseconds in a second. -/
def second : Int := 1000000000

/-- Seconds in a day. -/
def day : Int := 86400

/-- Nanoseconds in the second, the leap second that may prolong it included. -/
def nanos (t : Instant) : Nat := t.part

/-- The instant of a second and of nanoseconds in it. -/
def of (seconds : Int) (nanos : Nat) : Instant := ⟨seconds, nanos⟩

/-- The seconds that the calendar reaches: the years -262143 to 262142. -/
def inCalendar (seconds : Int) : Prop := -8334601228800 ≤ seconds ∧ seconds ≤ 8210266876799

instance (seconds : Int) : Decidable (inCalendar seconds) :=
  inferInstanceAs (Decidable (-8334601228800 ≤ seconds ∧ seconds ≤ 8210266876799))

/-- What the clock shows at an instant: the instant itself, but nothing before 1970 or beyond the
calendar. -/
def onClock? (t : Instant) : Option Instant :=
  if 0 ≤ t.seconds ∧ inCalendar t.seconds then some t else none

/-- Whether the instant lies in a leap second. -/
def isLeap (t : Instant) : Bool := t.nanos ≥ 1000000000

/-- The beginning of the second that the instant lies in; a leap second is one of its own. -/
def truncated (t : Instant) : Instant := of t.seconds (if t.isLeap then 1000000000 else 0)

/-- So many whole seconds later, or earlier if they are negative. From a leap second the way forward begins with the
second that it prolongs, and the way back with the one that comes next. -/
def plus (t : Instant) (seconds : Int) : Instant :=
  if t.isLeap ∧ seconds ≠ 0 then
    of (t.seconds + seconds + if seconds < 0 then 1 else 0) (t.nanos - 1000000000)
  else of (t.seconds + seconds) t.nanos

/-- Nanoseconds from `earlier` to `later`. A leap second that the time of day has passed counts as a
second of its own. -/
def since (later earlier : Instant) : Int :=
  (later.seconds - earlier.seconds) * second + (later.nanos - earlier.nanos) +
    (if earlier.isLeap ∧ earlier.seconds % day < later.seconds % day then second else 0) -
    (if later.isLeap ∧ later.seconds % day < earlier.seconds % day then second else 0)

variable {t t' : Instant}

theorem nanos_lt (t : Instant) : t.nanos < span t.seconds := t.part.isLt

theorem span_le (seconds : Int) : span seconds ≤ 2000000000 := by
  unfold span
  split <;> decide

@[simp] theorem seconds_of (seconds : Int) (nanos : Nat) : (of seconds nanos).seconds = seconds := rfl

theorem nanos_of {seconds : Int} {nanos : Nat} (within : nanos < span seconds) : (of seconds nanos).nanos = nanos :=
  Nat.mod_eq_of_lt within

theorem nanos_of_small {seconds : Int} {nanos : Nat} (small : nanos < 1000000000) :
    (of seconds nanos).nanos = nanos :=
  nanos_of (by unfold span; split <;> omega)

protected theorem ext (seconds : t.seconds = t'.seconds) (nanos : t.nanos = t'.nanos) : t = t' := by
  obtain ⟨s, part⟩ := t
  obtain ⟨s', part'⟩ := t'
  obtain rfl : s = s' := seconds
  obtain rfl : part = part' := Fin.ext nanos
  rfl

theorem isLeap_iff : t.isLeap = true ↔ 1000000000 ≤ t.nanos := decide_eq_true_iff

/-- Only the last second of a minute is prolonged. -/
theorem last_of_isLeap (leap : t.isLeap = true) : t.seconds % 60 = 59 := by
  have within := nanos_lt t
  have long := isLeap_iff.mp leap
  unfold span at within
  split at within
  next last => exact last
  · omega

@[simp] theorem seconds_truncated (t : Instant) : t.truncated.seconds = t.seconds := rfl

theorem nanos_truncated (t : Instant) : t.truncated.nanos = if t.isLeap then 1000000000 else 0 := by
  by_cases leap : t.isLeap = true
  · have last := last_of_isLeap leap
    have within : 1000000000 < span t.seconds := by
      rw [span, if_pos last]
      decide
    rw [truncated, if_pos leap]
    exact nanos_of within
  · rw [truncated, if_neg leap]
    exact nanos_of_small (by decide)

theorem nanos_truncated_le (t : Instant) :
    t.truncated.nanos ≤ t.nanos ∧ t.nanos < t.truncated.nanos + 1000000000 := by
  have within := nanos_lt t
  have widest := span_le t.seconds
  rw [nanos_truncated]
  by_cases leap : t.isLeap = true
  · have long := isLeap_iff.mp leap
    rw [if_pos leap]
    omega
  · have short := mt isLeap_iff.mpr leap
    rw [if_neg leap]
    omega

@[simp] theorem isLeap_truncated (t : Instant) : t.truncated.isLeap = t.isLeap := by
  rw [Bool.eq_iff_iff, isLeap_iff, nanos_truncated]
  split <;> simp_all

theorem since_truncated (t : Instant) : t.since t.truncated = t.nanos - t.truncated.nanos := by
  simp [since]

/-- Two instants lie in the same second if both lie in a leap second or none does. -/
theorem truncated_eq_iff : t.truncated = t'.truncated ↔ t.seconds = t'.seconds ∧ t.isLeap = t'.isLeap := by
  constructor
  · intro same
    have seconds := congrArg Instant.seconds same
    rw [seconds_truncated, seconds_truncated] at seconds
    have leaps := congrArg isLeap same
    rw [isLeap_truncated, isLeap_truncated] at leaps
    exact ⟨seconds, leaps⟩
  · rintro ⟨seconds, leaps⟩
    refine Instant.ext seconds ?_
    rw [nanos_truncated, nanos_truncated, leaps]

theorem seconds_plus (t : Instant) (n : Int) :
    (t.plus n).seconds = t.seconds + n + if t.isLeap ∧ n < 0 then 1 else 0 := by
  by_cases leap : t.isLeap = true
  · by_cases still : n = 0
    · simp [plus, still]
    · simp [plus, leap, still]
  · simp [plus, leap]

theorem seconds_plus_of_nonneg (t : Instant) {n : Int} (forward : 0 ≤ n) : (t.plus n).seconds = t.seconds + n := by
  rw [seconds_plus, if_neg (by omega), Int.add_zero]

theorem le_seconds_plus (t : Instant) (n : Int) : t.seconds + n ≤ (t.plus n).seconds := by
  rw [seconds_plus]
  split <;> omega

end Instant

end Countersign
