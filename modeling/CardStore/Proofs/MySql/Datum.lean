/-
  CardStore.Proofs.MySql.Datum
  ────────────────────────────
  **PARAMETERS THAT COME BACK.**

  A value that is sent as a parameter and received again is what it was, as
  long as it has a form of its own on the wire.  Dates and times share one
  form, so that a midnight cannot be told from the day that it begins; years
  are words of sixteen bits.

  Main statements:
    * `toValue_ofDateParts` — no part of a date or a time is cut.
    * `toValue_ofValue` — the round trip, and which values it changes.
    * `toValue_ofValue_date_iff` — the dates that come back.
-/
import CardStore.MySql.Datum
import CardStore.Proofs.Text

namespace CardStore.MySql.Datum

/-! ## §1. Dates and times. -/

/-- Midnight. -/
def IsMidnight (t : TimeOfDay) : Prop := t.hour = 0 ∧ t.minute = 0 ∧ t.second = 0 ∧ t.nanos = 0

instance (t : TimeOfDay) : Decidable (IsMidnight t) := inferInstanceAs (Decidable (_ ∧ _))

theorem toValue_ofDateParts {d : Date} {hour minute second micros : Nat}
    (hyear : 0 ≤ d.year ∧ d.year < 2 ^ 16) (hhour : hour < 24) (hminute : minute < 60)
    (hsecond : second < 60) (hmicros : micros < 2 ^ 32) :
    toValue (ofDateParts d hour minute second micros)
      = dateValue d.year.toNat d.month d.day hour minute second micros := by
  have hdate := d.isDate
  unfold isDate daysInMonth at hdate
  simp only [Bool.and_eq_true, decide_eq_true_eq] at hdate
  have hday : d.day < 256 := by
    have := hdate.2
    split at this
    · split at this <;> omega
    · split at this <;> omega
  unfold ofDateParts
  simp only [toValue, UInt8.toNat_ofNat', UInt16.toNat_ofNat', UInt32.toNat_ofNat']
  congr 1 <;> omega

/-! ## §2. The way there and back. -/

/-- The day of midnight, and any other value as it is. -/
def throughWire : Value → Value
  | .dateTime t => if IsMidnight t.time then .date t.date else .dateTime t
  | v => v

/-- Values with a form of their own on the wire, times in whole microseconds. -/
def HasForm : Value → Prop
  | .null | .int _ | .string _ | .date _ => True
  | .float x => x.isNaN = false
  | .dateTime t => t.time.nanos < 10 ^ 9 ∧ t.time.nanos % 1000 = 0
  | _ => False

/-- Whether the year of a value fits into the sixteen bits of the wire. -/
def YearFits : Value → Prop
  | .date d => 0 ≤ d.year ∧ d.year < 2 ^ 16
  | .dateTime t => 0 ≤ t.date.year ∧ t.date.year < 2 ^ 16
  | _ => True

theorem ofParts?_toNat {d : Date} (hyear : 0 ≤ d.year) :
    Date.ofParts? d.year.toNat d.month d.day = some d := by
  rw [Int.toNat_of_nonneg hyear]
  exact d.ofParts?_parts

theorem toValue_ofValue_date {d : Date} (hyear : 0 ≤ d.year ∧ d.year < 2 ^ 16) :
    toValue (ofValue (.date d)) = .date d := by
  rw [ofValue, toValue_ofDateParts hyear (by decide) (by decide) (by decide) (by decide),
    dateValue, ofParts?_toNat hyear.1]
  rfl

/-- A received date has the year that it was sent with. -/
theorem year_of_dateValue {year month day hour minute second micros : Nat} {d : Date}
    (h : dateValue year month day hour minute second micros = .date d) : d.year = year := by
  unfold dateValue at h
  split at h
  next => cases h
  next d' hd' =>
    have hyear : d'.year = year := by
      unfold Date.ofParts? at hd'
      split at hd'
      next => rw [← Option.some.inj hd']
      next => cases hd'
    split at h
    next =>
      cases h
      exact hyear
    next => split at h <;> cases h

/-- Beyond the years that fit, a date comes back as another one or as none. -/
theorem toValue_ofValue_date_iff {d : Date} :
    toValue (ofValue (.date d)) = .date d ↔ 0 ≤ d.year ∧ d.year < 2 ^ 16 := by
  refine ⟨fun h => ?_, toValue_ofValue_date⟩
  have hyear := year_of_dateValue h
  have hlt := (UInt16.ofNat (d.year % 2 ^ 16).toNat).toNat_lt
  omega

theorem toValue_ofValue_dateTime {t : DateTime} (hyear : 0 ≤ t.date.year ∧ t.date.year < 2 ^ 16)
    (hnanos : t.time.nanos < 10 ^ 9 ∧ t.time.nanos % 1000 = 0) :
    toValue (ofValue (.dateTime t)) = throughWire (.dateTime t) := by
  have htime := t.time.isTime
  unfold isTimeOfDay at htime
  simp only [Bool.and_eq_true, decide_eq_true_eq] at htime
  have hback : t.time.nanos / 1000 * 1000 = t.time.nanos := by omega
  rw [ofValue, toValue_ofDateParts hyear (by omega) (by omega) (by omega) (by omega), dateValue,
    ofParts?_toNat hyear.1, hback, t.time.ofParts?_parts, throughWire]
  have hmidnight : (t.time.hour = 0 ∧ t.time.minute = 0 ∧ t.time.second = 0
      ∧ t.time.nanos / 1000 = 0) ↔ IsMidnight t.time := by
    unfold IsMidnight
    omega
  simp only [hmidnight]

/-- **Parameters come back** as they were sent, but for a midnight, which comes back as its day. -/
theorem toValue_ofValue {v : Value} (hform : HasForm v) (hyear : YearFits v) :
    toValue (ofValue v) = throughWire v
    ∧ (toValue (ofValue v) = v ↔ ∀ t, v = .dateTime t → ¬ IsMidnight t.time) := by
  have hwire : toValue (ofValue v) = throughWire v := by
    cases v with
    | null | int | float => rfl
    | string s =>
      show toValue (ofText s) = .string s
      rw [ofText, toValue, Text.Utf8.text?_encode]
    | date d => exact toValue_ofValue_date hyear
    | dateTime t => exact toValue_ofValue_dateTime hyear hform
    | _ => exact hform.elim
  refine ⟨hwire, ?_⟩
  rw [hwire]
  cases v with
  | dateTime t =>
    rw [throughWire]
    split
    next hmidnight =>
      exact ⟨fun h => (by cases h), fun h => absurd hmidnight (h t rfl)⟩
    next hother =>
      refine ⟨fun _ u hu => ?_, fun _ => rfl⟩
      cases hu
      exact hother
  | _ => exact ⟨fun _ t ht => (by cases ht), fun _ => rfl⟩

/-- A midnight is told as its day, and any other time as it was sent. -/
theorem toValue_ofValue_march :
    toValue (ofValue (.dateTime ⟨⟨2024, 3, 9, rfl⟩, ⟨10, 20, 30, 0, rfl⟩⟩))
      = .dateTime ⟨⟨2024, 3, 9, rfl⟩, ⟨10, 20, 30, 0, rfl⟩⟩
    ∧ toValue (ofValue (.dateTime ⟨⟨2024, 3, 9, rfl⟩, ⟨0, 0, 0, 0, rfl⟩⟩))
      = .date ⟨2024, 3, 9, rfl⟩ := by
  constructor
  · refine (toValue_ofValue (v := .dateTime ⟨⟨2024, 3, 9, rfl⟩, ⟨10, 20, 30, 0, rfl⟩⟩)
      ⟨by decide, rfl⟩ ⟨by decide, by decide⟩).2.2 fun t ht => ?_
    cases ht
    decide
  · exact (toValue_ofValue (v := .dateTime ⟨⟨2024, 3, 9, rfl⟩, ⟨0, 0, 0, 0, rfl⟩⟩) ⟨by decide, rfl⟩
      ⟨by decide, by decide⟩).1

/-- **Not every value comes back**: a midnight does not, nor does a year of more than 16 bits. -/
theorem not_toValue_ofValue :
    toValue (ofValue (.dateTime ⟨⟨2024, 1, 2, rfl⟩, ⟨0, 0, 0, 0, rfl⟩⟩))
      ≠ .dateTime ⟨⟨2024, 1, 2, rfl⟩, ⟨0, 0, 0, 0, rfl⟩⟩
    ∧ toValue (ofValue (.date ⟨70000, 1, 2, rfl⟩)) ≠ .date ⟨70000, 1, 2, rfl⟩ := by
  constructor
  · intro h
    cases h
  · rw [Ne, toValue_ofValue_date_iff]
    decide

end CardStore.MySql.Datum
