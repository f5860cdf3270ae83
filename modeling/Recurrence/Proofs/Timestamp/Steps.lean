import Recurrence.Proofs.Calendar.Step
import Recurrence.Proofs.Timestamp.Tokens
import Recurrence.Timestamp.Read

/-! # Reading dates and times

The tokens of a date are read into its year, month and day, with the year known
(`readToken_year`, `readToken_basicDate`); those of a time behind it into hour, minute
and second (`readToken_hour`, `readToken_basicTime`); and those of an offset into its
seconds (`readToken_sign`).  Each lemma is about one token, with the further tokens that
it uses up; the numbers may be any numerals of the right width.
-/
namespace Recurrence.Timestamp
open Text
variable {today : Date} {s : Text} {width n : Nat}

/-! ## Numerals as tokens -/

/-- A numeral is none of the words of a list without digits. -/
theorem wordIndex?_of_isNumeral {lists : List (List String)}
    (hlists : ∀ words ∈ lists, ∀ w ∈ words, w.toList.all (!·.isDigit) = true)
    (h : IsNumeral width n s) : wordIndex? lists s = none := by
  have hlower : lower s = s := by
    refine (List.map_congr_left fun c hc => ?_).trans (List.map_id s)
    exact forall_isDigit (fun c => c.toLower = c) (by decide) (h.isDigit c hc)
  obtain ⟨c, hc⟩ := List.exists_mem_of_ne_nil s h.ne_nil
  rw [wordIndex?, hlower, List.findIdx?_eq_none_iff]
  intro words hwords
  rw [List.any_eq_false]
  intro w hw heq
  have hword : s = w.toList := (beq_iff_eq.mp heq).symm
  have hplain := List.all_eq_true.mp (hlists words hwords w hw) c (hword ▸ hc)
  rw [h.isDigit c hc] at hplain
  exact Bool.false_ne_true hplain

theorem wholeNumber?_of_isNumeral (h : IsNumeral width n s) (hlimit : width ≤ digitLimit) :
    wholeNumber? s = some n := by
  rw [wholeNumber?, h.length_eq, if_neg (Nat.not_lt.mpr hlimit), h.readDigits?_eq]

theorem cutAt_point_of_isNumeral (h : IsNumeral width n s) : cutAt '.' s = none := by
  rcases hcut : cutAt '.' s with _ | ⟨before, after⟩
  · rfl
  · obtain ⟨-, rfl⟩ := cutAt_eq_some.mp hcut
    exact absurd (by simp) (h.not_mem (c := '.') rfl)

theorem ofToken?_of_isNumeral (h : IsNumeral width n s) :
    Numeral.ofToken? s = some ⟨n, []⟩ := by
  rw [Numeral.ofToken?, cutAt_point_of_isNumeral h, h.readDigits?_eq]
  rfl

theorem isFiller_of_isNumeral (h : IsNumeral width n s) :
    isFiller s = false := by
  rw [isFiller, wordIndex?_of_isNumeral (by decide) h]
  rfl

theorem month?_of_isNumeral (h : IsNumeral width n s) : month? s = none := by
  rw [month?, wordIndex?_of_isNumeral (by decide) h]
  rfl

theorem all_isDigit_of_isNumeral (h : IsNumeral width n s) : s.all Text.isDigit = true :=
  List.all_eq_true.mpr fun c hc => isDigit_of_isDigit (h.isDigit c hc)

theorem readToken_of_isNumeral (h : IsNumeral width n s)
    (before after : List Text) (p : Parts) :
    readToken today before s after p = readNumber before s ⟨n, []⟩ after p := by
  rw [readToken, ofToken?_of_isNumeral h]

/-- Two digits are a number of the date, of unknown meaning. -/
theorem pushText?_of_isNumeral_two (h : IsNumeral 2 n s) (numbers : DateNumbers) :
    numbers.pushText? s = some (numbers.push n) := by
  rw [DateNumbers.pushText?, wholeNumber?_of_isNumeral h (by decide)]
  simp [h.length_eq]

theorem pushMonthOrText?_of_isNumeral_two (h : IsNumeral 2 n s) (numbers : DateNumbers) :
    pushMonthOrText? numbers s = some (numbers.push n) := by
  rw [pushMonthOrText?, month?_of_isNumeral h, pushText?_of_isNumeral_two h]

/-- Four digits are the year. -/
theorem pushText?_of_isNumeral_four (h : IsNumeral 4 n s) (numbers : DateNumbers) :
    numbers.pushText? s = numbers.pushYear? n := by
  rw [DateNumbers.pushText?, wholeNumber?_of_isNumeral h (by decide)]
  simp [h.length_eq]

/-- Seconds without a fraction. -/
theorem withSeconds?_of_isNumeral (h : IsNumeral 2 n s) (p : Parts) :
    p.withSeconds? s = some { p with second := some n, microsecond := some 0 } := by
  rw [Parts.withSeconds?, cutAt_point_of_isNumeral h,
    wholeNumber?_of_isNumeral h (by decide)]
  rfl

/-- Three texts come back from their widths. -/
theorem cuts_append {a b : Text} {m k : Nat} (ha : a.length = m) (hb : b.length = k) (c : Text) :
    (a ++ b ++ c).take m = a ∧ ((a ++ b ++ c).drop m).take k = b ∧
      (a ++ b ++ c).drop (m + k) = c := by
  refine ⟨?_, ?_, List.drop_left' (by rw [List.length_append, ha, hb])⟩
  · rw [List.append_assoc, List.take_left' ha]
  · rw [List.append_assoc, List.drop_left' ha, List.take_left' hb]

/-! ## Dates -/

/-- The parts when a date has been read: year, month and day, the year being known. -/
def dateParts (d : Date) : Parts :=
  Parts.empty.withNumbers ⟨[d.year, d.month, d.day], some 0, none⟩

theorem date?_of_numbers {p : Parts} {d : Date} (h : p.numbers = (dateParts d).numbers) :
    p.date? today = some d := by
  have hcivil : Date.ofCivil? d.year d.month d.day = some d :=
    Date.ofCivil?_eq_some.mpr ⟨rfl, rfl, rfl⟩
  simp [Parts.date?, h, dateParts, Parts.withNumbers, DateNumbers.resolve?, Parts.yearOf, hcivil]

section
variable {d : Date} {year month day : Text} (hyear : IsNumeral 4 d.year year)
  (hmonth : IsNumeral 2 d.month month) (hday : IsNumeral 2 d.day day)
include hyear hmonth hday

theorem readSeparated_year (rest : List Text) :
    readSeparated year (['-'] :: month :: ['-'] :: day :: rest) .empty =
      some (4, dateParts d) := by
  have hfirst : Parts.empty.numbers.pushText? year = some ⟨[d.year], some 0, none⟩ :=
    pushText?_of_isNumeral_four hyear _
  simp only [readSeparated, hfirst, isFiller_of_isNumeral hmonth, all_isDigit_of_isNumeral hmonth,
    pushText?_of_isNumeral_two hmonth]
  simp [pushMonthOrText?_of_isNumeral_two hday, DateNumbers.push, dateParts]

/-- A year of four digits leads the rest of its date. -/
theorem readToken_year (rest : List Text) :
    readToken today [] year (['-'] :: month :: ['-'] :: day :: rest) .empty =
      some (4, dateParts d) := by
  have hpart : part? ['-'] = none := by rfl
  have hempty : isBareTime year (['-'] :: month :: ['-'] :: day :: rest) .empty = false := rfl
  rw [readToken_of_isNumeral hyear, ← readSeparated_year hyear hmonth hday rest]
  simp [readNumber, hempty, hyear.length_eq, partOfNumber?, hpart, isDateSeparator]

theorem readLongDigits_date :
    readLongDigits (year ++ month ++ day) .empty = some (0, dateParts d) := by
  obtain ⟨htake, hmiddle, hdrop⟩ := cuts_append hyear.length_eq hmonth.length_eq day
  have hlast : day.take 2 = day := List.take_of_length_le (Nat.le_of_eq hday.length_eq)
  have hnumbers : Parts.empty.numbers.pushYear? d.year = some ⟨[d.year], some 0, none⟩ := rfl
  simp only [readLongDigits, htake, hmiddle, hdrop, hlast,
    wholeNumber?_of_isNumeral hyear (by decide), pushText?_of_isNumeral_two hmonth,
    pushText?_of_isNumeral_two hday, Option.bind_eq_bind, Option.bind_some, hnumbers]
  simp [hyear.length_eq, hmonth.length_eq, hday.length_eq, DateNumbers.push, dateParts]

/-- Eight digits are a date. -/
theorem readToken_basicDate (after : List Text) :
    readToken today [] (year ++ month ++ day) after .empty = some (0, dateParts d) := by
  obtain ⟨_, hfirst⟩ := hyear.append hmonth
  obtain ⟨_, hwhole⟩ := hfirst.append hday
  have hpoint : (year ++ month ++ day).idxOf '.' = 8 := by
    rw [List.idxOf_eq_length (hwhole.not_mem rfl), hwhole.length_eq]
  have hbare : isBareTime (year ++ month ++ day) after .empty = false := rfl
  rw [readToken_of_isNumeral hwhole, ← readLongDigits_date hyear hmonth hday]
  simp only [readNumber, hbare, hwhole.length_eq, hpoint]
  rfl

end

/-! ## Times -/

/-- The parts when a time has been read behind a date. -/
def timeParts (d : Date) (hour minute second : Nat) : Parts :=
  { dateParts d with
    hour := some hour, minute := some minute, second := some second, microsecond := some 0 }

/-- The letter between a date and a time is skipped. -/
theorem readToken_letter (before after : List Text) (d : Date) :
    readToken today before ['T'] after (dateParts d) = some (0, dateParts d) := by
  rfl

section
variable (d : Date) {hour minute second : Text} {h m k : Nat} (hhour : IsNumeral 2 h hour)
  (hminute : IsNumeral 2 m minute) (hsecond : IsNumeral 2 k second)
include hhour hminute hsecond

theorem readSixDigits_time :
    readSixDigits (hour ++ minute ++ second) (dateParts d) = some (0, timeParts d h m k) := by
  obtain ⟨htake, hmiddle, hdrop⟩ := cuts_append hhour.length_eq hminute.length_eq second
  have hnumbers : (dateParts d).numbers.values.isEmpty = false := rfl
  simp only [readSixDigits, hnumbers, htake, hmiddle, hdrop,
    wholeNumber?_of_isNumeral hhour (by decide),
    wholeNumber?_of_isNumeral hminute (by decide),
    withSeconds?_of_isNumeral hsecond, Option.bind_eq_bind, Option.bind_some]
  rfl

/-- Six digits behind a date are a time. -/
theorem readToken_basicTime (before after : List Text) :
    readToken today before (hour ++ minute ++ second) after (dateParts d) =
      some (0, timeParts d h m k) := by
  obtain ⟨_, hfirst⟩ := hhour.append hminute
  obtain ⟨_, hwhole⟩ := hfirst.append hsecond
  have hbare : isBareTime (hour ++ minute ++ second) after (dateParts d) = false := by
    simp only [isBareTime, hwhole.length_eq]
    rfl
  rw [readToken_of_isNumeral hwhole, ← readSixDigits_time d hhour hminute hsecond]
  simp only [readNumber, hbare, hwhole.length_eq]
  rfl

omit hhour in
theorem readClockTime_time (after : List Text) :
    readClockTime ⟨h, []⟩ ([':'] :: minute :: [':'] :: second :: after) (dateParts d) =
      some (4, timeParts d h m k) := by
  have hafter : (([':'] :: minute :: [':'] :: second :: after)[1]?.bind Numeral.ofToken?) =
      some ⟨m, []⟩ := ofToken?_of_isNumeral hminute
  rw [readClockTime, hafter]
  simp only [Option.bind_eq_bind, Option.bind_some, List.drop_succ_cons, List.drop_zero,
    withSeconds?_of_isNumeral hsecond]
  rfl

/-- An hour leads the rest of its time. -/
theorem readToken_hour (before after : List Text) :
    readToken today (['T'] :: before) hour ([':'] :: minute :: [':'] :: second :: after)
        (dateParts d) =
      some (4, timeParts d h m k) := by
  have hcolon : part? [':'] = none := by rfl
  have hletter : part? ['T'] = none := by rfl
  have hbare : isBareTime hour ([':'] :: minute :: [':'] :: second :: after) (dateParts d) =
      false := by
    simp [isBareTime]
  rw [readToken_of_isNumeral hhour, ← readClockTime_time d hminute hsecond after]
  simp [readNumber, hbare, hhour.length_eq, partOfNumber?, hcolon, hletter]

end

/-! ## Offsets -/

/-- The letter of universal time is kept as the name of its zone. -/
theorem readToken_universal (before : List Text) (d : Date) (h m k : Nat) :
    readToken today before ['Z'] [] (timeParts d h m k) =
      some (0, { timeParts d h m k with zoneName := some ['Z'] }) := by
  rfl

/-- An offset in hours and minutes, with its sign. -/
structure ClockOffset where
  /-- The sign is a minus. -/
  isNegative : Bool
  /-- The hours. -/
  hours : Fin 100
  /-- The minutes. -/
  minutes : Fin 100

namespace ClockOffset

/-- The sign of an offset. -/
def sign (o : ClockOffset) : Char :=
  if o.isNegative then '-' else '+'

/-- The seconds of an offset. -/
def seconds (o : ClockOffset) : Int :=
  let seconds : Int := 3600 * o.hours.val + 60 * o.minutes.val
  if o.isNegative then -seconds else seconds

/-- `+HH:MM` or `-HH:MM`. -/
def text (o : ClockOffset) : Text :=
  o.sign :: (padded 2 o.hours ++ ':' :: padded 2 o.minutes)

end ClockOffset

theorem readToken_sign (o : ClockOffset) {hours minutes : Text}
    (hhours : IsNumeral 2 o.hours hours) (hminutes : IsNumeral 2 o.minutes minutes)
    (before : List Text) (d : Date) (h m k : Nat) :
    readToken today before [o.sign] [hours, [':'], minutes] (timeParts d h m k) =
      some (3, { timeParts d h m k with offset := some o.seconds }) := by
  have hoffset : readOffset? [hours, [':'], minutes] = some (o.hours.val, o.minutes.val, 3) := by
    have hhour := wholeNumber?_of_isNumeral hhours (by decide)
    have hminute := wholeNumber?_of_isNumeral hminutes (by decide)
    simp [readOffset?, hhours.length_eq, hhour, hminute]
  have hsigned : readToken today before [o.sign] [hours, [':'], minutes] (timeParts d h m k) =
      readSigned [o.sign] [hours, [':'], minutes] (timeParts d h m k) := by
    unfold ClockOffset.sign
    cases o.isNegative <;> rfl
  rw [hsigned, readSigned, hoffset]
  unfold ClockOffset.sign ClockOffset.seconds
  cases o.isNegative <;> rfl

end Recurrence.Timestamp
