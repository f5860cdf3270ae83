import Recurrence.Proofs.Timestamp.Steps

/-! # Spelled days

A `Spelling` is a way to write a day, on its own or with a time of the day.  What is
written so is cut into the tokens that it was put together from (`Spelling.tokens_text`)
and is read as the day, the time and the offset that were written (`Spelling.read?_text`).
-/
namespace Recurrence
open Text

theorem Date.toText_eq (d : Date) :
    d.toText = padded 4 d.year ++ '-' :: (padded 2 d.month ++ '-' :: padded 2 d.day) := by
  simp [toText]

namespace Timestamp
variable {today : Date}

/-- An offset of two digits for the hours is far from the limit. -/
theorem ClockOffset.natAbs_days_le (o : ClockOffset) :
    (o.seconds.fdiv 86400).natAbs ≤ Parts.offsetDayLimit.toNat := by
  have hlimit : Parts.offsetDayLimit.toNat = 999999999 := rfl
  rw [Int.fdiv_eq_ediv_of_nonneg _ (by decide), hlimit]
  unfold seconds
  dsimp only
  split <;> omega

/-! ## Spelled days -/

/-- The ways to spell a day, perhaps with a time of the day: without separators, or with them. -/
inductive Spelling
  /-- `YYYYMMDD`. -/
  | basicDate
  /-- `YYYYMMDDTHHMMSS`, with `Z` behind it if the time is universal. -/
  | basicTime (hour : Fin 24) (minute second : Fin 60) (universal : Bool)
  /-- `YYYY-MM-DD`. -/
  | date
  /-- `YYYY-MM-DDTHH:MM:SS`, perhaps with an offset behind it. -/
  | dateTime (hour : Fin 24) (minute second : Fin 60) (offset : Option ClockOffset)

namespace Spelling

/-- The text that spells a day. -/
def text (d : Date) : Spelling → Text
  | basicDate => padded 4 d.year ++ padded 2 d.month ++ padded 2 d.day
  | basicTime hour minute second universal =>
    padded 4 d.year ++ padded 2 d.month ++ padded 2 d.day ++
      'T' :: (padded 2 hour ++ padded 2 minute ++ padded 2 second ++
        if universal then ['Z'] else [])
  | date => d.toText
  | dateTime hour minute second offset =>
    d.toText ++ 'T' :: (padded 2 hour ++ ':' :: (padded 2 minute ++ ':' :: (padded 2 second ++
      (offset.map ClockOffset.text).getD [])))

/-- The time of the day that is spelled; midnight if there is none. -/
def time : Spelling → TimeOfDay
  | basicDate | date => .midnight
  | basicTime hour minute second _ | dateTime hour minute second _ =>
    { TimeOfDay.midnight with hour, minute, second }

/-- The offset that is spelled. -/
def offset : Spelling → Option UtcOffset
  | basicDate | date => none
  | basicTime _ _ _ universal => if universal then some .zero else none
  | dateTime _ _ _ offset => offset.map fun o => ⟨o.seconds⟩

/-- The tokens of a spelled day. -/
def tokens (d : Date) : Spelling → List Text
  | basicDate => [padded 4 d.year ++ padded 2 d.month ++ padded 2 d.day]
  | basicTime hour minute second universal =>
    [padded 4 d.year ++ padded 2 d.month ++ padded 2 d.day, ['T'],
      padded 2 hour ++ padded 2 minute ++ padded 2 second] ++ if universal then [['Z']] else []
  | date => [padded 4 d.year, ['-'], padded 2 d.month, ['-'], padded 2 d.day]
  | dateTime hour minute second offset =>
    [padded 4 d.year, ['-'], padded 2 d.month, ['-'], padded 2 d.day, ['T'],
      padded 2 hour, [':'], padded 2 minute, [':'], padded 2 second] ++
      match offset with
      | some o => [[o.sign], padded 2 o.hours, [':'], padded 2 o.minutes]
      | none => []

/-- The parts that a spelled day is read into. -/
def parts (d : Date) : Spelling → Parts
  | basicDate | date => dateParts d
  | basicTime hour minute second universal =>
    { timeParts d hour minute second with zoneName := if universal then some ['Z'] else none }
  | dateTime hour minute second offset =>
    { timeParts d hour minute second with offset := offset.map ClockOffset.seconds }

/-! ### Characters -/

/-- The marks of spelled days, beside digits. -/
def marks : Text := ['-', ':', '+', 'T', 'Z']

theorem isDigit_or_mem_marks (f : Spelling) (d : Date) :
    ∀ c ∈ f.text d, c.isDigit = true ∨ c ∈ marks := by
  intro c hc
  have hdigit : ∀ {w n}, c ∈ padded w n → c.isDigit = true := isDigit_of_mem_padded
  cases f with
  | basicDate | date =>
    simp only [text, Date.toText, List.mem_append, List.mem_singleton] at hc
    grind [marks]
  | basicTime hour minute second universal =>
    simp only [text, List.mem_append, List.mem_cons] at hc
    cases universal <;> grind [marks]
  | dateTime hour minute second offset =>
    simp only [text, Date.toText, List.mem_append, List.mem_cons] at hc
    rcases offset with _ | ⟨isNegative, hours, minutes⟩
    · grind [marks]
    · cases isNegative <;> simp [ClockOffset.text, ClockOffset.sign] at hc <;> grind [marks]

theorem tokens_strip (f : Spelling) (d : Date) :
    Timestamp.tokens (strip (f.text d)) = tokensFrom none (f.text d) := by
  -- No character is a blank, which would be stripped, or a null, which would be left out.
  have hplain : ∀ c ∈ f.text d, isBlank c = false ∧ c.toNat ≠ 0 := by
    intro c hc
    rcases f.isDigit_or_mem_marks d c hc with h | h
    · exact ⟨isBlank_of_isDigit h, forall_isDigit (·.toNat ≠ 0) (by decide) h⟩
    · have hmarks : marks.all (fun c => !isBlank c && c.toNat != 0) = true := by decide
      simpa using List.all_eq_true.mp hmarks c h
  have htrimmed : IsTrimmed (f.text d) :=
    ⟨fun h => (hplain _ (List.head_mem h)).1, fun h => (hplain _ (List.getLast_mem h)).1⟩
  rw [Timestamp.tokens, htrimmed.strip_eq, List.filter_eq_self.mpr]
  intro c hc
  simpa using (hplain c hc).2

/-! ### Tokens -/

theorem isNumeral_year (d : Date) : IsNumeral 4 d.year (padded 4 d.year) :=
  isNumeral_padded (by decide) (Nat.lt_succ_of_le d.year_le)

theorem isNumeral_month (d : Date) : IsNumeral 2 d.month (padded 2 d.month) :=
  isNumeral_padded (by decide) (Nat.lt_of_le_of_lt d.month_le (by decide))

theorem isNumeral_day (d : Date) : IsNumeral 2 d.day (padded 2 d.day) := by
  have hmonth := daysInMonth_bounds d.year d.one_le_month d.month_le
  have hday : d.day ≤ 31 := Nat.le_trans d.day_le hmonth.2
  exact isNumeral_padded (by decide) (Nat.lt_of_le_of_lt hday (by decide))

/-- A number of two digits, bounded by its type. -/
theorem isNumeral_fin {bound : Nat} (h : bound ≤ 100) (n : Fin bound) :
    IsNumeral 2 n (padded 2 n) :=
  isNumeral_padded (by decide) (Nat.lt_of_lt_of_le n.isLt h)

section
variable {s t : Text} {width width' n n' : Nat} (hs : IsNumeral width n s)
include hs

theorem tokensFrom_last : tokensFrom none s = [s] := by
  have h : tokensFrom none (s ++ []) = [s] := tokensFrom_numeral hs (by simp)
  rwa [List.append_nil] at h

/-- A sign or colon ends a numeral and is a token of its own. -/
theorem tokensFrom_sign {c : Char} (hc : c ∈ ['-', ':', '+']) (rest : Text) :
    tokensFrom none (s ++ c :: rest) = s :: [c] :: tokensFrom none rest := by
  have hmark : isLetter c = false ∧ isDigit c = false ∧ isBlank c = false ∧
      Piece.isMark c = false := by
    simp only [List.mem_cons, List.not_mem_nil, or_false] at hc
    rcases hc with rfl | rfl | rfl <;> decide
  obtain ⟨hletter, hdigit, hblank, hpoint⟩ := hmark
  rw [tokensFrom_numeral hs, tokensFrom_lone hletter hdigit hblank]
  rintro _ ⟨⟩
  exact ⟨hdigit, hpoint⟩

/-- A letter between numerals is a token of its own. -/
theorem tokensFrom_time (ht : IsNumeral width' n' t) (rest : Text) :
    tokensFrom none (s ++ 'T' :: (t ++ rest)) = s :: ['T'] :: tokensFrom none (t ++ rest) := by
  obtain ⟨c, t, rfl⟩ := List.exists_cons_of_ne_nil ht.ne_nil
  have hc := ht.isDigit c List.mem_cons_self
  rw [tokensFrom_numeral hs, tokensFrom_letter (by decide)]
  · rintro _ ⟨⟩
    exact ⟨isLetter_of_isDigit hc, forall_isDigit (Piece.isMark · = false) (by decide) hc⟩
  · rintro _ ⟨⟩
    decide

end

theorem tokens_text (f : Spelling) (d : Date) :
    Timestamp.tokens (strip (f.text d)) = f.tokens d := by
  have hyear := isNumeral_year d
  have hmonth := isNumeral_month d
  have hday := isNumeral_day d
  obtain ⟨_, hstart⟩ := hyear.append hmonth
  obtain ⟨_, hdate⟩ := hstart.append hday
  rw [tokens_strip]
  cases f with
  | basicDate => exact tokensFrom_last hdate
  | basicTime hour minute second universal =>
    obtain ⟨_, hhour⟩ := (isNumeral_fin (by decide) hour).append (isNumeral_fin (by decide) minute)
    obtain ⟨_, htime⟩ := hhour.append (isNumeral_fin (by decide) second)
    rw [text, tokensFrom_time hdate htime, tokens]
    cases universal with
    | false =>
      rw [if_neg Bool.false_ne_true, List.append_nil, tokensFrom_last htime]
      rfl
    | true =>
      rw [if_pos rfl, tokensFrom_numeral htime, tokensFrom_letter (by decide) (by simp)]
      · rfl
      · rintro _ ⟨⟩
        decide
  | date =>
    rw [text, Date.toText_eq, tokensFrom_sign hyear (by decide), tokensFrom_sign hmonth (by decide),
      tokensFrom_last hday, tokens]
  | dateTime hour minute second offset =>
    have hhour := isNumeral_fin (by decide) hour
    have hminute := isNumeral_fin (by decide) minute
    have hsecond := isNumeral_fin (by decide) second
    simp only [text, Date.toText_eq, List.append_assoc, List.cons_append]
    rw [tokensFrom_sign hyear (by decide), tokensFrom_sign hmonth (by decide),
      tokensFrom_time hday hhour, tokensFrom_sign hhour (by decide),
      tokensFrom_sign hminute (by decide)]
    cases offset with
    | none =>
      rw [Option.map_none, Option.getD_none, List.append_nil, tokensFrom_last hsecond]
      rfl
    | some o =>
      have hsign : o.sign ∈ ['-', ':', '+'] := by
        unfold ClockOffset.sign
        cases o.isNegative <;> decide
      have hhours := isNumeral_fin (Nat.le_refl 100) o.hours
      have hminutes := isNumeral_fin (Nat.le_refl 100) o.minutes
      rw [Option.map_some, Option.getD_some, ClockOffset.text, tokensFrom_sign hsecond hsign,
        tokensFrom_sign hhours (by decide), tokensFrom_last hminutes]
      rfl

/-! ### Reading -/

theorem readTokens_of_readToken {before after : List Text} {token : Text} {p q : Parts} {used : Nat}
    (h : readToken today before token after p = some (used, q)) :
    readTokens today 0 before (token :: after) p =
      readTokens today used (token :: before) after q := by
  rw [readTokens, h]

theorem readTokens_skip (skip : Nat) (before after : List Text) (token : Text) (p : Parts) :
    readTokens today (skip + 1) before (token :: after) p =
      readTokens today skip (token :: before) after p :=
  rfl

theorem readTokens_tokens (f : Spelling) (d : Date) :
    readTokens today 0 [] (f.tokens d) .empty = some (f.parts d) := by
  have hyear := isNumeral_year d
  have hmonth := isNumeral_month d
  have hday := isNumeral_day d
  cases f with
  | basicDate =>
    rw [tokens, readTokens_of_readToken (readToken_basicDate hyear hmonth hday _)]
    rfl
  | basicTime hour minute second universal =>
    have hhour := isNumeral_fin (by decide) hour
    have hminute := isNumeral_fin (by decide) minute
    have hsecond := isNumeral_fin (by decide) second
    simp only [tokens, List.cons_append]
    rw [readTokens_of_readToken (readToken_basicDate hyear hmonth hday _),
      readTokens_of_readToken (readToken_letter _ _ d),
      readTokens_of_readToken (readToken_basicTime d hhour hminute hsecond _ _)]
    cases universal with
    | false => rfl
    | true =>
      show readTokens today 0 _ [['Z']] _ = _
      rw [readTokens_of_readToken (readToken_universal _ d hour minute second)]
      rfl
  | date =>
    rw [tokens, readTokens_of_readToken (readToken_year hyear hmonth hday _)]
    rfl
  | dateTime hour minute second offset =>
    have hhour := isNumeral_fin (by decide) hour
    have hminute := isNumeral_fin (by decide) minute
    have hsecond := isNumeral_fin (by decide) second
    simp only [tokens, List.cons_append, List.nil_append]
    rw [readTokens_of_readToken (readToken_year hyear hmonth hday _)]
    -- The year has used up its month and day, which are passed over.
    simp only [readTokens_skip]
    rw [readTokens_of_readToken (readToken_letter _ _ d),
      readTokens_of_readToken (readToken_hour d hhour hminute hsecond _ _)]
    simp only [readTokens_skip]
    cases offset with
    | none => rfl
    | some o =>
      have hhours := isNumeral_fin (Nat.le_refl 100) o.hours
      have hminutes := isNumeral_fin (Nat.le_refl 100) o.minutes
      dsimp only
      rw [readTokens_of_readToken (readToken_sign o hhours hminutes _ d _ _ _)]
      rfl

theorem dateTime?_parts (f : Spelling) (d : Date) :
    (f.parts d).dateTime? today = some ⟨d, f.time, f.offset⟩ := by
  have hnumbers : (f.parts d).numbers = (dateParts d).numbers := by
    cases f <;> rfl
  have htime : TimeOfDay.ofParts? ((f.parts d).hour.getD 0) ((f.parts d).minute.getD 0)
      ((f.parts d).second.getD 0) ((f.parts d).microsecond.getD 0) = some f.time := by
    cases f with
    | basicDate | date => rfl
    | basicTime hour minute second _ | dateTime hour minute second _ =>
      exact dif_pos ⟨hour.isLt, minute.isLt, second.isLt, Nat.succ_pos _⟩
  have hempty : (f.parts d).isEmpty = false := by
    rw [Parts.isEmpty, hnumbers]
    rfl
  have hoffset : (f.parts d).utcOffset? = f.offset := by
    cases f with
    | basicDate | date => rfl
    | basicTime _ _ _ universal => cases universal <;> rfl
    | dateTime _ _ _ offset => cases offset <;> rfl
  have hkeepable : (f.parts d).hasKeepableOffset = true := by
    rw [Parts.hasKeepableOffset, hoffset]
    cases f with
    | basicDate | date => rfl
    | basicTime _ _ _ universal => cases universal <;> rfl
    | dateTime _ _ _ offset =>
      cases offset with
      | none => rfl
      | some o => exact decide_eq_true o.natAbs_days_le
  rw [Parts.dateTime?, date?_of_numbers hnumbers, htime, hempty, hkeepable, hoffset]
  rfl

/-- **A spelled day is read as the day, the time and the offset that are written.** -/
theorem read?_text (f : Spelling) (d : Date) :
    read? today (f.text d) = some ⟨d, f.time, f.offset⟩ := by
  rw [read?, tokens_text, readTokens_tokens]
  exact dateTime?_parts f d

end Spelling

end Timestamp

end Recurrence
