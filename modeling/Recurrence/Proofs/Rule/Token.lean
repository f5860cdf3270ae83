import Mathlib.Data.Nat.Digits.Defs
import Recurrence.Proofs.Rule.Failure
import Recurrence.Proofs.Text.Digits

/-! # Weekday tokens

`ByDay.Spells` is the grammar of weekday tokens, stripped and in upper case: a code, or
a code behind an ordinal, which is an optional sign and a row of decimal digits.  The
reader takes a sign and digits off the front and looks the line that is left up among
the codes.  No code begins with a digit and no stripped text ends with a line break, so
it reads what the token spells and nothing else (`ByDay.parse_eq_ok_iff_spells`).
-/
namespace Recurrence
open Text

/-! ## Codes -/

namespace Weekday

theorem eq_code_of_ofCode? {s : Text} {w : Weekday} (h : ofCode? s = some w) : s = w.code := by
  have hcode := List.find?_some h
  exact (beq_iff_eq.mp hcode).symm

theorem codeOfNumber_number (w : Weekday) : codeOfNumber w.number = .ok w.code := by
  cases w <;> rfl

theorem exists_number_eq {n : Nat} (h : n ≤ 6) : ∃ w : Weekday, w.number = n := by
  have hall : ∀ n : Fin 7, ∃ w ∈ all, w.number = n := by decide
  obtain ⟨w, -, hw⟩ := hall ⟨n, Nat.lt_succ_of_le h⟩
  exact ⟨w, hw⟩

end Weekday

/-! ## Lines -/

namespace ByDay

/-- A text that does not end with a line break is its own line. -/
theorem eq_of_line? {s line : Text} (hlast : ∀ h : s ≠ [], s.getLast h ≠ '\n')
    (h : line? s = some line) : s = line := by
  have hsplit := List.takeWhile_append_dropWhile (p := (· != '\n')) (l := s)
  unfold line? at h
  split at h
  · rename_i hrest
    rw [hrest, List.append_nil] at hsplit
    cases h
    exact hsplit.symm
  · rename_i hrest
    rw [hrest] at hsplit
    generalize s.takeWhile (· != '\n') = front at hsplit
    subst hsplit
    -- The line break that is cut off would be the last character.
    refine absurd ?_ (hlast (List.concat_ne_nil _ _))
    exact List.getLast_concat
  · cases h

theorem eq_code_of_weekdayOfLine? {s : Text} {w : Weekday}
    (hlast : ∀ h : s ≠ [], s.getLast h ≠ '\n') (h : weekdayOfLine? s = some w) : s = w.code := by
  obtain ⟨line, hline, hcode⟩ := Option.bind_eq_some_iff.mp h
  rw [eq_of_line? hlast hline]
  exact Weekday.eq_code_of_ofCode? hcode

theorem weekdayOfLine?_code (w : Weekday) : weekdayOfLine? w.code = some w := by
  cases w <;> rfl

/-- What is left of a stripped text does not end with a line break. -/
theorem getLast_ne_of_isTrimmed (front : Text) {rest : Text} (h : IsTrimmed (front ++ rest))
    (hne : rest ≠ []) : rest.getLast hne ≠ '\n' := by
  intro hbreak
  have hlast := h.last (List.append_ne_nil_of_right_ne_nil front hne)
  rw [List.getLast_append_of_ne_nil _ hne, hbreak] at hlast
  cases hlast

/-! ## Ordinals -/

/-- The text is a sign that may stand before digits, and says whether the number is negative. -/
inductive IsSign : Bool → Text → Prop
  /-- No sign. -/
  | none : IsSign false []
  /-- A plus sign. -/
  | plus : IsSign false ['+']
  /-- A minus sign. -/
  | minus : IsSign true ['-']

theorem exists_isSign (s : Text) :
    ∃ sign, IsSign (takeSign s).1 sign ∧ s = sign ++ (takeSign s).2 := by
  unfold takeSign
  split
  · exact ⟨['-'], .minus, rfl⟩
  · exact ⟨['+'], .plus, rfl⟩
  · exact ⟨[], .none, rfl⟩

/-- A sign is taken off whatever begins with a digit. -/
theorem takeSign_append {negative : Bool} {sign rest : Text} {c : Char}
    (hsign : IsSign negative sign) (hc : isDecimal c = true) :
    takeSign (sign ++ c :: rest) = (negative, c :: rest) := by
  cases hsign with
  | plus | minus => rfl
  | none =>
    rw [List.nil_append, takeSign]
    · rintro _ ⟨⟩
      cases hc
    · rintro _ ⟨⟩
      cases hc

/-- The text is a row of decimal digits, of any scripts. -/
structure IsDigits (digits : Text) : Prop where
  /-- There is a digit. -/
  ne_nil : digits ≠ []
  /-- There are digits only. -/
  isDecimal : ∀ c ∈ digits, Text.isDecimal c = true

/-- The number that a row of decimal digits stands for. -/
def decimalValue (digits : Text) : Nat :=
  Nat.ofDigits 10 (digits.filterMap digitValue?).reverse

theorem ofDigits_eq (ds : List Nat) : ofDigits ds = Nat.ofDigits 10 ds.reverse := by
  induction ds using List.reverseRecOn with
  | nil => rfl
  | append_singleton ds d ih =>
    rw [List.reverse_concat, Nat.ofDigits_cons, ← ih, ofDigits, List.foldl_append]
    exact Nat.add_comm ..

theorem IsDigits.length_filterMap {digits : Text} (h : IsDigits digits) :
    (digits.filterMap digitValue?).length = digits.length :=
  List.filterMap_length_eq_length.mpr h.isDecimal

/-- An ordinal is taken off a text that goes on with something else than a digit. -/
theorem takeOrdinal?_append {negative : Bool} {sign digits rest : Text}
    (hsign : IsSign negative sign) (hdigits : IsDigits digits)
    (hrest : rest.takeWhile isDecimal = []) :
    takeOrdinal? (sign ++ (digits ++ rest)) =
      some (negative, digits.filterMap digitValue?, rest) := by
  have hbody : takeSign (sign ++ (digits ++ rest)) = (negative, digits ++ rest) := by
    obtain ⟨c, others, rfl⟩ := List.exists_cons_of_ne_nil hdigits.ne_nil
    exact takeSign_append hsign (hdigits.isDecimal c List.mem_cons_self)
  have hne : (digits.filterMap digitValue?).isEmpty = false := by
    rw [List.isEmpty_eq_false_iff, ← List.length_pos_iff, hdigits.length_filterMap]
    exact List.length_pos_of_ne_nil hdigits.ne_nil
  -- The run of digits ends where the rest begins.
  have hdrop : rest.dropWhile isDecimal = rest := by
    simpa [hrest] using List.takeWhile_append_dropWhile (p := isDecimal) (l := rest)
  simp only [takeOrdinal?, hbody, List.takeWhile_append_of_pos hdigits.isDecimal,
    List.dropWhile_append_of_pos hdigits.isDecimal, hrest, List.append_nil, hdrop, hne,
    Bool.false_eq_true, if_false]

/-- What was taken off a text as an ordinal are a sign and digits. -/
theorem exists_of_takeOrdinal? {s rest : Text} {negative : Bool} {ds : List Nat}
    (h : takeOrdinal? s = some (negative, ds, rest)) :
    ∃ sign digits, IsSign negative sign ∧ IsDigits digits ∧ ds = digits.filterMap digitValue? ∧
      s = sign ++ (digits ++ rest) := by
  obtain ⟨sign, hsign, hs⟩ := exists_isSign s
  unfold takeOrdinal? at h
  dsimp only at h
  split at h
  · cases h
  · rename_i hne
    cases h
    refine ⟨sign, _, hsign, ⟨fun hnil => hne ?_, fun c => List.mem_takeWhile_imp⟩, rfl, ?_⟩
    · rw [hnil]
      rfl
    · rw [List.takeWhile_append_dropWhile]
      exact hs

/-! ## Tokens -/

/-- The grammar of tokens, stripped and in upper case: what a text asks for. -/
inductive Spells : Text → ByDay → Prop
  /-- A code alone. -/
  | every (w : Weekday) : Spells w.code (.every w)
  /-- A code behind an ordinal. -/
  | nth {negative : Bool} {sign digits : Text} (w : Weekday) : IsSign negative sign →
      IsDigits digits → digits.length ≤ digitLimit →
      Spells (sign ++ (digits ++ w.code))
        (.nth (if negative then -(decimalValue digits : Int) else decimalValue digits) w)

theorem takeWhile_code (w : Weekday) : w.code.takeWhile isDecimal = [] := by
  cases w <;> rfl

theorem takeOrdinal?_code (w : Weekday) : takeOrdinal? w.code = none := by
  cases w <;> rfl

theorem spells_of_parse {token : Text} {day : ByDay} (h : parse token = .ok day) :
    Spells (strip token).upper day := by
  have htrimmed : IsTrimmed (strip token).upper := isTrimmed_upper (isTrimmed_strip token)
  unfold parse at h
  dsimp only at h
  -- A code is looked for in the whole text, or in what an ordinal leaves of it.
  split at h
  · split at h
    · rename_i w hw
      cases h
      have hcode : (strip token).upper = w.code :=
        eq_code_of_weekdayOfLine? (getLast_ne_of_isTrimmed [] htrimmed) hw
      rw [hcode]
      exact .every w
    · cases h
  · rename_i negative ds rest hordinal
    obtain ⟨sign, digits, hsign, hdigits, rfl, hs⟩ := exists_of_takeOrdinal? hordinal
    rw [hs, ← List.append_assoc] at htrimmed
    split at h
    · cases h
    · rename_i w hw
      split at h
      · cases h
      · rename_i hlength
        cases h
        rw [hs, eq_code_of_weekdayOfLine? (getLast_ne_of_isTrimmed _ htrimmed) hw, ofDigits_eq]
        rw [hdigits.length_filterMap, Nat.not_lt] at hlength
        exact .nth w hsign hdigits hlength

theorem parse_of_spells {token : Text} {day : ByDay} (h : Spells (strip token).upper day) :
    parse token = .ok day := by
  unfold parse
  generalize (strip token).upper = s at h
  dsimp only
  cases h with
  | every w =>
    rw [takeOrdinal?_code, weekdayOfLine?_code]
  | nth w hsign hdigits hlength =>
    rw [takeOrdinal?_append hsign hdigits (takeWhile_code w)]
    dsimp only
    rw [weekdayOfLine?_code, hdigits.length_filterMap]
    dsimp only
    rw [if_neg (Nat.not_lt.mpr hlength), ofDigits_eq]
    rfl

/-- **A token is read as what it spells.** -/
theorem parse_eq_ok_iff_spells {token : Text} {day : ByDay} :
    parse token = .ok day ↔ Spells (strip token).upper day :=
  ⟨spells_of_parse, parse_of_spells⟩

/-! ## Refusals -/

/-- The digits that stand in front, or behind a sign in front. -/
def leadingDigits (s : Text) : Text :=
  (takeSign s).2.takeWhile isDecimal

theorem ordinalLength_eq (token : Text) :
    ordinalLength token = (leadingDigits (strip token).upper).length := by
  have hlength : ∀ s : Text, ((leadingDigits s).filterMap digitValue?).length =
      (leadingDigits s).length :=
    fun s => List.filterMap_length_eq_length.mpr fun c => List.mem_takeWhile_imp
  rw [← hlength, ordinalLength, takeOrdinal?]
  dsimp only [leadingDigits]
  split_ifs with hempty
  · rw [List.isEmpty_iff.mp hempty]
    rfl
  · rfl

/-- **A token that spells nothing is refused**, as such if its ordinal could be read. -/
theorem parse_eq_error_of_not_spells {token : Text}
    (hlength : (leadingDigits (strip token).upper).length ≤ digitLimit)
    (h : ∀ day, ¬ Spells (strip token).upper day) :
    parse token = .error (.rule (.unknownWeekdayToken token)) := by
  cases hparse : parse token with
  | ok day => exact absurd (spells_of_parse hparse) (h day)
  | error err =>
    rcases parse_eq_error hparse with rfl | ⟨hlong, -⟩
    · rfl
    · rw [ordinalLength_eq] at hlong
      exact absurd hlong (Nat.not_lt.mpr hlength)

/-! ## Numbers and codes -/

/-- What a token spells ends with the code of its weekday. -/
theorem Spells.exists_append_code {s : Text} {day : ByDay} (h : Spells s day) :
    ∃ front, s = front ++ day.weekday.code := by
  cases h with
  | every w => exact ⟨[], rfl⟩
  | nth w => exact ⟨_, (List.append_assoc ..).symm⟩

theorem code_eq (day : ByDay) : day.code = .ok day.weekday.code :=
  Weekday.codeOfNumber_number day.weekday

theorem isDigits_ofNat (n : Nat) : IsDigits (ofNat n) :=
  ⟨Nat.toDigits_ne_nil, fun _ hc => isDecimal_of_isDigit (isDigit_of_mem_ofNat hc)⟩

theorem decimalValue_ofNat (n : Nat) : decimalValue (ofNat n) = n := by
  have hvalues : (ofNat n).filterMap digitValue? = (ofNat n).map fun c => c.toNat - 48 :=
    List.filterMap_eq_map_iff_forall_eq_some.mpr fun c hc =>
      digitValue?_of_isDigit (isDigit_of_mem_ofNat hc)
  rw [decimalValue, ← ofDigits_eq, hvalues, ofDigits_map_toNat]
  exact Nat.ofDigitChars_toDigits (by decide) (by decide)

/-- The numeral of a number and a code spell that ordinal. -/
theorem spells_ofInt (n : Int) (w : Weekday) (h : (ofNat n.natAbs).length ≤ digitLimit) :
    Spells (ofInt n ++ w.code) (.nth n w) := by
  cases n with
  | ofNat n =>
    have hspells := Spells.nth w .none (isDigits_ofNat n) h
    rwa [decimalValue_ofNat] at hspells
  | negSucc n =>
    have hspells := Spells.nth w .minus (isDigits_ofNat (n + 1)) h
    rwa [decimalValue_ofNat] at hspells

theorem isBlank_of_mem_code {w : Weekday} {c : Char} (hc : c ∈ w.code) : isBlank c = false := by
  have hall : w.code.all (!isBlank ·) = true := by
    cases w <;> rfl
  exact (Bool.not_eq_true' _).mp (List.all_eq_true.mp hall c hc)

theorem upper_code (w : Weekday) : upper w.code = w.code := by
  cases w <;> rfl

theorem isBlank_of_mem_ofInt {n : Int} {c : Char} (hc : c ∈ ofInt n) : isBlank c = false := by
  cases n with
  | ofNat n => exact isBlank_of_isDigit (isDigit_of_mem_ofNat hc)
  | negSucc n =>
    rcases List.mem_cons.mp hc with rfl | hc
    · rfl
    · exact isBlank_of_isDigit (isDigit_of_mem_ofNat hc)

theorem upper_ofInt (n : Int) : upper (ofInt n) = ofInt n := by
  have hdigits : ∀ n, upper (ofNat n) = ofNat n := fun n => upper_eq_self fun c hc =>
    forall_isDigit (fun c => upperChar c = [c]) (by decide) (isDigit_of_mem_ofNat hc)
  cases n with
  | ofNat n => exact hdigits n
  | negSucc n => exact congrArg ('-' :: ·) (hdigits (n + 1))

/-- The numeral of a number and a code are stripped and in upper case as they are written. -/
theorem upper_strip_ofInt_append (n : Int) (w : Weekday) :
    (strip (ofInt n ++ w.code)).upper = ofInt n ++ w.code := by
  have hblank : ∀ c ∈ ofInt n ++ w.code, isBlank c = false := by
    intro c hc
    rcases List.mem_append.mp hc with hc | hc
    · exact isBlank_of_mem_ofInt hc
    · exact isBlank_of_mem_code hc
  have htrimmed : IsTrimmed (ofInt n ++ w.code) :=
    ⟨fun hne => hblank _ (List.head_mem hne), fun hne => hblank _ (List.getLast_mem hne)⟩
  rw [htrimmed.strip_eq, upper_append, upper_ofInt, upper_code]

/-! ## The grammar -/

/-- **The grammar of tokens is what the reader accepts.**  A token is read as what it spells when it
is stripped and in upper case: a weekday if it is the code of that weekday, an ordinal and a weekday
if it is a sign or none, at most 4300 decimal digits that make up the ordinal, and the code.  Any
other token whose digits are no more than that is refused for its weekday.  The numeral of an
integer and the code of a weekday, by its number from 0 to 6, are read as the two, and what was read
of a token has the code that the token ends with. -/
theorem tokens_read_by_grammar :
    (∀ token day, parse token = .ok day ↔ Spells (strip token).upper day) ∧
    (∀ token, (leadingDigits (strip token).upper).length ≤ digitLimit →
      (∀ day, ¬ Spells (strip token).upper day) →
      parse token = .error (.rule (.unknownWeekdayToken token))) ∧
    (∀ n : Int, (ofNat n.natAbs).length ≤ digitLimit → ∀ number : Nat, number ≤ 6 →
      ∃ w code, w.number = number ∧ Weekday.codeOfNumber number = .ok code ∧
        parse (ofInt n ++ code) = .ok (.nth n w)) ∧
    ∀ token day, parse token = .ok day →
      ∃ front, (strip token).upper = front ++ day.weekday.code ∧
        day.code = .ok day.weekday.code := by
  refine ⟨fun token day => parse_eq_ok_iff_spells, fun token => parse_eq_error_of_not_spells,
    fun n hn number hnumber => ?_, fun token day h => ?_⟩
  · obtain ⟨w, rfl⟩ := Weekday.exists_number_eq hnumber
    refine ⟨w, w.code, rfl, Weekday.codeOfNumber_number w, parse_of_spells ?_⟩
    rw [upper_strip_ofInt_append]
    exact spells_ofInt n w hn
  · obtain ⟨front, hfront⟩ := (spells_of_parse h).exists_append_code
    exact ⟨front, hfront, code_eq day⟩

set_option maxRecDepth 100000 in
/-- An Arabic digit with a plus sign, blanks around and the code in small letters are read, and as
what they spell; a blank behind the sign, a break in the line and digits behind the code are
refused. -/
theorem tokens_read_by_grammar_secondTuesday :
    Spells ['+', '٢', 'T', 'U'] (.nth 2 .tuesday) ∧
      ∀ token ∈ ["+ 2TU".toList, "2\nTU".toList, "TU2".toList],
        (leadingDigits (strip token).upper).length ≤ digitLimit ∧
        (∀ day, ¬ Spells (strip token).upper day) ∧
        parse token = .error (.rule (.unknownWeekdayToken token)) := by
  obtain ⟨hread, hrefuse, -, -⟩ := tokens_read_by_grammar
  have hrefused : ∀ token ∈ ["+ 2TU".toList, "2\nTU".toList, "TU2".toList],
      (leadingDigits (strip token).upper).length ≤ digitLimit ∧ (parse token).toOption = none := by
    decide +kernel
  refine ⟨(hread " +٢tu\n".toList (.nth 2 .tuesday)).mp (by rfl), fun token htoken => ?_⟩
  obtain ⟨hlength, hnone⟩ := hrefused token htoken
  have hspells : ∀ day, ¬ Spells (strip token).upper day := by
    intro day h
    rw [(hread token day).mpr h] at hnone
    cases hnone
  exact ⟨hlength, hspells, hrefuse token hlength hspells⟩

end ByDay

end Recurrence
