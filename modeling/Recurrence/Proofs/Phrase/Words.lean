import Recurrence.Proofs.Phrase.Content
import Recurrence.Proofs.Timestamp.Spelling

/-! # Phrases tell contents apart

What a phrase says is joined by blanks, by commas and by "and".  Without the last two,
a phrase is a row of words, and texts that are joined have their words in a row
(`Phrase.words_joinWith`).  In this row each weekday ends with its name, the only word
there with a `y`, and the weekdays and the end begin with "on" and "until".  A row with
marks can be cut in one way only (`append_inj_of_marked`), so the words tell what is
said (`Phrase.Content.row_injective`), and two tables with the same phrase have the
same content (`RuleTable.phrase_eq_phrase_iff`).
-/
namespace Recurrence
open Text

/-! ## Rows with marks -/

/-- A row is cut where the first mark stands. -/
theorem append_inj_of_marked {α : Type} {p : α → Prop} {xs xs' ys ys' : List α}
    (hxs : ∀ x ∈ xs, ¬p x) (hxs' : ∀ x ∈ xs', ¬p x)
    (hys : ∀ y, ys.head? = some y → p y) (hys' : ∀ y, ys'.head? = some y → p y)
    (h : xs ++ ys = xs' ++ ys') :
    xs = xs' ∧ ys = ys' := by
  induction xs generalizing xs' with
  | nil =>
    cases xs' with
    | nil => exact ⟨rfl, h⟩
    | cons x' xs' =>
      refine absurd (hys x' ?_) (hxs' x' List.mem_cons_self)
      rw [← List.nil_append ys, h]
      rfl
  | cons x xs ih =>
    cases xs' with
    | nil =>
      refine absurd (hys' x ?_) (hxs x List.mem_cons_self)
      rw [← List.nil_append ys', ← h]
      rfl
    | cons x' xs' =>
      obtain ⟨rfl, htail⟩ := List.cons.inj h
      obtain ⟨rfl, rfl⟩ := ih (fun y hy => hxs y (List.mem_cons_of_mem x hy))
        (fun y hy => hxs' y (List.mem_cons_of_mem x hy)) htail
      exact ⟨rfl, rfl⟩

/-- Rows that each end with their only mark can be told apart when they stand in a row. -/
theorem flatMap_injective_of_marked {α β : Type} {p : β → Prop} {front : α → List β} {last : α → β}
    (hfront : ∀ a, ∀ x ∈ front a, ¬p x) (hlast : ∀ a, p (last a))
    (hinj : ∀ a b, front a = front b → last a = last b → a = b) :
    Function.Injective (List.flatMap fun a => front a ++ [last a]) := by
  have hmark : ∀ a rest y, (last a :: rest).head? = some y → p y := by
    rintro a rest y ⟨⟩
    exact hlast a
  intro as bs h
  induction as generalizing bs with
  | nil =>
    cases bs with
    | nil => rfl
    | cons b bs => simp at h
  | cons a as ih =>
    cases bs with
    | nil => simp at h
    | cons b bs =>
      simp only [List.flatMap_cons, List.append_assoc, List.singleton_append] at h
      -- On either side the first mark is the end of the first row.
      obtain ⟨hab, hends⟩ :=
        append_inj_of_marked (hfront a) (hfront b) (hmark a _) (hmark b _) h
      obtain ⟨hname, hrest⟩ := List.cons.inj hends
      rw [hinj a b hab hname, ih hrest]

/-! ## Dates -/

namespace Date

/-- The English name of the month of a date. -/
def monthName (d : Date) : Text :=
  (monthNames.getD (d.month - 1) "").toList

theorem inWords_eq (d : Date) :
    d.inWords = d.monthName ++ ' ' :: (padded 2 d.day ++ ',' :: ' ' :: ofNat d.year) := by
  simp [inWords, monthName]

/-- No two months have the same name. -/
theorem month_eq_of_monthName {d e : Date} (h : d.monthName = e.monthName) : d.month = e.month := by
  have table : ∀ i j : Fin 12,
      (monthNames.getD i "").toList = (monthNames.getD j "").toList → i = j := by
    decide
  have hd := d.month_le
  have he := e.month_le
  have hindex := table ⟨d.month - 1, by omega⟩ ⟨e.month - 1, by omega⟩ h
  have hmonth : d.month - 1 = e.month - 1 := Fin.mk.inj hindex
  have := d.one_le_month
  have := e.one_le_month
  omega

/-- A date has no more to it than its year, month and day. -/
theorem ext_civil {d e : Date} (hyear : d.year = e.year) (hmonth : d.month = e.month)
    (hday : d.day = e.day) : d = e := by
  apply ext_dayNumber
  rw [d.dayNumber_eq, e.dayNumber_eq, daysBeforeItsMonth, daysBeforeItsMonth, hyear, hmonth, hday]

end Date

namespace Phrase

/-! ## Words -/

/-- The words of a text, without commas and without "and". -/
def words (s : Text) : List Text :=
  (splitOn ' ' (s.filter (· != ','))).filter (· != "and".toList)

theorem words_append_blank (s t : Text) : words (s ++ ' ' :: t) = words s ++ words t := by
  rw [words, List.filter_append, List.filter_cons_of_pos rfl, splitOn_append_sep,
    List.filter_append]
  rfl

theorem words_append_comma (s t : Text) : words (s ++ ',' :: t) = words (s ++ t) := by
  rw [words, List.filter_append, List.filter_cons_of_neg (by decide), ← List.filter_append]
  rfl

/-- A text in which nothing is cut, and that is not "and". -/
theorem words_eq_self {s : Text} (hblank : ' ' ∉ s) (hcomma : ',' ∉ s) (ha : 'a' ∉ s) :
    words s = [s] := by
  have hwhole : s.filter (· != ',') = s := List.filter_eq_self.mpr fun c hc => by
    simpa using fun heq : c = ',' => hcomma (heq ▸ hc)
  have hand : (s != "and".toList) = true := by
    simpa using fun heq : s = "and".toList => ha (heq ▸ by decide)
  rw [words, hwhole, splitOn_of_not_mem hblank]
  exact List.filter_cons_of_pos hand

/-- The text joins others and adds no word. -/
def IsGap (gap : Text) : Prop :=
  ∀ s t, words (s ++ gap ++ t) = words s ++ words t

theorem isGap_blank : IsGap [' '] := fun s t => by
  rw [List.append_assoc]
  exact words_append_blank s t

theorem IsGap.comma_append {gap : Text} (h : IsGap gap) : IsGap (',' :: gap) := fun s t => by
  rw [List.append_assoc, List.cons_append, words_append_comma, ← List.append_assoc, h]

theorem isGap_and : IsGap " and ".toList := fun s t => by
  have hgap : s ++ " and ".toList ++ t = s ++ ' ' :: ("and".toList ++ ' ' :: t) := by
    rw [List.append_assoc]
    rfl
  rw [hgap, words_append_blank, words_append_blank]
  rfl

/-- **Texts that are joined have their words in a row.** -/
theorem words_joinWith {gap : Text} (h : IsGap gap) {pieces : List Text} (hne : pieces ≠ []) :
    words (joinWith gap pieces) = pieces.flatMap words := by
  induction pieces with
  | nil => exact absurd rfl hne
  | cons piece rest ih =>
    cases rest with
    | nil => simp [joinWith]
    | cons next rest =>
      rw [joinWith_cons_cons, h, ih (List.cons_ne_nil next rest)]
      rfl

theorem words_joinNames {names : List Text} (hne : names ≠ []) :
    words (joinNames names) = names.flatMap words := by
  unfold joinNames
  split
  · exact words_joinWith isGap_and hne
  · rename_i hlength
    obtain ⟨front, last, rfl⟩ := (List.eq_nil_or_concat' names).resolve_left hne
    have hfront : front ≠ [] := by
      rintro rfl
      exact hlength (Nat.le_succ 1)
    have hlast : (front ++ [last]).getLastD [] = last := by simp
    have hgap : IsGap ", and ".toList := isGap_and.comma_append
    rw [hlast, List.dropLast_concat, hgap, words_joinWith isGap_blank.comma_append hfront,
      List.flatMap_append, List.flatMap_singleton]

/-! ## Numbers as words -/

theorem words_numeral {s : Text} (h : ∀ c ∈ s, c = '-' ∨ c.isDigit = true) : words s = [s] :=
  words_eq_self (fun hc => absurd (h ' ' hc) (by decide)) (fun hc => absurd (h ',' hc) (by decide))
    fun hc => absurd (h 'a' hc) (by decide)

/-- The characters of ordinal numbers. -/
def isOrdinalChar (c : Char) : Bool :=
  c == '-' || c.isDigit || ['d', 'h', 'n', 'r', 's', 't'].contains c

theorem not_mem_ordinal (n : Int) {c : Char} (hc : isOrdinalChar c = false) : c ∉ ordinal n := by
  simp only [isOrdinalChar, Bool.or_eq_false_iff, beq_eq_false_iff_ne] at hc
  obtain ⟨⟨hsign, hdigit⟩, hletter⟩ := hc
  intro h
  rcases List.mem_append.mp h with h | h
  · rcases mem_ofInt h with heq | hc
    · exact hsign heq
    · exact absurd hc (ne_true_of_eq_false hdigit)
  · have hletters : ordinalLetters n ⊆ ['d', 'h', 'n', 'r', 's', 't'] := by
      unfold ordinalLetters
      split_ifs <;> decide
    exact absurd (List.contains_iff_mem.mpr (hletters h)) (ne_true_of_eq_false hletter)

theorem words_ordinal (n : Int) : words (ordinal n) = [ordinal n] :=
  words_eq_self (not_mem_ordinal n rfl) (not_mem_ordinal n rfl) (not_mem_ordinal n rfl)

theorem ordinal_injective : Function.Injective ordinal := by
  have hlength : ∀ n, (ordinalLetters n).length = 2 := fun n => by
    unfold ordinalLetters
    split_ifs <;> rfl
  intro n m h
  exact ofInt_injective (List.append_inj_left' h ((hlength n).trans (hlength m).symm))

/-! ## What is said, in words -/

/-- The words for how often. -/
def cadenceWords : Option (TimeUnit × Int) → List Text
  | none => []
  | some (unit, k) =>
    if k = 1 then [unit.word.toList] else [ofInt k, unit.word.toList ++ ['s']]

/-- The words before the name of a weekday. -/
def ordinalWords : ByDay → List Text
  | .every _ => []
  | .nth n _ =>
    if n = -1 then ["the".toList, "last".toList]
    else if n < 0 then ["the".toList, ordinal (-n), "to".toList, "last".toList]
    else ["the".toList, ordinal n]

/-- The words for the weekdays. -/
def weekdayWords : List ByDay → List Text
  | [] => []
  | days => "on".toList :: days.flatMap fun day => ordinalWords day ++ [day.weekday.name]

/-- The words for the end. -/
def lastWords : Option Date → List Text
  | none => []
  | some d => ["until".toList, d.monthName, padded 2 d.day, ofNat d.year]

theorem words_pluralize (k : Int) (unit : TimeUnit) :
    words (pluralize k unit.word.toList) = cadenceWords (some (unit, k)) := by
  rw [pluralize, cadenceWords]
  split_ifs
  · cases unit <;> rfl
  · have hplural : words (unit.word.toList ++ ['s']) = [unit.word.toList ++ ['s']] := by
      cases unit <;> rfl
    rw [List.append_assoc, List.append_assoc, List.singleton_append, words_append_blank,
      words_numeral fun c => mem_ofInt, hplural]
    rfl

theorem words_name (w : Weekday) : words w.name = [w.name] := by
  cases w <;> rfl

theorem words_dayName (day : ByDay) :
    words (dayName day) = ordinalWords day ++ [day.weekday.name] := by
  cases day with
  | every w => exact words_name w
  | nth n w =>
    unfold dayName ordinalWords
    dsimp only
    split_ifs
    · exact (words_append_blank "the last".toList w.name).trans (congrArg _ (words_name w))
    · have hblanks : "the ".toList ++ ordinal (-n) ++ " to last ".toList ++ w.name =
          "the".toList ++ ' ' :: (ordinal (-n) ++ ' ' :: ("to last".toList ++ ' ' :: w.name)) := by
        simp
      rw [hblanks, words_append_blank, words_append_blank, words_append_blank, words_ordinal,
        words_name]
      rfl
    · have hblanks : "the ".toList ++ ordinal n ++ [' '] ++ w.name =
          "the".toList ++ ' ' :: (ordinal n ++ ' ' :: w.name) := by
        simp
      rw [hblanks, words_append_blank, words_append_blank, words_ordinal, words_name]
      rfl

theorem words_weekdays (day : ByDay) (days : List ByDay) :
    words ("on ".toList ++ joinNames ((day :: days).map dayName)) =
      weekdayWords (day :: days) := by
  have hnames : words (joinNames ((day :: days).map dayName)) =
      (day :: days).flatMap fun day => ordinalWords day ++ [day.weekday.name] := by
    rw [words_joinNames (by simp), List.flatMap_map]
    exact List.flatMap_congr fun day _ => words_dayName day
  have hblank : "on ".toList ++ joinNames ((day :: days).map dayName) =
      "on".toList ++ ' ' :: joinNames ((day :: days).map dayName) := by
    simp
  rw [hblank, words_append_blank, hnames]
  rfl

theorem words_last (d : Date) : words ("until ".toList ++ d.inWords) = lastWords (some d) := by
  have hmonth : words d.monthName = [d.monthName] := by
    have table : ∀ i : Fin 12, words (Date.monthNames.getD i "").toList =
        [(Date.monthNames.getD i "").toList] := by
      decide
    have := d.month_le
    exact table ⟨d.month - 1, by omega⟩
  have hday : words (padded 2 d.day) = [padded 2 d.day] :=
    words_numeral fun c hc => .inr (isDigit_of_mem_padded hc)
  have hyear : words (ofNat d.year) = [ofNat d.year] :=
    words_numeral fun c hc => .inr (isDigit_of_mem_ofNat hc)
  have hblank : "until ".toList ++ d.inWords = "until".toList ++ ' ' :: d.inWords := by
    simp
  rw [hblank, words_append_blank, d.inWords_eq, words_append_blank, words_append_comma,
    words_append_blank, hmonth, hday, hyear]
  rfl

/-! ## The words tell what is said -/

theorem cadenceWords_injective : Function.Injective cadenceWords := by
  have hword : ∀ unit unit' : TimeUnit, unit.word.toList = unit'.word.toList → unit = unit' := by
    rintro (_ | _ | _ | _) (_ | _ | _ | _) <;> decide
  rintro (_ | ⟨unit, k⟩) (_ | ⟨unit', k'⟩) h
  · rfl
  · rw [cadenceWords, cadenceWords] at h
    split_ifs at h
  · rw [cadenceWords, cadenceWords] at h
    split_ifs at h
  · rw [cadenceWords, cadenceWords] at h
    split_ifs at h with hk hk'
    · rw [hword unit unit' (List.cons.inj h).1, hk, hk']
    · cases (List.cons.inj h).2
    · cases (List.cons.inj h).2
    · obtain ⟨hk, hunit⟩ := List.cons.inj h
      rw [hword unit unit' (List.append_cancel_right (List.cons.inj hunit).1), ofInt_injective hk]

theorem lastWords_injective : Function.Injective lastWords := by
  rintro (_ | d) (_ | e) h
  · rfl
  · cases h
  · cases h
  · simp only [lastWords, List.cons.injEq] at h
    obtain ⟨-, hmonth, hday, hyear, -⟩ := h
    have hvalue := (Timestamp.Spelling.isNumeral_day d).value_eq
    rw [hday, (Timestamp.Spelling.isNumeral_day e).value_eq] at hvalue
    rw [Date.ext_civil (ofNat_injective hyear) (Date.month_eq_of_monthName hmonth) hvalue.symm]

theorem eq_of_ordinalWords {day day' : ByDay} (h : ordinalWords day = ordinalWords day')
    (hname : day.weekday.name = day'.weekday.name) : day = day' := by
  have hweekday : day.weekday = day'.weekday := by
    revert hname
    cases day.weekday <;> cases day'.weekday <;> decide
  -- The last weekday is not one with an ordinal.
  have hlast : ∀ n, "last".toList ≠ ordinal n := fun n heq =>
    not_mem_ordinal n (c := 'l') rfl (heq ▸ by decide)
  rcases day with w | ⟨n, w⟩ <;> rcases day' with w' | ⟨n', w'⟩ <;> cases hweekday
  · rfl
  · rw [ordinalWords, ordinalWords] at h
    split_ifs at h
  · rw [ordinalWords, ordinalWords] at h
    split_ifs at h
  · suffices n = n' by rw [this]
    rw [ordinalWords, ordinalWords] at h
    split_ifs at h <;> simp only [List.cons.injEq, reduceCtorEq, and_true, true_and, and_false] at h
    · omega
    · exact absurd h (hlast n')
    · exact Int.neg_inj.mp (ordinal_injective h)
    · exact absurd h.symm (hlast n)
    · exact ordinal_injective h

/-- The words before the name of a weekday are three fixed ones and ordinals. -/
theorem mem_ordinalWords {day : ByDay} {word : Text} (h : word ∈ ordinalWords day) :
    word ∈ ["the".toList, "to".toList, "last".toList] ∨ ∃ n, word = ordinal n := by
  cases day with
  | every w => cases h
  | nth n w =>
    rw [ordinalWords] at h
    split_ifs at h <;> simp only [List.mem_cons, List.not_mem_nil, or_false] at h ⊢
    · exact .inl (h.imp_right .inr)
    · rcases h with h | h | h | h
      · exact .inl (.inl h)
      · exact .inr ⟨-n, h⟩
      · exact .inl (.inr (.inl h))
      · exact .inl (.inr (.inr h))
    · rcases h with h | h
      · exact .inl (.inl h)
      · exact .inr ⟨n, h⟩

theorem not_mem_of_mem_ordinalWords {day : ByDay} {word : Text} (h : word ∈ ordinalWords day) :
    'u' ∉ word ∧ 'y' ∉ word := by
  rcases mem_ordinalWords h with hfixed | ⟨n, rfl⟩
  · have hnone : ∀ word ∈ ["the".toList, "to".toList, "last".toList],
        'u' ∉ word ∧ 'y' ∉ word := by
      decide
    exact hnone word hfixed
  · exact ⟨not_mem_ordinal n rfl, not_mem_ordinal n rfl⟩

theorem weekdayWords_injective : Function.Injective weekdayWords := by
  have hdays : Function.Injective
      (List.flatMap fun day : ByDay => ordinalWords day ++ [day.weekday.name]) := by
    have hname : ∀ w : Weekday, 'y' ∈ w.name := by
      intro w
      cases w <;> decide
    exact flatMap_injective_of_marked (p := fun word => 'y' ∈ word)
      (fun day word hword => (not_mem_of_mem_ordinalWords hword).2)
      (fun day => hname day.weekday) fun day day' => eq_of_ordinalWords
  rintro (_ | ⟨day, days⟩) (_ | ⟨day', days'⟩) h
  · rfl
  · cases h
  · cases h
  · exact hdays (List.cons.inj h).2

/-! ## The row of a content -/

/-- The words that the weekdays and the end begin with. -/
def openers : List Text :=
  ["on".toList, "until".toList]

theorem not_mem_openers_of_mem_cadenceWords {cadence : Option (TimeUnit × Int)} {word : Text}
    (h : word ∈ cadenceWords cadence) : word ∉ openers := by
  rcases cadence with _ | ⟨unit, k⟩
  · cases h
  · have hnumber : ofInt k ∉ openers := by
      intro hmem
      have hletter : ∀ word ∈ openers, 'n' ∈ word := by decide
      rcases mem_ofInt (hletter _ hmem) with hsign | hdigit
      · cases hsign
      · cases hdigit
    rw [cadenceWords] at h
    split_ifs at h <;> simp only [List.mem_cons, List.not_mem_nil, or_false] at h
    · rw [h]
      cases unit <;> decide
    · rcases h with rfl | rfl
      · exact hnumber
      · cases unit <;> decide

theorem ne_until_of_mem_weekdayWords {days : List ByDay} {word : Text}
    (h : word ∈ weekdayWords days) : word ≠ "until".toList := by
  cases days with
  | nil => cases h
  | cons day days =>
    rcases List.mem_cons.mp h with rfl | h
    · decide
    · obtain ⟨day, -, h⟩ := List.mem_flatMap.mp h
      rcases List.mem_append.mp h with h | h
      · rintro rfl
        exact (not_mem_of_mem_ordinalWords h).1 (by decide)
      · rw [List.mem_singleton.mp h]
        cases day.weekday <;> decide

namespace Content

/-- All words of a content, in order. -/
def row (c : Content) : List Text :=
  cadenceWords c.cadence ++ (weekdayWords c.weekdays ++ lastWords c.last)

/-- **The words of a content tell it.** -/
theorem row_injective : Function.Injective row := by
  have hweekdays : ∀ days word, (weekdayWords days).head? = some word → word = "on".toList := by
    rintro (_ | ⟨day, days⟩) word ⟨⟩
    rfl
  have hlast : ∀ last word, (lastWords last).head? = some word → word = "until".toList := by
    rintro (_ | d) word ⟨⟩
    rfl
  have hrest : ∀ days last word, (weekdayWords days ++ lastWords last).head? = some word →
      word ∈ openers := by
    rintro days last word h
    rw [List.head?_append, Option.or_eq_some_iff] at h
    rcases h with h | ⟨-, h⟩
    · rw [hweekdays days word h]
      decide
    · rw [hlast last word h]
      decide
  intro c d h
  -- How often ends where "on" or "until" stands first, and the weekdays end at "until".
  obtain ⟨hcadence, hends⟩ := append_inj_of_marked (p := (· ∈ openers))
    (fun _ => not_mem_openers_of_mem_cadenceWords) (fun _ => not_mem_openers_of_mem_cadenceWords)
    (hrest c.weekdays c.last) (hrest d.weekdays d.last) h
  obtain ⟨hdays, hend⟩ := append_inj_of_marked (p := (· = "until".toList))
    (fun _ => ne_until_of_mem_weekdayWords) (fun _ => ne_until_of_mem_weekdayWords)
    (hlast c.last) (hlast d.last) hends
  exact Content.ext (cadenceWords_injective hcadence) (weekdayWords_injective hdays)
    (lastWords_injective hend)

theorem flatMap_words_clauses (c : Content) : c.clauses.flatMap words = c.row := by
  have hclauses : ∀ first second third : Option Text,
      ([first, second, third].filterMap id).flatMap words =
        first.elim [] words ++ (second.elim [] words ++ third.elim [] words) := by
    rintro (_ | _) (_ | _) (_ | _) <;> simp
  obtain ⟨cadence, days, last⟩ := c
  rw [clauses, hclauses, row]
  congr
  · rcases cadence with _ | ⟨unit, k⟩
    · rfl
    · exact words_pluralize k unit
  · cases days with
    | nil => rfl
    | cons day days => exact words_weekdays day days
  · cases last with
    | none => rfl
    | some d => exact words_last d

/-- The phrase of a content is "Never" if there are no words, or else the words behind "Every". -/
theorem words_text (c : Content) :
    (words c.text = ["Never".toList] ∧ c.row = []) ∨ words c.text = "Every".toList :: c.row := by
  rw [← c.flatMap_words_clauses, text]
  generalize c.clauses = clauses
  cases clauses with
  | nil => exact .inl ⟨rfl, rfl⟩
  | cons clause clauses => exact .inr (words_joinWith isGap_blank (List.cons_ne_nil _ _))

/-- **The phrase of a content tells it.** -/
theorem text_injective : Function.Injective text := by
  intro c d h
  apply row_injective
  have hwords := congrArg words h
  rcases c.words_text with ⟨hc, hcnil⟩ | hc <;> rcases d.words_text with ⟨hd, hdnil⟩ | hd
  · rw [hcnil, hdnil]
  · rw [hc, hd] at hwords
    cases (List.cons.inj hwords).1
  · rw [hc, hd] at hwords
    cases (List.cons.inj hwords).1
  · rw [hc, hd] at hwords
    exact (List.cons.inj hwords).2

end Content

end Phrase

/-! ## Tables -/

namespace RuleTable
open Phrase
variable {t u : RuleTable} {today : Date} {zone : Zone} {p q : Text}

theorem Tells.unique {c d : Content} (hc : t.Tells today zone c)
    (hd : t.Tells today zone d) : c = d := by
  have hcadence : c.cadence = d.cadence :=
    Option.ext fun ⟨unit, k⟩ => (hc.cadence unit k).symm.trans (hd.cadence unit k)
  have hlast : c.last = d.last :=
    Option.ext fun date => (hc.last date).symm.trans (hd.last date)
  exact Content.ext hcadence (hc.weekdays.unique hd.weekdays) hlast

/-- **Two tables have the same phrase if and only if they have the same content**: the same unit and
number of units, or no frequency or interval to say; the same weekdays with their ordinals, in
order; and the same date of the end by the clock of the zone, or none. -/
theorem phrase_eq_phrase_iff (ht : (t.phrase today zone).result = .ok p)
    (hu : (u.phrase today zone).result = .ok q) :
    (∃ c, t.Tells today zone c) ∧ (∃ d, u.Tells today zone d) ∧
      ∀ c d, t.Tells today zone c → u.Tells today zone d → (p = q ↔ c = d) := by
  obtain ⟨c, hc, rfl⟩ := exists_tells ht
  obtain ⟨d, hd, rfl⟩ := exists_tells hu
  refine ⟨⟨c, hc⟩, ⟨d, hd⟩, fun c' d' hc' hd' => ?_⟩
  rw [hc'.unique hc, hd'.unique hd]
  exact Content.text_injective.eq_iff

set_option maxRecDepth 100000 in
/-- Spellings of the other keys make no difference to what is said.  The end does, by the clock of
the zone: the last second of 2025 in universal time is in 2026 in Tokyo, and said as 2026-01-01 is,
unlike the date that it is written with. -/
theorem phrase_eq_phrase_iff_tokyo :
    ∃ t u v zone p q,
      (parse ["FREQ=MONTHLY;INTERVAL=2;BYDAY=+1MO;UNTIL=20251231T235959Z".toList] = .ok t ∧
        parse ["COUNT=3;BYDAY=1mo".toList, "INTERVAL=02;FREQ=monthly;UNTIL=20260101".toList] =
          .ok u ∧
        parse ["FREQ=MONTHLY;INTERVAL=2;BYDAY=1MO;UNTIL=20251231".toList] = .ok v) ∧
      Zone.resolve "Asia/Tokyo".toList = .ok zone ∧
      ((t.phrase .epoch zone).result = .ok p ∧ (u.phrase .epoch zone).result = .ok p ∧
        (v.phrase .epoch zone).result = .ok q) ∧
      p = "Every 2 months on the 1st Monday until January 01, 2026".toList ∧
      (∃ c, t.Tells .epoch zone c ∧ u.Tells .epoch zone c) ∧
      ∀ c d, t.Tells .epoch zone c → v.Tells .epoch zone d → c ≠ d := by
  obtain ⟨zone, t, u, v, hzone, hreads, hphrases⟩ : ∃ zone t u v,
      Zone.resolve "Asia/Tokyo".toList = .ok zone ∧
      (parse ["FREQ=MONTHLY;INTERVAL=2;BYDAY=+1MO;UNTIL=20251231T235959Z".toList] = .ok t ∧
        parse ["COUNT=3;BYDAY=1mo".toList, "INTERVAL=02;FREQ=monthly;UNTIL=20260101".toList] =
          .ok u ∧
        parse ["FREQ=MONTHLY;INTERVAL=2;BYDAY=1MO;UNTIL=20251231".toList] = .ok v) ∧
      (t.phrase .epoch zone).result =
        .ok "Every 2 months on the 1st Monday until January 01, 2026".toList ∧
      (u.phrase .epoch zone).result =
        .ok "Every 2 months on the 1st Monday until January 01, 2026".toList ∧
      (v.phrase .epoch zone).result =
        .ok "Every 2 months on the 1st Monday until December 31, 2025".toList :=
    ⟨⟨33539, [(-2587712400, 32400), (-683802000, 36000), (-672310800, 32400),
        (-654771600, 36000), (-640861200, 32400), (-620298000, 36000), (-609411600, 32400),
        (-588848400, 36000), (-577962000, 32400)], .fixed 32400⟩,
      ⟨[("FREQ".toList, .single "MONTHLY".toList), ("INTERVAL".toList, .single ['2']),
        ("BYDAY".toList, .single "+1MO".toList),
        ("UNTIL".toList, .single "20251231T235959Z".toList)]⟩,
      ⟨[("COUNT".toList, .single ['3']), ("BYDAY".toList, .single "1mo".toList),
        ("INTERVAL".toList, .single "02".toList), ("FREQ".toList, .single "monthly".toList),
        ("UNTIL".toList, .single "20260101".toList)]⟩,
      ⟨[("FREQ".toList, .single "MONTHLY".toList), ("INTERVAL".toList, .single ['2']),
        ("BYDAY".toList, .single "1MO".toList), ("UNTIL".toList, .single "20251231".toList)]⟩,
      by rfl, ⟨by rfl, by rfl, by rfl⟩, by rfl, by rfl, by rfl⟩
  obtain ⟨⟨c, hc⟩, ⟨d, hd⟩, hsame⟩ := phrase_eq_phrase_iff hphrases.1 hphrases.2.1
  obtain ⟨-, -, hother⟩ := phrase_eq_phrase_iff hphrases.1 hphrases.2.2
  refine ⟨t, u, v, zone, _, _, hreads, hzone, hphrases, rfl, ⟨c, hc, ?_⟩, ?_⟩
  · rw [(hsame c d hc hd).mp rfl]
    exact hd
  · intro c d hc hd hcd
    exact absurd ((hother c d hc hd).mpr hcd) (by decide)

end RuleTable

end Recurrence
