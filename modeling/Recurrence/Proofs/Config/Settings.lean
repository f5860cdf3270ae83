import Recurrence.Config.File
import Recurrence.Proofs.Outcome
import Recurrence.Proofs.Text.Upper

/-! # Settings made of any values

Each of the three settings of a configuration is made of one value: that of its entry,
or a default.  Most values are taken or replaced (`Setting.Gives`).  Some keep the
setting from being made at all (`Setting.Refuses`): an infinite number is no integer, an
integer may be too long to be written, and a name may be that of an area or too long for
a file.  These are all: either every setting is made, and then the window is in its
bounds and the zone is known, or one is refused (`Config.ofEntries_cases`).
-/
namespace Recurrence

/-- A setting of a configuration. -/
inductive Setting
  /-- The length of the window. -/
  | windowDays
  /-- The zone in which ends are phrased. -/
  | zone
  /-- The name of the log level. -/
  | logLevel
deriving DecidableEq, Repr

namespace Setting
open Config

/-- The key of the entry. -/
def key : Setting → String
  | .windowDays => "window_days"
  | .zone => "default_timezone"
  | .logLevel => "log_level"

/-- The value in the place of an entry that is missing. -/
def default : Setting → Value
  | .windowDays => .int standardWindow
  | .zone => .text standardZone
  | .logLevel => .text standardLevel

/-- The value of the entry, or the default. -/
def valueIn (f : Setting) (entries : ConfigEntries) : Value :=
  (lookup? f.key entries).getD f.default

/-- The setting in a configuration. -/
def get (f : Setting) (c : Config) : Value :=
  match f with
  | .windowDays => .int c.windowDays
  | .zone => .text c.defaultZone
  | .logLevel => .text c.logLevel

/-! ## What comes of a value -/

/-- The value names a zone: by its text, or the standard one if the value does not count as
given. -/
inductive NamesZone (v : Value) : Text → Prop
  /-- The text of the value is the name. -/
  | given {name : Text} : v.isGiven = true → v.text? = some name → NamesZone v name
  /-- The value is empty, zero or absent. -/
  | notGiven : v.isGiven = false → NamesZone v standardZone

/-- The setting that is made of a value. -/
inductive Gives : Setting → Value → Value → Prop
  /-- An integer is brought into the bounds. -/
  | integer {v : Value} {n : Int} : integerOf v = .ok (some n) →
      Gives .windowDays v (.int (max 1 (min n longestWindow)))
  /-- What is no integer is replaced. -/
  | notInteger {v : Value} : integerOf v = .ok none → Gives .windowDays v (.int standardWindow)
  /-- The name of a zone is taken. -/
  | known {v : Value} {name : Text} {z : Zone} : NamesZone v name → Zone.find name = .ok z →
      Gives .zone v (.text name)
  /-- Any other name is replaced. -/
  | unknown {v : Value} {name : Text} : NamesZone v name → Zone.find name = .error .unknown →
      Gives .zone v (.text standardZone)
  /-- A level is put in upper case, whatever it is. -/
  | level {v : Value} {s : Text} : v ≠ .null → v.text? = some s → Gives .logLevel v (.text s.upper)
  /-- The absent value is replaced. -/
  | noLevel : Gives .logLevel .null (.text standardLevel)

/-- The value keeps the setting from being made, with this error. -/
inductive Refuses : Setting → Value → Error → Prop
  /-- The number is infinite. -/
  | infinite (negative : Bool) : Refuses .windowDays (.float (.infinite negative)) .infiniteInteger
  /-- The name has an integer in it that is too long to be written. -/
  | longZone {v : Value} : v.isGiven = true → v.isWritable = false → Refuses .zone v .integerTooLong
  /-- The name is that of an area. -/
  | area {v : Value} {name : Text} : NamesZone v name → Zone.find name = .error .area →
      Refuses .zone v .isDirectory
  /-- The name is too long for a file. -/
  | nameTooLong {v : Value} {name : Text} : NamesZone v name → Zone.find name = .error .tooLong →
      Refuses .zone v .nameTooLong
  /-- The level has an integer in it that is too long to be written. -/
  | longLevel {v : Value} : v.isWritable = false → Refuses .logLevel v .integerTooLong

end Setting

namespace Config
variable {v : Value} {err : Error}

/-! ## The window -/

theorem integerOf_eq_error :
    integerOf v = .error err ↔ ∃ negative, v = .float (.infinite negative) ∧
      err = .infiniteInteger := by
  unfold integerOf
  split <;> simp_all [eq_comm]

theorem result_bounded (n : Int) : (bounded n).result = .ok (max 1 (min n longestWindow)) := by
  unfold bounded longestWindow
  split
  · have hlow : max 1 (min n 3660) = 1 := by omega
    rw [hlow]
    rfl
  · split
    · have hhigh : max 1 (min n 3660) = 3660 := by omega
      rw [hhigh]
      rfl
    · have hsame : max 1 (min n 3660) = n := by omega
      rw [hsame]
      rfl

theorem result_window_eq_ok {days : Int} :
    (window (some v)).result = .ok days ↔ Setting.windowDays.Gives v (.int days) := by
  unfold window
  rw [Outcome.result_bind_eq_ok]
  constructor
  · rintro ⟨n, hn, h⟩
    cases n with
    | some n =>
      rw [result_bounded] at h
      cases h
      exact .integer hn
    | none =>
      obtain ⟨-, -, h⟩ := Outcome.result_bind_eq_ok.mp h
      cases h
      exact .notInteger hn
  · intro h
    cases h with
    | integer hn => exact ⟨_, hn, result_bounded _⟩
    | notInteger hn => exact ⟨_, hn, rfl⟩

theorem result_window_eq_error :
    (window (some v)).result = .error err ↔ Setting.windowDays.Refuses v err := by
  unfold window
  rw [Outcome.result_bind_eq_error]
  constructor
  · rintro (h | ⟨n, -, h⟩)
    · obtain ⟨negative, rfl, rfl⟩ := integerOf_eq_error.mp h
      exact .infinite negative
    · cases n with
      | some n => cases (result_bounded n).symm.trans h
      | none =>
        rcases Outcome.result_bind_eq_error.mp h with h | ⟨-, -, h⟩ <;> cases h
  · rintro ⟨negative⟩
    exact .inl rfl

/-! ## The zone -/

theorem zoneName_eq_ok {name : Text} : zoneName (some v) = .ok name ↔ Setting.NamesZone v name := by
  unfold zoneName
  constructor
  · intro h
    dsimp only at h
    split at h
    · rename_i hgiven
      exact .given hgiven (Value.written_eq_ok.mp h)
    · rename_i hgiven
      cases h
      exact .notGiven (by simpa using hgiven)
  · rintro (⟨hgiven, hname⟩ | hgiven)
    · simpa [hgiven] using Value.written_eq_ok.mpr hname
    · simp [hgiven]

theorem zoneName_eq_error :
    zoneName (some v) = .error err ↔
      v.isGiven = true ∧ v.isWritable = false ∧ err = .integerTooLong := by
  by_cases hgiven : v.isGiven = true
  · simp [zoneName, hgiven, Value.written_eq_error]
  · simp [zoneName, hgiven]

theorem exists_find_standardZone : ∃ z, Zone.find standardZone = .ok z := ⟨_, by rfl⟩

theorem result_knownZone_eq_ok {name zone : Text} :
    (knownZone name).result = .ok zone ↔ (∃ z, Zone.find name = .ok z) ∧ name = zone ∨
      Zone.find name = .error .unknown ∧ standardZone = zone := by
  unfold knownZone
  rcases Zone.find name with (_ | _ | _) | z
  · show Except.ok standardZone = .ok zone ↔ _
    simp
  · simp [Outcome.fail]
  · simp [Outcome.fail]
  · simp

theorem result_knownZone_eq_error {name : Text} :
    (knownZone name).result = .error err ↔ Zone.find name = .error .area ∧ .isDirectory = err ∨
      Zone.find name = .error .tooLong ∧ .nameTooLong = err := by
  unfold knownZone
  rcases Zone.find name with (_ | _ | _) | z
  · show Except.ok standardZone = .error err ↔ _
    simp
  · simp [Outcome.fail]
  · simp [Outcome.fail]
  · simp

theorem result_zone_eq_ok {zone : Text} :
    (Config.zone (some v)).result = .ok zone ↔ Setting.zone.Gives v (.text zone) := by
  unfold Config.zone
  rw [Outcome.result_bind_eq_ok]
  constructor
  · rintro ⟨name, hname, h⟩
    rcases result_knownZone_eq_ok.mp h with ⟨⟨z, hz⟩, rfl⟩ | ⟨hunknown, rfl⟩
    · exact .known (zoneName_eq_ok.mp hname) hz
    · exact .unknown (zoneName_eq_ok.mp hname) hunknown
  · intro h
    cases h with
    | known hname hz =>
      exact ⟨_, zoneName_eq_ok.mpr hname, result_knownZone_eq_ok.mpr (.inl ⟨⟨_, hz⟩, rfl⟩)⟩
    | unknown hname hunknown =>
      exact ⟨_, zoneName_eq_ok.mpr hname, result_knownZone_eq_ok.mpr (.inr ⟨hunknown, rfl⟩)⟩

theorem result_zone_eq_error :
    (Config.zone (some v)).result = .error err ↔ Setting.zone.Refuses v err := by
  unfold Config.zone
  rw [Outcome.result_bind_eq_error]
  constructor
  · rintro (h | ⟨name, hname, h⟩)
    · obtain ⟨hgiven, hlong, rfl⟩ := zoneName_eq_error.mp h
      exact .longZone hgiven hlong
    · rcases result_knownZone_eq_error.mp h with ⟨harea, rfl⟩ | ⟨hlong, rfl⟩
      · exact .area (zoneName_eq_ok.mp hname) harea
      · exact .nameTooLong (zoneName_eq_ok.mp hname) hlong
  · intro h
    cases h with
    | longZone hgiven hlong => exact .inl (zoneName_eq_error.mpr ⟨hgiven, hlong, rfl⟩)
    | area hname harea =>
      exact .inr ⟨_, zoneName_eq_ok.mpr hname, result_knownZone_eq_error.mpr (.inl ⟨harea, rfl⟩)⟩
    | nameTooLong hname hlong =>
      exact .inr ⟨_, zoneName_eq_ok.mpr hname, result_knownZone_eq_error.mpr (.inr ⟨hlong, rfl⟩)⟩

/-! ## The log level -/

theorem level_of_ne_null (h : v ≠ .null) : level (some v) = v.written.map Text.upper := by
  unfold level
  split <;> simp_all

theorem level_eq_ok {s : Text} : level (some v) = .ok s ↔ Setting.logLevel.Gives v (.text s) := by
  constructor
  · intro h
    by_cases hnull : v = .null
    · subst hnull
      cases h
      exact .noLevel
    · rw [level_of_ne_null hnull, except_map_eq_ok] at h
      obtain ⟨t, ht, rfl⟩ := h
      exact .level hnull (Value.written_eq_ok.mp ht)
  · intro h
    cases h with
    | level hnull ht =>
      rw [level_of_ne_null hnull, except_map_eq_ok]
      exact ⟨_, Value.written_eq_ok.mpr ht, rfl⟩
    | noLevel => rfl

theorem level_eq_error : level (some v) = .error err ↔ Setting.logLevel.Refuses v err := by
  constructor
  · intro h
    by_cases hnull : v = .null
    · subst hnull
      cases h
    · rw [level_of_ne_null hnull, except_map_eq_error] at h
      obtain ⟨hlong, rfl⟩ := Value.written_eq_error.mp h
      exact .longLevel hlong
  · intro h
    cases h with
    | longLevel hlong =>
      have hnull : v ≠ .null := by
        rintro rfl
        cases hlong
      rw [level_of_ne_null hnull, except_map_eq_error]
      exact Value.written_eq_error.mpr ⟨hlong, rfl⟩

/-! ## Entries that are missing -/

theorem window_eq (v : Option Value) : window v = window (some (v.getD (.int standardWindow))) := by
  cases v <;> rfl

theorem zone_eq (v : Option Value) :
    Config.zone v = Config.zone (some (v.getD (.text standardZone))) := by
  cases v <;> rfl

theorem level_eq (v : Option Value) : level v = level (some (v.getD (.text standardLevel))) := by
  cases v <;> rfl

end Config

/-! ## All settings -/

namespace Setting
open Config
variable {f : Setting} {v w w' : Value} {err : Error}

/-- The setting as it is made of a value. -/
def read (f : Setting) (v : Value) : Except Error Value :=
  match f with
  | .windowDays => (window (some v)).result.map .int
  | .zone => (Config.zone (some v)).result.map .text
  | .logLevel => (level (some v)).map .text

theorem read_eq_ok : f.read v = .ok w ↔ f.Gives v w := by
  cases f with
  | windowDays =>
    simp only [read, except_map_eq_ok, result_window_eq_ok]
    constructor
    · rintro ⟨days, h, rfl⟩
      exact h
    · intro h
      cases h with
      | integer hn => exact ⟨_, .integer hn, rfl⟩
      | notInteger hn => exact ⟨_, .notInteger hn, rfl⟩
  | zone =>
    simp only [read, except_map_eq_ok, result_zone_eq_ok]
    constructor
    · rintro ⟨name, h, rfl⟩
      exact h
    · intro h
      cases h with
      | known hname hz => exact ⟨_, .known hname hz, rfl⟩
      | unknown hname hunknown => exact ⟨_, .unknown hname hunknown, rfl⟩
  | logLevel =>
    simp only [read, except_map_eq_ok, level_eq_ok]
    constructor
    · rintro ⟨s, h, rfl⟩
      exact h
    · intro h
      cases h with
      | level hnull hs => exact ⟨_, .level hnull hs, rfl⟩
      | noLevel => exact ⟨_, .noLevel, rfl⟩

theorem read_eq_error : f.read v = .error err ↔ f.Refuses v err := by
  cases f <;>
    simp only [read, except_map_eq_error, result_window_eq_error, result_zone_eq_error,
      level_eq_error]

/-- A value makes at most one setting. -/
theorem Gives.unique (h : f.Gives v w) (h' : f.Gives v w') : w = w' :=
  Except.ok.inj ((read_eq_ok.mpr h).symm.trans (read_eq_ok.mpr h'))

/-- A value makes a setting unless it is refused. -/
theorem exists_gives_iff : (∃ w, f.Gives v w) ↔ ∀ err, ¬ f.Refuses v err := by
  simp only [← read_eq_ok, ← read_eq_error]
  cases f.read v <;> simp

/-- The window is in its bounds. -/
theorem Gives.window_bounds {days : Int} (h : windowDays.Gives v (.int days)) :
    1 ≤ days ∧ days ≤ longestWindow := by
  unfold longestWindow
  cases h with
  | integer =>
    unfold longestWindow
    omega
  | notInteger =>
    unfold standardWindow
    omega

/-- The zone is known. -/
theorem Gives.exists_find {name : Text} (h : zone.Gives v (.text name)) :
    ∃ z, Zone.find name = .ok z := by
  cases h with
  | known _ hz => exact ⟨_, hz⟩
  | unknown => exact exists_find_standardZone

/-- The level is in upper case. -/
theorem Gives.upper_eq {s : Text} (h : logLevel.Gives v (.text s)) : s.upper = s := by
  cases h with
  | level => exact Text.upper_upper _
  | noLevel => rfl

end Setting

namespace Config
variable {es : ConfigEntries} {c : Config} {err : Error}

/-- A configuration is made if each of its settings is. -/
theorem result_ofEntries_eq_ok :
    (ofEntries es).result = .ok c ↔ ∀ f : Setting, f.Gives (f.valueIn es) (f.get c) := by
  unfold ofEntries
  rw [window_eq, zone_eq, level_eq]
  simp only [Outcome.result_bind_eq_ok]
  constructor
  · rintro ⟨days, hdays, name, hname, s, hs, h⟩ f
    cases h
    cases f with
    | windowDays => exact result_window_eq_ok.mp hdays
    | zone => exact result_zone_eq_ok.mp hname
    | logLevel => exact level_eq_ok.mp hs
  · intro h
    exact ⟨_, result_window_eq_ok.mpr (h .windowDays), _, result_zone_eq_ok.mpr (h .zone), _,
      level_eq_ok.mpr (h .logLevel), rfl⟩

theorem exists_refuses_of_eq_error (h : (ofEntries es).result = .error err) :
    ∃ f : Setting, f.Refuses (f.valueIn es) err := by
  unfold ofEntries at h
  rw [window_eq, zone_eq, level_eq] at h
  simp only [Outcome.result_bind_eq_error] at h
  rcases h with h | ⟨_, -, h | ⟨_, -, h | ⟨_, -, h⟩⟩⟩
  · exact ⟨.windowDays, result_window_eq_error.mp h⟩
  · exact ⟨.zone, result_zone_eq_error.mp h⟩
  · exact ⟨.logLevel, level_eq_error.mp h⟩
  · cases h

/-- **A configuration is made of any entries unless one of the three values is refused, and then
that refusal is the error.**  Its settings are made of the values, its window is in bounds, and its
zone is known. -/
theorem ofEntries_cases (es : ConfigEntries) :
    ((∃ c, (ofEntries es).result = .ok c) ↔ ∀ (f : Setting) err, ¬ f.Refuses (f.valueIn es) err) ∧
      (∀ err, (ofEntries es).result = .error err → ∃ f : Setting, f.Refuses (f.valueIn es) err) ∧
      ∀ c, (ofEntries es).result = .ok c →
        (∀ f : Setting, f.Gives (f.valueIn es) (f.get c)) ∧
          (1 ≤ c.windowDays ∧ c.windowDays ≤ longestWindow) ∧
          ∃ z, Zone.find c.defaultZone = .ok z := by
  refine ⟨⟨?_, ?_⟩, fun err => exists_refuses_of_eq_error, ?_⟩
  · rintro ⟨c, hc⟩ f
    exact Setting.exists_gives_iff.mp ⟨_, result_ofEntries_eq_ok.mp hc f⟩
  · intro h
    cases hr : (ofEntries es).result with
    | ok c => exact ⟨c, rfl⟩
    | error err =>
      obtain ⟨f, hf⟩ := exists_refuses_of_eq_error hr
      exact absurd hf (h f err)
  · intro c hc
    have hgives := result_ofEntries_eq_ok.mp hc
    exact ⟨hgives, (hgives .windowDays).window_bounds, (hgives .zone).exists_find⟩

/-- A file can ask for an infinite window, and then there is no configuration. -/
theorem ofEntries_infiniteWindow :
    ∃ es, (entries (.ofText "a.json".toList)
        (.file "\x7b\"window_days\": Infinity\x7d".toList)).result = .ok es ∧
      es = [(.text "window_days".toList, .float (.infinite false))] ∧
      (ofEntries es).result = .error .infiniteInteger :=
  ⟨_, by rfl, rfl, by rfl⟩

end Config

end Recurrence
