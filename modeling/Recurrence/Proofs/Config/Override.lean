import Recurrence.Proofs.Config.Settings

/-! # Settings decided one by one

A setting is decided by one value: that of its variable, if it is set, else that of its
entry, else the default (`Setting.decidedBy`).  A variable takes the place of its own
entry and of no other (`valueIn_override`), so that what the file and the environment
hold for one setting says nothing about another.

A configuration that is written out as entries is read back as it is, without a warning
(`ofEntries_toEntries`): its window is in bounds, its zone is known, and its level is in
upper case already.
-/
namespace Recurrence

namespace Setting
open Config

/-- The name of the variable. -/
def variableName : Setting → String
  | .windowDays => "RRULE_LITE_WINDOW_DAYS"
  | .zone => "RRULE_LITE_TIMEZONE"
  | .logLevel => "RRULE_LITE_LOG_LEVEL"

/-- The value that decides a setting. -/
def decidedBy (f : Setting) (settings : List (Text × Text)) (entries : ConfigEntries) : Value :=
  match Environment.value? settings f.variableName with
  | some s => .text s
  | none => f.valueIn entries

end Setting

namespace Config
variable {name other : String} {v : Value} {es : ConfigEntries} {c : Config}

/-- The entries that hold the settings as they are. -/
def toEntries (c : Config) : ConfigEntries :=
  [Setting.windowDays, .zone, .logLevel].map fun f => (.text f.key.toList, f.get c)

/-! ## A variable in the place of an entry -/

theorem isKey_eq_true {k : Value} : isKey name k = true ↔ k = .text name.toList := by
  unfold isKey
  split <;> simp_all

theorem lookup?_cons (k v : Value) :
    lookup? name ((k, v) :: es) = if isKey name k then some v else lookup? name es := by
  unfold lookup?
  cases h : isKey name k <;> simp [h]

theorem lookup?_setEntry_self : lookup? name (setEntry name v es) = some v := by
  induction es with
  | nil => simp [setEntry, lookup?_cons, isKey]
  | cons e es ih =>
    obtain ⟨k, old⟩ := e
    unfold setEntry
    split <;> rename_i hk <;> simp [lookup?_cons, hk, ih]

theorem lookup?_setEntry_of_ne (h : name ≠ other) :
    lookup? other (setEntry name v es) = lookup? other es := by
  have hkey : ∀ k, isKey name k = true → isKey other k = false := by
    intro k hk
    obtain rfl := isKey_eq_true.mp hk
    simpa [isKey, String.toList_inj] using h
  induction es with
  | nil =>
    have hname := hkey (.text name.toList) (isKey_eq_true.mpr rfl)
    simp [setEntry, lookup?_cons, hname]
  | cons e es ih =>
    obtain ⟨k, old⟩ := e
    unfold setEntry
    split
    · rename_i hk
      simp [lookup?_cons, hkey k hk]
    · simp [lookup?_cons, ih]

theorem lookup?_overrideEntry_self (setting : Option Text) :
    lookup? name (overrideEntry name setting es) = (setting.map .text).or (lookup? name es) := by
  cases setting with
  | none => rfl
  | some s => exact lookup?_setEntry_self

theorem lookup?_overrideEntry_of_ne (h : name ≠ other) (setting : Option Text) :
    lookup? other (overrideEntry name setting es) = lookup? other es := by
  cases setting with
  | none => rfl
  | some s => exact lookup?_setEntry_of_ne h

theorem lookup?_override (f : Setting) (settings : List (Text × Text)) :
    lookup? f.key (override (.ofVariables settings) es) =
      ((Environment.value? settings f.variableName).map .text).or (lookup? f.key es) := by
  unfold override Environment.ofVariables
  -- Each variable is put in its own place; the others leave that place alone.
  cases f <;> unfold Setting.key Setting.variableName
  · rw [lookup?_overrideEntry_of_ne (by decide), lookup?_overrideEntry_self,
      lookup?_overrideEntry_of_ne (by decide)]
  · rw [lookup?_overrideEntry_of_ne (by decide), lookup?_overrideEntry_of_ne (by decide),
      lookup?_overrideEntry_self]
  · rw [lookup?_overrideEntry_self, lookup?_overrideEntry_of_ne (by decide),
      lookup?_overrideEntry_of_ne (by decide)]

theorem valueIn_override (f : Setting) (settings : List (Text × Text)) :
    f.valueIn (override (.ofVariables settings) es) = f.decidedBy settings es := by
  unfold Setting.valueIn Setting.decidedBy
  rw [lookup?_override]
  cases Environment.value? settings f.variableName <;> rfl

theorem result_load_eq_ok {path : Path} {found : FileEntry} {settings : List (Text × Text)} :
    (load path found (.ofVariables settings)).result = .ok c ↔
      ∃ es, (entries path found).result = .ok es ∧
        ∀ f : Setting, f.Gives (f.decidedBy settings es) (f.get c) := by
  unfold load
  simp only [Outcome.result_bind_eq_ok, result_ofEntries_eq_ok, valueIn_override]

/-! ## Settings read back -/

theorem bounded_of_le {days : Int} (hlow : 1 ≤ days) (hhigh : days ≤ longestWindow) :
    bounded days = pure days := by
  unfold bounded
  rw [if_neg (by omega), if_neg (by omega)]

theorem window_int {days : Int} (hlow : 1 ≤ days) (hhigh : days ≤ longestWindow) :
    window (some (.int days)) = pure days :=
  (Outcome.ok_andThen _ _).trans (bounded_of_le hlow hhigh)

theorem zone_text {name : Text} {z : Zone} (h : Zone.find name = .ok z) :
    Config.zone (some (.text name)) = pure name := by
  have hname : zoneName (some (.text name)) = .ok name := by
    cases name with
    | nil => cases h
    | cons => rfl
  have hknown : knownZone name = pure name := by
    unfold knownZone
    rw [h]
  unfold Config.zone
  rw [hname]
  exact (Outcome.ok_andThen _ _).trans hknown

theorem level_text {s : Text} (h : s.upper = s) : level (some (.text s)) = .ok s :=
  congrArg Except.ok h

/-- A configuration is read back as it is, without a warning. -/
theorem ofEntries_toEntries {z : Zone} (hlow : 1 ≤ c.windowDays)
    (hhigh : c.windowDays ≤ longestWindow) (hzone : Zone.find c.defaultZone = .ok z)
    (hlevel : c.logLevel.upper = c.logLevel) : ofEntries c.toEntries = pure c := by
  have hwindow : lookup? "window_days" c.toEntries = some (.int c.windowDays) := rfl
  have hname : lookup? "default_timezone" c.toEntries = some (.text c.defaultZone) := rfl
  have hlog : lookup? "log_level" c.toEntries = some (.text c.logLevel) := rfl
  unfold ofEntries
  rw [hwindow, hname, hlog, window_int hlow hhigh, zone_text hzone, level_text hlevel]
  rfl

/-- **Each setting of a configuration is decided by its own variable and entry, and the
configuration is read back as it is.** -/
theorem load_eq_ok {path : Path} {found : FileEntry} {settings : List (Text × Text)} {c : Config}
    (h : (load path found (.ofVariables settings)).result = .ok c) :
    (∃ es, (entries path found).result = .ok es ∧
      (∀ f : Setting, f.Gives (f.decidedBy settings es) (f.get c)) ∧
      ∀ {path' found' settings' es' c'}, (entries path' found').result = .ok es' →
        (load path' found' (.ofVariables settings')).result = .ok c' → ∀ f : Setting,
          Environment.value? settings f.variableName =
            Environment.value? settings' f.variableName →
          lookup? f.key es = lookup? f.key es' → f.get c = f.get c') ∧
    (ofEntries c.toEntries).result = .ok c ∧ (ofEntries c.toEntries).warnings = [] := by
  obtain ⟨es, hes, hgives⟩ := result_load_eq_ok.mp h
  refine ⟨⟨es, hes, hgives, ?_⟩, ?_⟩
  · intro path' found' settings' es' c' hes' h' f hvariable hentry
    obtain ⟨es'', hes'', hgives'⟩ := result_load_eq_ok.mp h'
    obtain rfl : es' = es'' := Except.ok.inj (hes'.symm.trans hes'')
    have hsame : f.decidedBy settings es = f.decidedBy settings' es' := by
      unfold Setting.decidedBy Setting.valueIn
      rw [hvariable, hentry]
    exact (hgives f).unique (hsame ▸ hgives' f)
  · obtain ⟨hlow, hhigh⟩ := (hgives .windowDays).window_bounds
    obtain ⟨z, hz⟩ := (hgives .zone).exists_find
    rw [ofEntries_toEntries hlow hhigh hz (hgives .logLevel).upper_eq]
    exact ⟨rfl, rfl⟩

set_option maxRecDepth 100000 in
/-- A file gives the window and the zone, and a variable the level; all three are read back. -/
theorem load_eq_ok_tokyo :
    ∃ c es, (load (.ofText "a.json".toList)
        (.file "\x7b\"window_days\": 9999, \"default_timezone\": \"Asia/Tokyo\"\x7d".toList)
        (.ofVariables [("RRULE_LITE_LOG_LEVEL".toList, "straße".toList)])).result = .ok c ∧
      Setting.windowDays.Gives
        (Setting.windowDays.decidedBy [("RRULE_LITE_LOG_LEVEL".toList, "straße".toList)] es)
        (.int 3660) ∧
      Setting.zone.Gives
        (Setting.zone.decidedBy [("RRULE_LITE_LOG_LEVEL".toList, "straße".toList)] es)
        (.text "Asia/Tokyo".toList) ∧
      (ofEntries [(.text "window_days".toList, .int 3660),
        (.text "default_timezone".toList, .text "Asia/Tokyo".toList),
        (.text "log_level".toList, .text "STRASSE".toList)]).result = .ok c := by
  have hentries : (entries (.ofText "a.json".toList)
      (.file "\x7b\"window_days\": 9999, \"default_timezone\": \"Asia/Tokyo\"\x7d".toList)).result =
        .ok [(.text "window_days".toList, .int 9999),
          (.text "default_timezone".toList, .text "Asia/Tokyo".toList)] := by
    rfl
  have h : (load (.ofText "a.json".toList)
      (.file "\x7b\"window_days\": 9999, \"default_timezone\": \"Asia/Tokyo\"\x7d".toList)
      (.ofVariables [("RRULE_LITE_LOG_LEVEL".toList, "straße".toList)])).result =
        .ok ⟨"Asia/Tokyo".toList, 3660, "STRASSE".toList⟩ :=
    Outcome.result_bind_eq_ok.mpr ⟨_, hentries, by rfl⟩
  obtain ⟨⟨es, -, hgives, -⟩, hback, -⟩ := load_eq_ok h
  exact ⟨_, es, h, hgives .windowDays, hgives .zone, hback⟩

end Config

end Recurrence
