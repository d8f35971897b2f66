import CodeGauge.Config
import CodeGauge.Proofs.Text.Integer

/-!
Settings from environment variables. There are settings exactly when every value says what it
should, a value that is left out saying its default. Otherwise the answer is the first fault: the
unit size is read ahead of the toggles, but only behind them it is asked whether it is positive, and
the log level is looked at last.
-/
namespace CodeGauge

theorem bind_eq_ok_iff {α β ε : Type} {x : Except ε α} {f : α → Except ε β} {b : β} :
    x >>= f = .ok b ↔ ∃ a, x = .ok a ∧ f a = .ok b := by
  cases x <;> simp [bind, Except.bind]

theorem bind_eq_error_iff {α β ε : Type} {x : Except ε α} {f : α → Except ε β} {e : ε} :
    x >>= f = .error e ↔ x = .error e ∨ ∃ a, x = .ok a ∧ f a = .error e := by
  cases x <;> simp [bind, Except.bind]

/-! What the single values say. -/

/-- The text is one of the words for a boolean, in any case and with blanks around it. -/
def Spells (text : Text) (on : Bool) : Prop :=
  text.trim.lower ∈ if on then trueWords else falseWords

theorem parseBool_eq_ok_iff {setting text : Text} {on : Bool} :
    parseBool setting text = .ok on ↔ Spells text on := by
  have hdisjoint : ∀ word ∈ trueWords, word ∉ falseWords := by decide
  by_cases htrue : text.trim.lower ∈ trueWords
  · have hfalse := hdisjoint _ htrue
    cases on <;> simp [parseBool, Spells, htrue, hfalse]
  · by_cases hfalse : text.trim.lower ∈ falseWords
    · cases on <;> simp [parseBool, Spells, htrue, hfalse]
    · cases on <;> simp [parseBool, Spells, htrue, hfalse]

theorem parseBool_eq_error_iff {setting text : Text} {e : ConfigError} :
    parseBool setting text = .error e ↔
      (∀ on, ¬Spells text on) ∧ e = .notABoolean setting text := by
  have hspells : (∀ on, ¬Spells text on) ↔
      text.trim.lower ∉ falseWords ∧ text.trim.lower ∉ trueWords := Bool.forall_bool
  rw [hspells]
  by_cases htrue : text.trim.lower ∈ trueWords
  · simp [parseBool, htrue]
  · by_cases hfalse : text.trim.lower ∈ falseWords
    · simp [parseBool, htrue, hfalse]
    · simp [parseBool, htrue, hfalse, eq_comm]

namespace LogLevel

theorem label_injective : Function.Injective label := by
  intro level level' h
  cases level <;> cases level' <;> first | rfl | exact absurd h (by decide)

theorem mem_all (level : LogLevel) : level ∈ all := by
  cases level <;> decide

theorem parse_eq_ok_iff {text : Text} {level : LogLevel} :
    parse text = .ok level ↔ text.upper = level.label := by
  rw [parse]
  cases hfind : all.find? (·.label = text.upper) with
  | none =>
    have hunknown := List.find?_eq_none.mp hfind level level.mem_all
    simp only [decide_eq_true_eq] at hunknown
    simp [Ne.symm hunknown]
  | some found =>
    have hfound := List.find?_some hfind
    simp only [decide_eq_true_eq] at hfound
    simp only [Except.ok.injEq, ← hfound]
    exact label_injective.eq_iff.symm

theorem parse_eq_error_iff {text : Text} {e : ConfigError} :
    parse text = .error e ↔
      (∀ level : LogLevel, text.upper ≠ level.label) ∧ e = .unknownLogLevel text.upper := by
  cases hparse : parse text with
  | ok level => simpa using fun hno => absurd (parse_eq_ok_iff.mp hparse) (hno level)
  | error e' =>
    have hunknown : ∀ level : LogLevel, text.upper ≠ level.label := by
      intro level hlevel
      rw [← parse_eq_ok_iff, hparse] at hlevel
      exact absurd hlevel (by simp)
    have he' : e' = .unknownLogLevel text.upper := by
      rw [parse] at hparse
      split at hparse
      · exact absurd hparse (by simp)
      · exact (Except.error.inj hparse).symm
    simp only [he', Except.error.injEq, eq_comm]
    exact (and_iff_right hunknown).symm

end LogLevel

/-! What an environment says about each setting. -/

namespace Setting

def toggles : List Text :=
  [complexity, performance, security]

end Setting

namespace AnalyzerConfig

section Environment

variable (env : Environment)

def sizeText : Text :=
  (env.lookup Setting.maxUnitSize).getD "10000"

def toggleText (setting : Text) : Text :=
  (env.lookup setting).getD "true"

def levelText : Text :=
  (env.lookup Setting.logLevel).getD "WARNING"

/-- The settings are what the texts say. -/
structure Describes (config : AnalyzerConfig) : Prop where
  size : Numeral.Denotes (sizeText env) config.maxUnitSize
  size_pos : 0 < config.maxUnitSize
  complexity : Spells (toggleText env Setting.complexity) config.options.complexity
  performance : Spells (toggleText env Setting.performance) config.options.performance
  security : Spells (toggleText env Setting.security) config.options.security
  level : (levelText env).upper = config.logLevel.label

/-- A value that does not say what it should, at its place in the order in which the values are
looked at. -/
inductive Fault : Nat → ConfigError → Prop where
  | size : (∀ n, ¬Numeral.Denotes (sizeText env) n) →
      Fault 0 (.notAnInteger Setting.maxUnitSize (sizeText env))
  | toggle {i : Nat} {setting : Text} : Setting.toggles[i]? = some setting →
      (∀ on, ¬Spells (toggleText env setting) on) →
      Fault (i + 1) (.notABoolean setting (toggleText env setting))
  | sizeNotPositive {n : Int} : Numeral.Denotes (sizeText env) n → n ≤ 0 →
      Fault 4 (.unitSizeNotPositive n)
  | level : (∀ level : LogLevel, (levelText env).upper ≠ level.label) →
      Fault 5 (.unknownLogLevel (levelText env).upper)

/-- No value ahead of a place has a fault. -/
def ClearUpTo (place : Nat) : Prop :=
  ∀ place' e, Fault env place' e → place ≤ place'

/-- A fault with none ahead of it. -/
def FirstFault (e : ConfigError) : Prop :=
  ∃ place, Fault env place e ∧ ClearUpTo env place

end Environment

section Reading

variable {env : Environment}

theorem sizeFrom_eq : sizeFrom env = (Numeral.parse (sizeText env)).mapError fun _ =>
    .notAnInteger Setting.maxUnitSize (sizeText env) := by
  have hdefault : Numeral.parse "10000" = .ok defaultMaxUnitSize := by rfl
  cases h : env.lookup Setting.maxUnitSize with
  | none =>
    simp only [sizeFrom, sizeText, h, Option.getD_none, hdefault]
    rfl
  | some value =>
    simp only [sizeFrom, sizeText, h, Option.getD_some]
    cases Numeral.parse value <;> rfl

theorem toggleFrom_eq (setting : Text) :
    toggleFrom env setting = parseBool setting (toggleText env setting) := by
  have hdefault : parseBool setting "true" = .ok true := by rfl
  cases h : env.lookup setting with
  | none => rw [toggleFrom, toggleText, h, Option.getD_none, hdefault]
  | some value => rw [toggleFrom, toggleText, h, Option.getD_some]

theorem sizeFrom_eq_ok_iff {n : Int} :
    sizeFrom env = .ok n ↔ Numeral.Denotes (sizeText env) n := by
  rw [sizeFrom_eq, ← Numeral.parse_eq_ok_iff]
  cases Numeral.parse (sizeText env) <;> simp [Except.mapError]

theorem sizeFrom_eq_error_iff {e : ConfigError} :
    sizeFrom env = .error e ↔ (∀ n, ¬Numeral.Denotes (sizeText env) n) ∧
      e = .notAnInteger Setting.maxUnitSize (sizeText env) := by
  simp only [sizeFrom_eq, ← Numeral.parse_eq_ok_iff]
  cases Numeral.parse (sizeText env) <;> simp [Except.mapError, eq_comm]

theorem validated_eq (n : Int) (options : AnalysisOptions) (text : Text) :
    validated n options text =
      if n ≤ 0 then .error (.unitSizeNotPositive n)
      else LogLevel.parse text >>= fun level =>
        .ok { maxUnitSize := n, options, logLevel := level } := by
  rw [validated]
  split_ifs <;> rfl

theorem validated_eq_ok_iff {n : Int} {options : AnalysisOptions} {text : Text}
    {config : AnalyzerConfig} : validated n options text = .ok config ↔
      0 < n ∧ config.maxUnitSize = n ∧ config.options = options ∧
        text.upper = config.logLevel.label := by
  rw [validated_eq]
  split_ifs with hn
  · simp [Int.not_lt.mpr hn]
  · simp only [bind_eq_ok_iff, LogLevel.parse_eq_ok_iff, Except.ok.injEq, Int.not_le.mp hn,
      true_and]
    constructor
    · rintro ⟨level, hlevel, rfl⟩
      exact ⟨rfl, rfl, hlevel⟩
    · rintro ⟨rfl, rfl, hlevel⟩
      exact ⟨config.logLevel, hlevel, rfl⟩

theorem validated_eq_error_iff {n : Int} {options : AnalysisOptions} {text : Text}
    {e : ConfigError} : validated n options text = .error e ↔
      n ≤ 0 ∧ e = .unitSizeNotPositive n ∨
        0 < n ∧ (∀ level : LogLevel, text.upper ≠ level.label) ∧
          e = .unknownLogLevel text.upper := by
  rw [validated_eq]
  split_ifs with hn
  · simp [hn, Int.not_lt.mpr hn, eq_comm]
  · simp [bind_eq_error_iff, LogLevel.parse_eq_error_iff, hn, Int.not_le.mp hn]

/-- There are settings exactly when the texts describe some, and then these. -/
theorem ofEnvironment_eq_ok_iff {config : AnalyzerConfig} :
    ofEnvironment env = .ok config ↔ Describes env config := by
  simp only [ofEnvironment, bind_eq_ok_iff, sizeFrom_eq_ok_iff, toggleFrom_eq,
    parseBool_eq_ok_iff, validated_eq_ok_iff]
  constructor
  · rintro ⟨n, hsize, complexity, hcomplexity, performance, hperformance, security, hsecurity,
      hpos, rfl, hoptions, hlevel⟩
    obtain ⟨size, options, level⟩ := config
    obtain rfl : options = { complexity, performance, security } := hoptions
    exact ⟨hsize, hpos, hcomplexity, hperformance, hsecurity, hlevel⟩
  · intro h
    exact ⟨_, h.size, _, h.complexity, _, h.performance, _, h.security, h.size_pos, rfl, rfl,
      h.level⟩

/-! The first fault. -/

theorem Describes.not_fault {config : AnalyzerConfig} (h : Describes env config) {place : Nat}
    {e : ConfigError} : ¬Fault env place e := by
  have htoggles : ∀ setting ∈ Setting.toggles, ∃ on, Spells (toggleText env setting) on := by
    intro setting hsetting
    simp only [Setting.toggles, List.mem_cons, List.not_mem_nil, or_false] at hsetting
    rcases hsetting with rfl | rfl | rfl
    · exact ⟨_, h.complexity⟩
    · exact ⟨_, h.performance⟩
    · exact ⟨_, h.security⟩
  intro hfault
  cases hfault with
  | size hno => exact hno _ h.size
  | toggle hsetting hno =>
    obtain ⟨on, hon⟩ := htoggles _ (List.mem_of_getElem? hsetting)
    exact hno on hon
  | sizeNotPositive hn hle => exact Int.not_le.mpr h.size_pos (h.size.unique hn ▸ hle)
  | level hno => exact hno _ h.level

/-- At one place there is only one fault. -/
theorem Fault.unique {place : Nat} {e e' : ConfigError} (h : Fault env place e)
    (h' : Fault env place e') : e = e' := by
  cases h with
  | size => cases h' with
    | size => rfl
  | toggle hsetting hno => cases h' with
    | toggle hsetting' => rw [Option.some.inj (hsetting.symm.trans hsetting')]
    | sizeNotPositive => cases hsetting
    | level => cases hsetting
  | sizeNotPositive hn hle => cases h' with
    | sizeNotPositive hn' => rw [hn.unique hn']
    | toggle hsetting' => cases hsetting'
  | level => cases h' with
    | level => rfl
    | toggle hsetting' => cases hsetting'

theorem clearUpTo_zero : ClearUpTo env 0 :=
  fun place _ _ => Nat.zero_le place

theorem ClearUpTo.succ {place : Nat} (h : ClearUpTo env place)
    (hno : ∀ e, ¬Fault env place e) : ClearUpTo env (place + 1) := by
  intro place' e hfault
  refine Nat.lt_of_le_of_ne (h place' e hfault) ?_
  rintro rfl
  exact hno e hfault

theorem ClearUpTo.size {n : Int} (h : Numeral.Denotes (sizeText env) n) : ClearUpTo env 1 := by
  refine clearUpTo_zero.succ fun e hfault => ?_
  cases hfault with
  | size hno => exact hno n h

theorem ClearUpTo.toggle {i : Nat} {setting : Text} {on : Bool} (h : ClearUpTo env (i + 1))
    (hsetting : Setting.toggles[i]? = some setting) (hon : Spells (toggleText env setting) on) :
    ClearUpTo env (i + 2) := by
  refine h.succ fun e hfault => ?_
  cases hfault with
  | toggle hsetting' hno =>
    obtain rfl := Option.some.inj (hsetting.symm.trans hsetting')
    exact hno on hon
  | sizeNotPositive => cases hsetting
  | level => cases hsetting

theorem ClearUpTo.sizePositive {n : Int} (h : ClearUpTo env 4)
    (hsize : Numeral.Denotes (sizeText env) n) (hpos : 0 < n) : ClearUpTo env 5 := by
  refine h.succ fun e hfault => ?_
  cases hfault with
  | toggle hsetting => cases hsetting
  | sizeNotPositive hn hle => exact Int.not_le.mpr hpos (hsize.unique hn ▸ hle)

theorem firstFault_of_ofEnvironment_eq_error {e : ConfigError}
    (h : ofEnvironment env = .error e) : FirstFault env e := by
  simp only [ofEnvironment, bind_eq_error_iff, sizeFrom_eq_ok_iff, sizeFrom_eq_error_iff,
    toggleFrom_eq, parseBool_eq_ok_iff, parseBool_eq_error_iff, validated_eq_error_iff] at h
  rcases h with ⟨hno, rfl⟩ | ⟨n, hsize, h⟩
  · exact ⟨0, .size hno, clearUpTo_zero⟩
  have hclear := ClearUpTo.size hsize
  rcases h with ⟨hno, rfl⟩ | ⟨complexity, hcomplexity, h⟩
  · exact ⟨1, .toggle rfl hno, hclear⟩
  replace hclear := hclear.toggle rfl hcomplexity
  rcases h with ⟨hno, rfl⟩ | ⟨performance, hperformance, h⟩
  · exact ⟨2, .toggle rfl hno, hclear⟩
  replace hclear := hclear.toggle rfl hperformance
  rcases h with ⟨hno, rfl⟩ | ⟨security, hsecurity, h⟩
  · exact ⟨3, .toggle rfl hno, hclear⟩
  replace hclear := hclear.toggle rfl hsecurity
  rcases h with ⟨hle, rfl⟩ | ⟨hpos, hno, rfl⟩
  · exact ⟨4, .sizeNotPositive hsize hle, hclear⟩
  · exact ⟨5, .level hno, hclear.sizePositive hsize hpos⟩

theorem FirstFault.unique {e e' : ConfigError} (h : FirstFault env e) (h' : FirstFault env e') :
    e = e' := by
  obtain ⟨place, hfault, hclear⟩ := h
  obtain ⟨place', hfault', hclear'⟩ := h'
  obtain rfl := Nat.le_antisymm (hclear place' e' hfault') (hclear' place e hfault)
  exact hfault.unique hfault'

/-- Without settings the answer is the first fault. -/
theorem ofEnvironment_eq_error_iff {e : ConfigError} :
    ofEnvironment env = .error e ↔ FirstFault env e := by
  refine ⟨firstFault_of_ofEnvironment_eq_error, fun h => ?_⟩
  cases hread : ofEnvironment env with
  | ok config =>
    obtain ⟨place, hfault, -⟩ := h
    exact absurd hfault (ofEnvironment_eq_ok_iff.mp hread).not_fault
  | error e' => rw [h.unique (firstFault_of_ofEnvironment_eq_error hread)]

end Reading

/-- The answer for every environment. -/
theorem ofEnvironment_describes_or_first_fault (env : Environment) :
    (∀ config, ofEnvironment env = .ok config ↔ Describes env config) ∧
      ∀ e, ofEnvironment env = .error e ↔ FirstFault env e :=
  ⟨fun _ => ofEnvironment_eq_ok_iff, fun _ => ofEnvironment_eq_error_iff⟩

example :
    ofEnvironment [(Setting.maxUnitSize, "0"), (Setting.security, "maybe")] =
      .error (.notABoolean Setting.security "maybe") := by
  decide +kernel

end AnalyzerConfig

end CodeGauge
