import Mathlib.Data.List.Basic
import QueryCompletion.Proofs.Lookup
import QueryCompletion.Session.Basic

/-!
Settings that can always be had. Every option is read on its own: what is under the spelling in use decides
about it, and a refused option is logged once and falls back to its default without touching the others.
-/

namespace QueryCompletion

open Json (Checked Issue IssueKind)

namespace Json.Checked

variable {α β : Type}

/-- A value, or one issue with what was read as a whole. -/
inductive Simple : Checked α → Prop
  | ok (value : α) : Simple (.ok value)
  | fail (kind : IssueKind) : Simple (fail kind)

/-- What is wrong, if anything is. -/
def fault? : Checked α → Option IssueKind
  | .ok _ => none
  | .error issues => issues.head?.map Issue.kind

def issues : Checked α → List Issue
  | .ok _ => []
  | .error issues => issues

@[simp] theorem issues_both (first : Checked α) (second : Checked β) :
    issues (first.both second) = issues first ++ issues second := by
  cases first <;> cases second <;> simp [both, issues]

@[simp] theorem issues_map (change : α → β) (checked : Checked α) : issues (checked.map change) = issues checked := by
  cases checked <;> rfl

theorem Simple.cases {checked : Checked α} (simple : Simple checked) :
    (∃ value, checked = .ok value) ∨ ∃ kind, checked = Checked.fail kind := by
  cases simple with
  | ok value => exact Or.inl ⟨value, rfl⟩
  | fail kind => exact Or.inr ⟨kind, rfl⟩

theorem simple_ofOption (kind : IssueKind) (value : Option α) : Simple (ofOption kind value) := by
  cases value with
  | none => exact .fail kind
  | some value => exact .ok value

theorem Simple.map {checked : Checked α} (simple : Simple checked) (change : α → β) :
    Simple (checked.map change : Checked β) := by
  cases simple with
  | ok value => exact .ok _
  | fail kind => exact .fail kind

theorem Simple.bind {checked : Checked α} (simple : Simple checked) {next : α → Checked β}
    (each : ∀ value, Simple (next value)) : Simple (checked >>= next) := by
  cases simple with
  | ok value => exact each value
  | fail kind => exact .fail kind

end Json.Checked

namespace Json

open Checked (Simple simple_ofOption)

theorem simple_checkBool (value : Json) : Simple (checkBool value) := by
  unfold checkBool
  split
  · exact .ok _
  · split
    · exact simple_ofOption _ _
    · exact .fail _
  · exact simple_ofOption _ _
  · split
    · split
      · exact simple_ofOption _ _
      · exact .fail _
    · exact .fail _
  · exact .fail _

theorem simple_checkInt (value : Json) : Simple (checkInt value) := by
  unfold checkInt
  split
  · exact .ok _
  · exact .ok _
  · split
    · split
      · split
        · exact .ok _
        · exact .fail _
      · exact .fail _
    · exact .fail _
  · split
    · exact .ok _
    · exact .fail _
    · exact .fail _
  · exact .fail _

theorem simple_checkPositiveInt (value : Json) : Simple (checkPositiveInt value) := by
  refine (simple_checkInt value).bind fun n => ?_
  split
  · exact .ok _
  · exact .fail _

theorem simple_checkTextOrNull (value : Json) : Simple (checkTextOrNull value) := by
  unfold checkTextOrNull
  split
  · exact .ok _
  · refine Simple.map ?_ some
    unfold checkText
    split
    · exact .ok _
    · exact .fail _

theorem simple_checkNumber (value : Json) : Simple (checkNumber value) := by
  unfold checkNumber
  split
  · exact .ok _
  · exact simple_ofOption _ _
  · exact .ok _
  · exact simple_ofOption _ _
  · exact .fail _

theorem simple_checkNonNegative (value : Json) : Simple (checkNonNegative value) := by
  refine (simple_checkNumber value).bind fun x => ?_
  split
  · exact .ok _
  · exact .fail _

theorem simple_checkPositive (value : Json) : Simple (checkPositive value) := by
  refine (simple_checkNumber value).bind fun x => ?_
  split
  · exact .ok _
  · exact .fail _

theorem checkPositiveInt_pos {value : Json} {n : Nat} (read : checkPositiveInt value = .ok n) : 0 < n := by
  unfold checkPositiveInt at read
  cases whole : checkInt value with
  | error issues =>
    rw [whole] at read
    cases read
  | ok number =>
    rw [whole] at read
    by_cases positive : 0 < number
    · have same : n = number.toNat := by
        simpa [bind, Except.bind, positive, pure, Except.pure, eq_comm] using read
      omega
    · simp [bind, Except.bind, positive, Checked.fail] at read

end Json

namespace SettingName

def Value : SettingName → Type
  | .completionEnabled | .valuesCaseSensitive => Bool
  | .cacheSize => Nat
  | .syntaxHelpUrl => Option String
  | .fetchDelay | .requestTimeout => Binary64

/-- The value of an option in settings. -/
def value (settings : Settings) : (setting : SettingName) → setting.Value
  | .completionEnabled => settings.completionEnabled
  | .valuesCaseSensitive => settings.valuesCaseSensitive
  | .cacheSize => settings.cacheSize
  | .syntaxHelpUrl => settings.syntaxHelpUrl
  | .fetchDelay => settings.fetchDelay
  | .requestTimeout => settings.requestTimeout

/-- The check that the values given for an option have to pass. -/
def check : (setting : SettingName) → Json → Checked setting.Value
  | .completionEnabled => Json.checkBool
  | .valuesCaseSensitive => Json.checkBool
  | .cacheSize => Json.checkPositiveInt
  | .syntaxHelpUrl => Json.checkTextOrNull
  | .fetchDelay => Json.checkNonNegative
  | .requestTimeout => Json.checkPositive

/-- What is given for an option: the spelling in use, which is the preferred one if it is there, with the value
under it. -/
def given? (setting : SettingName) (members : List (String × Json)) : Option (String × Json) :=
  ((members.lookup setting.preferred).map (setting.preferred, ·)).or
    ((members.lookup setting.name).map (setting.name, ·))

/-- The value given for an option, converted; the default if none is given or if it is refused. -/
def recovered (setting : SettingName) (members : List (String × Json)) : setting.Value :=
  ((setting.given? members).bind fun given => (setting.check given.2).toOption).getD (setting.value {})

/-- The issue with an option. -/
def issue? (setting : SettingName) (members : List (String × Json)) : Option Issue :=
  (setting.given? members).bind fun given =>
    (setting.check given.2).fault?.map fun kind => ⟨[.name given.1], kind⟩

/-- What is logged about an option: one error if the value given for it is refused. -/
def complaint? (setting : SettingName) (members : List (String × Json)) : Option LogEntry :=
  (setting.given? members).bind fun given =>
    (setting.check given.2).fault?.map fun kind => ⟨.error, setting.refusal given.1 kind⟩

/-- Every option has either its value or one issue. -/
theorem simple_check (setting : SettingName) (value : Json) : (setting.check value).Simple := by
  cases setting with
  | completionEnabled => exact Json.simple_checkBool value
  | valuesCaseSensitive => exact Json.simple_checkBool value
  | cacheSize => exact Json.simple_checkPositiveInt value
  | syntaxHelpUrl => exact Json.simple_checkTextOrNull value
  | fetchDelay => exact Json.simple_checkNonNegative value
  | requestTimeout => exact Json.simple_checkPositive value

/-- Both spellings belong to their option. -/
theorem ofKey?_eq_some_iff {setting : SettingName} {key : String} :
    ofKey? key = some setting ↔ key = setting.name ∨ key = setting.preferred := by
  constructor
  · intro found
    have spells := List.find?_some found
    simp only [Bool.or_eq_true, decide_eq_true_eq] at spells
    exact spells.imp Eq.symm Eq.symm
  · rintro (rfl | rfl) <;> cases setting <;> decide

theorem given?_spells {setting : SettingName} {members : List (String × Json)} {given : String × Json}
    (found : setting.given? members = some given) : ofKey? given.1 = some setting := by
  rw [ofKey?_eq_some_iff]
  rcases Option.or_eq_some_iff.mp found with preferred | ⟨_, other⟩
  · obtain ⟨_, _, rfl⟩ := Option.map_eq_some_iff.mp preferred
    exact Or.inr rfl
  · obtain ⟨_, _, rfl⟩ := Option.map_eq_some_iff.mp other
    exact Or.inl rfl

theorem mem_all (setting : SettingName) : setting ∈ all := by
  cases setting <;> decide

/-- An option has its default, or the value that is read from what is given for it. -/
theorem recovered_cases (setting : SettingName) (members : List (String × Json)) :
    setting.recovered members = setting.value {} ∨
      ∃ given, setting.given? members = some given ∧ setting.check given.2 = .ok (setting.recovered members) := by
  unfold recovered
  cases found : setting.given? members with
  | none => exact Or.inl rfl
  | some given =>
    cases read : setting.check given.2 with
    | ok value => exact Or.inr ⟨given, rfl, by simp [read, Except.toOption]⟩
    | error issues => exact Or.inl (by simp [read, Except.toOption])

end SettingName

namespace Settings

variable {setting : SettingName} {members : List (String × Json)}

/-- Reads an option that has its default if nothing is given for it. -/
def readOption (members : List (String × Json)) (setting : SettingName) : Checked setting.Value :=
  checkOption members setting (setting.value {}) setting.check

/-- An option is read from what is given for it. -/
theorem readOption_eq (members : List (String × Json)) (setting : SettingName) :
    readOption members setting =
      match setting.given? members with
      | some given => (setting.check given.2).within (.name given.1)
      | none => .ok (setting.value {}) := by
  unfold readOption checkOption SettingName.spelling? SettingName.given? Json.checkMember
  cases preferred : members.lookup setting.preferred with
  | some value => simp [preferred]
  | none =>
    cases other : members.lookup setting.name with
    | some value => simp [other]
    | none => simp

theorem issues_readOption (members : List (String × Json)) (setting : SettingName) :
    (readOption members setting).issues = (setting.issue? members).toList := by
  rw [readOption_eq, SettingName.issue?]
  cases setting.given? members with
  | none => rfl
  | some given =>
    rw [Option.bind_some]
    dsimp only
    obtain ⟨value, read⟩ | ⟨kind, read⟩ := (setting.simple_check given.2).cases
    · rw [read]
      rfl
    · rw [read]
      rfl

theorem readOption_of_free (free : setting.issue? members = none) :
    readOption members setting = .ok (setting.recovered members) := by
  rw [SettingName.issue?] at free
  rw [readOption_eq, SettingName.recovered]
  cases found : setting.given? members with
  | none => rfl
  | some given =>
    rw [found, Option.bind_some, Option.map_eq_none_iff] at free
    rw [Option.bind_some]
    dsimp only
    obtain ⟨value, read⟩ | ⟨kind, read⟩ := (setting.simple_check given.2).cases
    · rw [read]
      rfl
    · rw [read] at free
      cases free

/-- A refused option has its default. -/
theorem recovered_of_issue {issue : Issue} (found : setting.issue? members = some issue) :
    setting.recovered members = setting.value {} := by
  obtain ⟨given, atKey, refused⟩ := Option.bind_eq_some_iff.mp found
  obtain ⟨kind, fault, _⟩ := Option.map_eq_some_iff.mp refused
  rw [SettingName.recovered, atKey, Option.bind_some]
  cases read : setting.check given.2 with
  | ok value =>
    rw [read] at fault
    cases fault
  | error issues => rfl

/-- Every option for itself: its value where one is given and accepted, else its default. -/
def perOption (members : List (String × Json)) : Settings where
  completionEnabled := SettingName.recovered .completionEnabled members
  valuesCaseSensitive := SettingName.recovered .valuesCaseSensitive members
  cacheSize := SettingName.recovered .cacheSize members
  syntaxHelpUrl := SettingName.recovered .syntaxHelpUrl members
  fetchDelay := SettingName.recovered .fetchDelay members
  requestTimeout := SettingName.recovered .requestTimeout members

theorem ofMembers_eq (members : List (String × Json)) :
    ofMembers members =
      ((readOption members .completionEnabled).both ((readOption members .valuesCaseSensitive).both
        ((readOption members .cacheSize).both ((readOption members .syntaxHelpUrl).both
          ((readOption members .fetchDelay).both (readOption members .requestTimeout)))))).map
        fun (completionEnabled, valuesCaseSensitive, cacheSize, syntaxHelpUrl, fetchDelay, requestTimeout) =>
          { completionEnabled, valuesCaseSensitive, cacheSize, syntaxHelpUrl, fetchDelay, requestTimeout } := rfl

theorem issues_ofMembers (members : List (String × Json)) :
    (ofMembers members).issues = SettingName.all.filterMap (·.issue? members) := by
  simp only [ofMembers_eq, Checked.issues_map, Checked.issues_both, issues_readOption]
  simp only [SettingName.all, List.filterMap_eq_flatMap_toList, List.flatMap_cons, List.flatMap_nil,
    List.append_nil]

theorem ofMembers_of_free (free : ∀ setting : SettingName, setting.issue? members = none) :
    ofMembers members = .ok (perOption members) := by
  simp only [ofMembers_eq, readOption_of_free (free _), Checked.both, Except.map]
  rfl

/-- A key stays when the refused ones among some options are dropped. -/
def stays (settings : List SettingName) (members : List (String × Json)) (key : String) : Bool :=
  settings.all fun setting => (setting.issue? members).isNone || SettingName.ofKey? key ≠ some setting

/-- Dropping the refused options takes both of their spellings away and logs each of them once. -/
theorem dropRefused_issues (settings : List SettingName) (members left : List (String × Json)) :
    dropRefused (settings.filterMap (·.issue? members)) left =
      (left.filter fun member => stays settings members member.1, settings.filterMap (·.complaint? members)) := by
  induction settings generalizing left with
  | nil => simp [dropRefused, stays]
  | cons setting settings ih =>
    cases found : setting.issue? members with
    | none =>
      have silent : setting.complaint? members = none := by
        rw [SettingName.issue?] at found
        rw [SettingName.complaint?]
        cases given : setting.given? members with
        | none => rfl
        | some given =>
          rw [given, Option.bind_some, Option.map_eq_none_iff] at found
          rw [Option.bind_some, found]
          rfl
      simp only [List.filterMap_cons, found, silent]
      rw [ih]
      simp [stays, found]
    | some issue =>
      obtain ⟨given, atKey, refused⟩ := Option.bind_eq_some_iff.mp found
      obtain ⟨kind, fault, rfl⟩ := Option.map_eq_some_iff.mp refused
      have complaint : setting.complaint? members = some ⟨.error, setting.refusal given.1 kind⟩ := by
        rw [SettingName.complaint?, atKey, Option.bind_some, fault]
        rfl
      simp only [List.filterMap_cons, found, complaint]
      rw [dropRefused]
      dsimp only
      rw [SettingName.given?_spells atKey]
      dsimp only
      rw [ih, List.filter_filter]
      refine Prod.ext (List.filter_congr fun member _ => ?_) rfl
      have spells := @SettingName.ofKey?_eq_some_iff setting member.1
      rw [stays, stays, List.all_cons, found, Option.isNone_some, Bool.false_or, Bool.and_comm]
      congr 1
      rw [Bool.eq_iff_iff, Bool.and_eq_true, decide_eq_true_eq, decide_eq_true_eq, decide_eq_true_eq, ne_eq, ne_eq,
        ne_eq, spells, not_or]

theorem stays_iff {key : String} (spells : SettingName.ofKey? key = some setting) :
    stays SettingName.all members key = (setting.issue? members).isNone := by
  rw [Bool.eq_iff_iff, stays, List.all_eq_true]
  constructor
  · intro every
    simpa [spells] using every setting setting.mem_all
  · intro free other _
    by_cases same : setting = other
    · rw [← same, free, Bool.true_or]
    · simp [spells, same]

/-- Once the refused options are dropped, nothing is given for them and the same as before for the others. -/
theorem given?_dropRefused (setting : SettingName) (members : List (String × Json)) :
    setting.given? (members.filter fun member => stays SettingName.all members member.1) =
      if (setting.issue? members).isNone then setting.given? members else none := by
  rw [SettingName.given?, lookup_filter_key, lookup_filter_key,
    stays_iff (SettingName.ofKey?_eq_some_iff.mpr (Or.inr rfl)), stays_iff (SettingName.ofKey?_eq_some_iff.mpr (Or.inl rfl))]
  split <;> rfl

theorem issue?_dropRefused (setting : SettingName) (members : List (String × Json)) :
    setting.issue? (members.filter fun member => stays SettingName.all members member.1) = none := by
  rw [SettingName.issue?, given?_dropRefused]
  split
  · rename_i free
    exact Option.isNone_iff_eq_none.mp free
  · rfl

theorem recovered_dropRefused (setting : SettingName) (members : List (String × Json)) :
    setting.recovered (members.filter fun member => stays SettingName.all members member.1) =
      setting.recovered members := by
  cases found : setting.issue? members with
  | none =>
    rw [SettingName.recovered, given?_dropRefused, found, if_pos Option.isNone_none, SettingName.recovered]
  | some issue =>
    rw [recovered_of_issue found, SettingName.recovered, given?_dropRefused, found, Option.isNone_some,
      if_neg Bool.false_ne_true]
    rfl

theorem perOption_dropRefused (members : List (String × Json)) :
    perOption (members.filter fun member => stays SettingName.all members member.1) = perOption members := by
  simp only [perOption, recovered_dropRefused]

theorem cacheSize_perOption (members : List (String × Json)) : 1 ≤ (perOption members).cacheSize := by
  rcases SettingName.recovered_cases .cacheSize members with absent | ⟨given, _, accepted⟩
  · have default : (perOption members).cacheSize = 100 := absent
    omega
  · exact Json.checkPositiveInt_pos accepted

/-- Options of any kind give settings, at the first reading or at the second, for which the refused options are
dropped. Each option has the value given for it, or its default if none is given or the one given is refused;
one error is logged for each refused option, in the order of the options; and a cache can be made with the
settings. -/
theorem load_recovers_each_option (members : List (String × Json)) :
    let settings := perOption members
    let log := SettingName.all.filterMap (·.complaint? members)
    load (.obj members) = (settings, log) ∧
      (ofMembers members = .ok settings ∨ ∃ issues, ofMembers members = .error issues ∧
        ofMembers (dropRefused issues members).1 = .ok settings) ∧
      1 ≤ settings.cacheSize ∧
      Cache.create? settings.cacheSize = some (Session.ofSettings settings log).service.cache := by
  intro settings log
  have size : 1 ≤ settings.cacheSize := cacheSize_perOption members
  have room : Cache.create? settings.cacheSize = some (Session.ofSettings settings log).service.cache := by
    rw [Cache.create?, if_neg (by omega), Int.toNat_natCast]
    rfl
  have found := issues_ofMembers members
  rw [load]
  cases read : ofMembers members with
  | ok value =>
    rw [read] at found
    have free : ∀ setting : SettingName, setting.issue? members = none := fun setting =>
      List.filterMap_eq_nil_iff.mp found.symm setting setting.mem_all
    have dropped := dropRefused_issues SettingName.all members members
    rw [← found] at dropped
    have silent : log = [] := (congrArg Prod.snd dropped).symm
    have same : value = settings := by
      rw [ofMembers_of_free free] at read
      cases read
      rfl
    rw [silent, ← same]
    exact ⟨rfl, Or.inl rfl, same ▸ size, by rw [same, ← silent]; exact room⟩
  | error issues =>
    rw [read] at found
    have dropped := dropRefused_issues SettingName.all members members
    rw [← found] at dropped
    have again : ofMembers (dropRefused issues members).1 = .ok settings := by
      rw [show dropRefused issues members = _ from dropped,
        ofMembers_of_free fun setting => issue?_dropRefused setting members, perOption_dropRefused]
    have logged : (dropRefused issues members).2 = log := congrArg Prod.snd dropped
    refine ⟨?_, Or.inr ⟨issues, rfl, again⟩, size, room⟩
    dsimp only
    rw [again, logged]

/-- A refused value hides an acceptable one under the other spelling. -/
example : load (.obj [("cache_size", .int 7), ("valuesCaseSensitive", .str "yes"), ("cacheSize", .int 0)]) =
    ({ valuesCaseSensitive := true }, [⟨.error, "cache_size must be a positive integer"⟩]) := by decide +kernel

end Settings

end QueryCompletion
