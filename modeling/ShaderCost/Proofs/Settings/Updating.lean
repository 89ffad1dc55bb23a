import ShaderCost.Proofs.Settings.Saving
import ShaderCost.Proofs.Text.Words

/-!
Changes of settings one after another, some of them refused. A change that is refused leaves all
settings as they are, and one that is granted changes the setting of its key alone. So each setting
ends as the last change that was granted for its key makes it, whatever stands between. A timeout
of at least one second and a model whose name is not blank stay so.
-/

namespace ShaderCost.Settings

/-- A change that is asked for: the key of a setting and the text of its value. -/
abbrev Change := Text × Text

/-- The settings after a change. One that is refused leaves them as they are. -/
def after (settings : Settings) (change : Change) : Settings :=
  (settings.set change.1 change.2).toOption.getD settings

/-- Settings after changes, each given as the text of a key and of a value. A change that is refused
leaves them as they were. -/
def afterChanges (settings : Settings) (changes : List (Text × Text)) : Settings :=
  changes.foldl (fun settings change => (settings.set change.1 change.2).toOption.getD settings)
    settings

theorem after_changes_cons (settings : Settings) (change : Change) (changes : List Change) :
    settings.afterChanges (change :: changes) = (settings.after change).afterChanges changes := rfl

theorem after_changes_append (settings : Settings) (front rest : List Change) :
    settings.afterChanges (front ++ rest) = (settings.afterChanges front).afterChanges rest :=
  List.foldl_append

theorem after_granted {settings changed : Settings} {change : Change}
    (set : settings.set change.1 change.2 = .ok changed) : settings.after change = changed := by
  rw [after, set]
  rfl

theorem after_refused {settings : Settings} {change : Change} {error : SettingsError}
    (set : settings.set change.1 change.2 = .error error) : settings.after change = settings := by
  rw [after, set]
  rfl

/-- The changes that are granted when it is their turn. -/
def granted : Settings → List Change → List Change
  | _, [] => []
  | settings, change :: changes =>
      match settings.set change.1 change.2 with
      | .ok changed => change :: granted changed changes
      | .error _ => granted settings changes

theorem ext_value {left right : Settings} (same : ∀ key, left.value key = right.value key) :
    left = right := by
  obtain ⟨path, model, verbose, directory, seconds, all⟩ := left
  obtain ⟨path', model', verbose', directory', seconds', all'⟩ := right
  have paths := same .compilerPath
  have models := same .gpuModel
  have switches := same .verbose
  have directories := same .outputDirectory
  have counts := same .timeoutSeconds
  have extents := same .includeAllVariants
  simp only [value, JsonValue.string.injEq, JsonValue.bool.injEq, JsonValue.integer.injEq,
    Int.natCast_inj] at paths models switches directories counts extents
  have named : model = model' := by
    cases model <;> cases model' <;> simp_all
  subst paths named switches directories counts extents
  rfl

theorem key_of_name {text : Text} {key : Key} (found : Key.ofName? text = some key) :
    text = key.name := by
  have named := List.find?_some found
  exact (of_decide_eq_true named).symm

theorem update_other {settings changed : Settings} {value : Text} {key other : Key}
    (updated : settings.update? value key = some changed) (apart : other ≠ key) :
    changed.value other = settings.value other := by
  cases key with
  | compilerPath | gpuModel | outputDirectory =>
      rw [← Option.some.inj updated]
      cases other <;> first | contradiction | rfl
  | verbose | timeoutSeconds | includeAllVariants =>
      obtain ⟨_, _, rfl⟩ := Option.map_eq_some_iff.mp updated
      cases other <;> first | contradiction | rfl

/-- What a change makes of its own setting, and whether it is granted, does not depend on the other
settings. -/
theorem update_own (settings other : Settings) (text : Text) (key : Key) :
    (settings.update? text key).map (fun changed => changed.value key) =
      (other.update? text key).map fun changed => changed.value key := by
  cases key with
  | compilerPath | gpuModel | outputDirectory => rfl
  | verbose | timeoutSeconds | includeAllVariants =>
      simp only [update?, Option.map_map]
      rfl

/-- What a change gives to a setting, if it is granted and about this setting. -/
def given? (change : Change) (key : Key) : Option JsonValue :=
  if Key.ofName? change.1 = some key then
    ((default ⟨[]⟩).update? change.2 key).map fun changed => changed.value key
  else none

theorem set_cases (settings : Settings) (change : Change) :
    (Key.ofName? change.1 = none ∧ settings.set change.1 change.2 = .error (.unknownKey change.1)) ∨
    (∃ key, Key.ofName? change.1 = some key ∧ settings.update? change.2 key = none ∧
      settings.set change.1 change.2 = .error (.invalidValue change.1 change.2)) ∨
    ∃ key changed, Key.ofName? change.1 = some key ∧ settings.update? change.2 key = some changed ∧
      settings.set change.1 change.2 = .ok changed := by
  rw [set]
  cases found : Key.ofName? change.1 with
  | none => exact .inl ⟨rfl, rfl⟩
  | some key =>
      right
      simp only
      cases updated : settings.update? change.2 key with
      | none => exact .inl ⟨key, rfl, updated, rfl⟩
      | some changed => exact .inr ⟨key, changed, rfl, updated, rfl⟩

theorem given_none {change : Change} {settings : Settings} {error : SettingsError}
    (refused : settings.set change.1 change.2 = .error error) (key : Key) :
    given? change key = none := by
  rw [given?]
  split
  · rename_i found
    rcases set_cases settings change with
      ⟨unknown, _⟩ | ⟨known, named, unread, _⟩ | ⟨_, _, _, _, set⟩
    · simp [unknown] at found
    · obtain rfl : known = key := by simpa [named] using found
      rw [update_own _ settings, unread, Option.map_none]
    · simp [set] at refused
  · rfl

theorem given_some {change : Change} {settings changed : Settings}
    (set : settings.set change.1 change.2 = .ok changed) :
    ∃ key, Key.ofName? change.1 = some key ∧ given? change key = some (changed.value key) ∧
      ∀ other, other ≠ key → given? change other = none ∧
        changed.value other = settings.value other := by
  obtain ⟨key, named, updated⟩ := set_ok set
  refine ⟨key, named, ?_, ?_⟩
  · rw [given?, if_pos named, update_own _ settings, updated, Option.map_some]
  · intro other apart
    refine ⟨?_, update_other updated apart⟩
    rw [given?, if_neg]
    intro found
    rw [named, Option.some.injEq] at found
    exact apart found.symm

/-- One step: each setting becomes what the change gives to it, or stays. -/
theorem after_value (settings : Settings) (change : Change) (key : Key) :
    (settings.after change).value key = (given? change key).getD (settings.value key) := by
  cases outcome : settings.set change.1 change.2 with
  | error error => rw [after_refused outcome, given_none outcome key, Option.getD_none]
  | ok changed =>
      obtain ⟨known, _, own, others⟩ := given_some outcome
      rw [after_granted outcome]
      by_cases same : key = known
      · rw [same, own, Option.getD_some]
      · rw [(others key same).1, (others key same).2, Option.getD_none]

/-- A whole run: each setting becomes what the last change gives to it that gives it anything. -/
theorem after_changes_value (settings : Settings) (changes : List Change) (key : Key) :
    (settings.afterChanges changes).value key =
      (changes.filterMap fun change => given? change key).getLast?.getD (settings.value key) := by
  induction changes generalizing settings with
  | nil => rfl
  | cons change changes induction =>
      rw [after_changes_cons, induction, after_value, List.filterMap_cons]
      cases given? change key with
      | none => rw [Option.getD_none]
      | some found =>
          rw [Option.getD_some, List.getLast?_cons, Option.getD_some]

/-- Changes about different settings may change places. -/
theorem after_swap (settings : Settings) {first second : Change} (apart : first.1 ≠ second.1) :
    (settings.after first).after second = (settings.after second).after first := by
  apply ext_value
  intro key
  rw [after_value, after_value, after_value, after_value]
  have one : given? first key = none ∨ given? second key = none := by
    rw [given?, given?]
    by_cases left : Key.ofName? first.1 = some key
    · right
      rw [if_neg]
      intro right
      exact apart ((key_of_name left).trans (key_of_name right).symm)
    · exact .inl (if_neg left)
  rcases one with none | none <;> rw [none] <;> rfl

theorem granted_filter (settings other : Settings) (changes : List Change) :
    granted settings changes =
      changes.filter fun change => (other.set change.1 change.2).toOption.isSome := by
  induction changes generalizing settings with
  | nil => rfl
  | cons change changes induction =>
      have same : (settings.set change.1 change.2).toOption.isSome =
          (other.set change.1 change.2).toOption.isSome := by
        cases here : settings.set change.1 change.2 with
        | error error =>
            cases there : other.set change.1 change.2 with
            | error cause => rfl
            | ok changed =>
                obtain ⟨key, _, found, _⟩ := given_some there
                simp [given_none here key] at found
        | ok changed =>
            cases there : other.set change.1 change.2 with
            | error cause =>
                obtain ⟨key, _, found, _⟩ := given_some here
                simp [given_none there key] at found
            | ok expected => rfl
      rw [granted, List.filter_cons, ← same]
      cases settings.set change.1 change.2 with
      | error error => exact induction settings
      | ok changed => exact congrArg (change :: ·) (induction changed)

theorem granted_again (settings : Settings) (changes : List Change) :
    granted settings (granted settings changes) = granted settings changes := by
  rw [granted_filter settings settings, granted_filter settings settings, List.filter_filter]
  simp only [Bool.and_self]

theorem after_changes_granted (settings : Settings) (changes : List Change) :
    settings.afterChanges (granted settings changes) = settings.afterChanges changes := by
  induction changes generalizing settings with
  | nil => rfl
  | cons change changes induction =>
      rw [granted, after_changes_cons]
      cases outcome : settings.set change.1 change.2 with
      | error error =>
          rw [after_refused outcome]
          exact induction settings
      | ok changed =>
          simp only
          rw [after_changes_cons, after_granted outcome]
          exact induction changed

/-- Changes that are granted give something to the setting of their key, and to no other. -/
theorem given_granted (settings : Settings) (changes : List Change) (key : Key) :
    (changes.filterMap fun change => given? change key) =
      ((granted settings changes).filter fun change => Key.ofName? change.1 = some key).filterMap
        fun change => given? change key := by
  rw [granted_filter settings settings, List.filter_filter, List.filterMap_filter]
  congr 1
  funext change
  cases outcome : settings.set change.1 change.2 with
  | error error => simp [given_none outcome key, Except.toOption]
  | ok changed =>
      obtain ⟨known, named, _, others⟩ := given_some outcome
      by_cases same : known = key
      · simp [named, same, Except.toOption]
      · have apart : key ≠ known := fun equal => same equal.symm
        simp [named, same, (others key apart).1]

/-- Each setting ends as the last change makes it that is granted for its key, and that change would
make it so by itself. -/
theorem after_changes_last (settings : Settings) (changes : List Change) (key : Key) :
    (settings.afterChanges changes).value key =
      match ((granted settings changes).filter fun change =>
          Key.ofName? change.1 = some key).getLast? with
      | none => settings.value key
      | some change => (settings.after change).value key := by
  rw [after_changes_value, given_granted settings]
  have gives : ∀ change ∈ (granted settings changes).filter fun change =>
      Key.ofName? change.1 = some key, (given? change key).isSome = true := by
    intro change member
    obtain ⟨listed, about⟩ := List.mem_filter.mp member
    rw [granted_filter settings settings] at listed
    have passed := (List.mem_filter.mp listed).2
    cases outcome : settings.set change.1 change.2 with
    | error error => simp [outcome, Except.toOption] at passed
    | ok changed =>
        obtain ⟨known, named, found, _⟩ := given_some outcome
        obtain rfl : known = key := by simpa [named] using about
        rw [found, Option.isSome_some]
  generalize ((granted settings changes).filter fun change => Key.ofName? change.1 = some key) = own
    at gives
  cases last : own.getLast? with
  | none =>
      obtain rfl := List.getLast?_eq_none_iff.mp last
      rfl
  | some change =>
      obtain ⟨front, rfl⟩ := List.getLast?_eq_some_iff.mp last
      obtain ⟨found, there⟩ := Option.isSome_iff_exists.mp (gives change (by simp))
      have single : [change].filterMap (fun change => given? change key) = [found] := by
        rw [List.filterMap_cons, there, List.filterMap_nil]
      simp only
      rw [after_value, List.filterMap_append, single, List.getLast?_concat, there]

/-! Settings under which an analysis can run. -/

/-- The compiler gets some time, and a model has a name without blanks around it. -/
structure Usable (settings : Settings) : Prop where
  timeout : 1 ≤ settings.timeoutSeconds
  model : ∀ name ∈ settings.gpuModel, name ≠ [] ∧ Text.Trimmed name

theorem update_usable {settings changed : Settings} {text : Text} {key : Key}
    (usable : settings.Usable) (updated : settings.update? text key = some changed) :
    changed.Usable := by
  cases key with
  | compilerPath | outputDirectory =>
      rw [← Option.some.inj updated]
      exact ⟨usable.timeout, usable.model⟩
  | verbose | includeAllVariants =>
      obtain ⟨_, _, rfl⟩ := Option.map_eq_some_iff.mp updated
      exact ⟨usable.timeout, usable.model⟩
  | timeoutSeconds =>
      obtain ⟨seconds, read, rfl⟩ := Option.map_eq_some_iff.mp updated
      exact ⟨of_decide_eq_true (Option.filter_eq_some_iff.mp read).2, usable.model⟩
  | gpuModel =>
      rw [← Option.some.inj updated]
      refine ⟨usable.timeout, ?_⟩
      intro name member
      dsimp only at member
      split at member
      · simp at member
      · rename_i filled
        obtain rfl := Option.mem_some.mp member
        exact ⟨by simpa using filled, Text.trimmed_trim text⟩

theorem after_usable {settings : Settings} (usable : settings.Usable) (change : Change) :
    (settings.after change).Usable := by
  cases outcome : settings.set change.1 change.2 with
  | error error =>
      rw [after_refused outcome]
      exact usable
  | ok changed =>
      obtain ⟨_, _, updated⟩ := set_ok outcome
      rw [after_granted outcome]
      exact update_usable usable updated

theorem after_changes_usable {settings : Settings} (usable : settings.Usable)
    (changes : List Change) : (settings.afterChanges changes).Usable := by
  induction changes generalizing settings with
  | nil => exact usable
  | cons change changes induction => exact induction (after_usable usable change)

/-- Any changes, in any order. One that is refused, because there is no such key or its value cannot
be read, leaves everything as it is, and one that is granted changes only the setting of its key.
The settings at the end are those that the granted changes alone lead to; two changes about
different keys may change places, and of those about one key only the last one that is granted
counts. Settings that are usable are so at every moment. -/
theorem changes_granted_apart (settings : Settings) (changes : List Change) :
    (∀ (current : Settings) (change : Change),
      (∀ error, current.set change.1 change.2 = .error error → current.after change = current ∧
        (error = .unknownKey change.1 ∧ Key.ofName? change.1 = none ∨
          error = .invalidValue change.1 change.2 ∧
            ∃ key, Key.ofName? change.1 = some key ∧ current.update? change.2 key = none)) ∧
      ∀ changed, current.set change.1 change.2 = .ok changed → current.after change = changed ∧
        ∃ key, change.1 = key.name ∧
          ∀ other, other ≠ key → changed.value other = current.value other) ∧
    (settings.afterChanges (granted settings changes) = settings.afterChanges changes ∧
      granted settings (granted settings changes) = granted settings changes) ∧
    (∀ front first second rest, changes = front ++ first :: second :: rest →
      first.1 ≠ second.1 →
      settings.afterChanges (front ++ second :: first :: rest) = settings.afterChanges changes) ∧
    (∀ key, (settings.afterChanges changes).value key =
      match ((granted settings changes).filter fun change =>
          Key.ofName? change.1 = some key).getLast? with
      | none => settings.value key
      | some change => (settings.after change).value key) ∧
    (settings.Usable → ∀ count, (settings.afterChanges (changes.take count)).Usable) := by
  refine ⟨?_, ⟨after_changes_granted settings changes, granted_again settings changes⟩, ?_,
    after_changes_last settings changes, fun usable count => after_changes_usable usable _⟩
  · intro current change
    constructor
    · intro error refused
      refine ⟨after_refused refused, ?_⟩
      rcases set_cases current change with
        ⟨unknown, set⟩ | ⟨key, named, unread, set⟩ | ⟨_, _, _, _, set⟩
      · rw [set] at refused
        exact .inl ⟨(Except.error.inj refused).symm, unknown⟩
      · rw [set] at refused
        exact .inr ⟨(Except.error.inj refused).symm, key, named, unread⟩
      · simp [set] at refused
    · intro changed set
      obtain ⟨key, named, _, others⟩ := given_some set
      exact ⟨after_granted set, key, key_of_name named, fun other apart => (others other apart).2⟩
  · rintro front first second rest rfl apart
    rw [after_changes_append, after_changes_append]
    simp only [after_changes_cons]
    rw [after_swap _ apart]

/-- A timeout of zero and a key that there is not are refused; the model is stored without the
blanks around it, before or after the timeout. -/
theorem changes_granted_apart_mixed :
    let changes : List Change := [("timeout_secs", "0"), ("gpu_model", " G78 "),
      ("timeout_secs", "+60"), ("color", "red")]
    ((default ⟨[]⟩).set "timeout_secs" "0" = .error (.invalidValue "timeout_secs" "0") ∧
      (default ⟨[]⟩).after ("timeout_secs", "0") = default ⟨[]⟩) ∧
    (default ⟨[]⟩).afterChanges [("timeout_secs", "0"), ("timeout_secs", "+60"),
      ("gpu_model", " G78 "), ("color", "red")] = (default ⟨[]⟩).afterChanges changes ∧
    granted (default ⟨[]⟩) changes =
      ([("gpu_model", " G78 "), ("timeout_secs", "+60")] : List Change) ∧
    ((default ⟨[]⟩).afterChanges changes).value .timeoutSeconds = .integer 60 ∧
    (default ⟨[]⟩).Usable ∧ ((default ⟨[]⟩).afterChanges changes).Usable := by
  intro changes
  have initial : (default ⟨[]⟩).Usable := ⟨by decide, by simp [default]⟩
  obtain ⟨steps, _, swaps, values, usable⟩ := changes_granted_apart (default ⟨[]⟩) changes
  have refused : (default ⟨[]⟩).set "timeout_secs" "0" =
    .error (.invalidValue "timeout_secs" "0") := rfl
  exact ⟨⟨refused, ((steps _ ("timeout_secs", "0")).1 _ refused).1⟩,
    swaps [("timeout_secs", "0")] ("gpu_model", " G78 ") ("timeout_secs", "+60")
      [("color", "red")] rfl (by decide), rfl, values .timeoutSeconds, initial, usable initial 4⟩

end ShaderCost.Settings
