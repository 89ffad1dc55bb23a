import ShaderCost.Proofs.Json.Reading
import ShaderCost.Proofs.Keys
import ShaderCost.Settings.Store

/-!
Layers over one another, and settings from a file and the environment. Where the keys of a layer are
names as a whole, what each stood for before gives way to its value there. Where no variable of the
environment addresses a setting, it is what it is without such variables. A timeout that comes from
layers fits 64 bits.
-/

namespace ShaderCost.Settings

/-- A key that is a name as a whole, in lower case. -/
structure Plain (key : Text) : Prop where
  whole : Place.ofKey key = (key, .whole)
  lower : Text.lowercase key = key

theorem name_plain (key : Key) : Plain key.name where
  whole := by cases key <;> decide
  lower := by cases key <;> decide

theorem names_distinct : (Key.all.map Key.name).Nodup := by decide

theorem lookup_all {Value : Type} (value : Key → Value) (key : Key) :
    (Key.all.map fun key => (key.name, value key)).lookup key.name = some (value key) := by
  cases key <;> rfl

namespace Stack

theorem lookup_set_self (stack : Stack) (name : Text) (sourced : Sourced) :
    (stack.set name sourced).lookup name = some sourced := List.lookup_cons_self

theorem lookup_set_other (stack : Stack) {name other : Text} (apart : other ≠ name)
    (sourced : Sourced) : (stack.set name sourced).lookup other = stack.lookup other := by
  have skipped : (other == name) = false := by simpa using apart
  rw [set, List.lookup_cons, skipped]
  exact lookup_filter_other apart stack

theorem put_plain (origin : Text) (stack : Stack) {key : Text} (plain : Plain key)
    {value : LayerValue} (single : value.isTable = false) :
    put origin stack (key, value) = stack.set key ⟨value, some origin⟩ := by
  rw [put, plain.whole]
  simp only [plain.lower]
  cases value with
  | table isEmpty => simp [LayerValue.isTable] at single
  | null | bool | integer | float | text | list => rfl

/-- What a layer with plain keys, each given once, makes of a stack. -/
theorem lookup_add {layer : Layer} (plain : ∀ entry ∈ layer.values, Plain entry.1)
    (single : ∀ entry ∈ layer.values, entry.2.isTable = false)
    (distinct : (layer.values.map Prod.fst).Nodup) (stack : Stack) (name : Text) :
    (stack.add layer).lookup name =
      ((layer.values.lookup name).map fun value => ⟨value, some layer.origin⟩).or
        (stack.lookup name) := by
  obtain ⟨origin, values⟩ := layer
  rw [add]
  dsimp only at plain single distinct ⊢
  induction values generalizing stack with
  | nil => rfl
  | cons entry values induction =>
      obtain ⟨key, value⟩ := entry
      obtain ⟨firstPlain, plain⟩ := List.forall_mem_cons.mp plain
      obtain ⟨firstSingle, single⟩ := List.forall_mem_cons.mp single
      rw [List.map_cons, List.nodup_cons] at distinct
      rw [List.foldl_cons, put_plain origin stack firstPlain firstSingle,
        induction _ plain single distinct.2]
      by_cases same : name = key
      · subst same
        rw [lookup_absent distinct.1, lookup_set_self, List.lookup_cons_self]
        rfl
      · have skipped : (name == key) = false := by simpa using same
        rw [lookup_set_other stack same, List.lookup_cons, skipped]

/-- A layer leaves alone what its keys do not address. -/
theorem lookup_add_other {layer : Layer} {name : Text}
    (apart : ∀ entry ∈ layer.values, name ≠ Text.lowercase (Place.ofKey entry.1).1)
    (stack : Stack) : (stack.add layer).lookup name = stack.lookup name := by
  obtain ⟨origin, values⟩ := layer
  rw [add]
  dsimp only at apart ⊢
  induction values generalizing stack with
  | nil => rfl
  | cons entry values induction =>
      obtain ⟨first, others⟩ := List.forall_mem_cons.mp apart
      rw [List.foldl_cons, induction _ others]
      exact lookup_set_other stack first _

end Stack

namespace LayerValue

/-- Whether a value, if it is a whole number, fits 64 bits with its sign. -/
def Fits : LayerValue → Prop
  | integer value => value < twoTo 63
  | _ => True

theorem of_json_fits {value : JsonValue} (fits : value.Fits) : (ofJson value).Fits := by
  cases value with
  | integer value => exact fits
  | null | bool | float | string | list | object => trivial

theorem signed_integer_range {text : Text} {number : Int}
    (read : signedInteger? text = some number) :
    -(twoTo 63 : Int) ≤ number ∧ number < twoTo 63 := by
  have positive : (0 : Int) < twoTo 63 := by decide
  rw [signedInteger?.eq_def] at read
  split at read
  · obtain ⟨value, found, rfl⟩ := Option.map_eq_some_iff.mp read
    obtain ⟨magnitude, below, same⟩ := Option.bind_eq_some_iff.mp found
    have bound := nat_below_bound below
    rw [← Option.some.inj same]
    omega
  · obtain ⟨value, found, rfl⟩ := Option.map_eq_some_iff.mp read
    have bound := signed_nat_below_bound found
    rw [Int.ofNat_eq_natCast]
    omega

theorem of_variable_fits (value : Text) : (ofVariable value).Fits := by
  rw [ofVariable]
  split
  · trivial
  split
  · trivial
  split
  · rename_i number read
    exact (signed_integer_range read).2
  · split <;> trivial

theorem count_bound {value : LayerValue} (fits : value.Fits) {count : Nat}
    (read : value.asCount = .ok count) : count < timeoutLimit := by
  cases value with
  | bool value =>
      rw [← Except.ok.inj read]
      cases value <;> decide
  | integer value =>
      rw [asCount] at read
      split at read
      · simp [mismatch] at read
      · rw [← Except.ok.inj read, timeoutLimit]
        have wider : twoTo 63 < twoTo 64 := by decide
        rw [Fits] at fits
        omega
  | float value =>
      rw [← Except.ok.inj read]
      have within := Binary64.round_to_nat_bound (timeoutLimit - 1) value
      have positive : 0 < timeoutLimit := by decide
      omega
  | text value =>
      rw [asCount] at read
      split at read
      · rename_i found
        rw [← Except.ok.inj read]
        rw [countOfText?] at found
        split at found
        · rw [← Option.some.inj found]
          decide
        split at found
        · rw [← Option.some.inj found]
          decide
        exact signed_nat_below_bound found
      · simp [mismatch] at read
  | null | list | table => simp [asCount, mismatch] at read

end LayerValue

/-- Whether every value of a layer fits. -/
def Layer.Fits (layer : Layer) : Prop := ∀ entry ∈ layer.values, entry.2.Fits

namespace Stack

def Fits (stack : Stack) : Prop := ∀ entry ∈ stack, entry.2.value.Fits

theorem covered_fits {held : Option Sourced} (earlier : ∀ sourced ∈ held, sourced.value.Fits)
    {value : LayerValue} (fits : value.Fits) (origin : Text) (place : Place) :
    (covered held origin value place).value.Fits := by
  cases place with
  | whole =>
      cases value with
      | table isEmpty =>
          cases held with
          | none => trivial
          | some held =>
              rw [covered]
              split
              · exact earlier held rfl
              · trivial
      | null | bool | integer | float | text | list => exact fits
  | member =>
      rw [covered]
      split
      · rename_i kept
        exact earlier _ (Option.filter_eq_some_iff.mp kept).1
      · trivial
  | item =>
      rw [covered]
      split
      · rename_i kept
        exact earlier _ (Option.filter_eq_some_iff.mp kept).1
      · trivial

theorem lookup_fits {stack : Stack} (fits : stack.Fits) (name : Text) :
    ∀ sourced ∈ stack.lookup name, sourced.value.Fits := by
  intro sourced found
  obtain ⟨before, after, spelled, _⟩ := List.lookup_eq_some_iff.mp found
  exact fits (name, sourced) (by simp [spelled])

theorem put_fits {stack : Stack} (fits : stack.Fits) (origin : Text) {entry : Text × LayerValue}
    (single : entry.2.Fits) : (put origin stack entry).Fits := by
  intro found member
  rw [put] at member
  rcases List.mem_cons.mp member with rfl | other
  · exact covered_fits (lookup_fits fits _) single origin _
  · exact fits found (List.mem_filter.mp other).1

theorem add_fits {stack : Stack} (fits : stack.Fits) {layer : Layer} (single : layer.Fits) :
    (stack.add layer).Fits := by
  obtain ⟨origin, values⟩ := layer
  rw [add]
  rw [Layer.Fits] at single
  dsimp only at single ⊢
  induction values generalizing stack with
  | nil => exact fits
  | cons entry values induction =>
      obtain ⟨first, others⟩ := List.forall_mem_cons.mp single
      exact induction (put_fits fits origin first) others

theorem of_layers_fit {layers : List Layer} (fit : ∀ layer ∈ layers, layer.Fits) :
    (ofLayers layers).Fits := by
  have step : ∀ stack : Stack, stack.Fits → (layers.foldl add stack).Fits := by
    induction layers with
    | nil => exact fun stack fits => fits
    | cons layer layers induction =>
        obtain ⟨first, others⟩ := List.forall_mem_cons.mp fit
        exact fun stack fits => induction others _ (add_fits fits first)
  exact step [] (List.forall_mem_nil _)

theorem of_layers_empty (layer : Layer) (other : Text) :
    ofLayers [layer, ⟨other, []⟩] = add [] layer := rfl

end Stack

theorem read_count_bound {stack : Stack} (fits : stack.Fits) {key : Key} {otherwise count : Nat}
    (default : otherwise < timeoutLimit)
    (found : read stack key LayerValue.asCount otherwise = .ok count) : count < timeoutLimit := by
  rw [read] at found
  split at found
  · exact Except.ok.inj found ▸ default
  · rename_i sourced there
    cases converted : sourced.value.asCount with
    | error mismatch =>
        rw [converted] at found
        cases found
    | ok number =>
        rw [converted] at found
        rw [← Except.ok.inj found]
        exact LayerValue.count_bound (Stack.lookup_fits fits _ _ there) converted

/-- What a sequence that succeeds tells of its parts. -/
theorem bind_ok {ε α β : Type} {first : Except ε α} {next : α → Except ε β} {result : β}
    (whole : first.bind next = .ok result) :
    ∃ value, first = .ok value ∧ next value = .ok result := by
  cases first with
  | error error => simp [Except.bind] at whole
  | ok value => exact ⟨value, rfl, whole⟩

theorem read_found {α : Type} {stack : Stack} {key : Key} {sourced : Sourced}
    (found : stack.lookup key.name = some sourced)
    (convert : LayerValue → Except LayerValue.Mismatch α) {result : α}
    (converted : convert sourced.value = .ok result) (otherwise : α) :
    read stack key convert otherwise = .ok result := by
  rw [read, found]
  simp only [converted]
  rfl

/-- What the settings become that layers go over: each is read by itself. -/
structure Overlaid (base : Settings) (stack : Stack) (result : Settings) : Prop where
  compilerPath : read stack .compilerPath LayerValue.asText base.compilerPath =
    .ok result.compilerPath
  gpuModel : read stack .gpuModel LayerValue.asOptionalText base.gpuModel = .ok result.gpuModel
  verbose : read stack .verbose LayerValue.asBool base.verbose = .ok result.verbose
  outputDirectory : read stack .outputDirectory LayerValue.asText base.outputDirectory =
    .ok result.outputDirectory
  timeoutSeconds : read stack .timeoutSeconds LayerValue.asCount base.timeoutSeconds =
    .ok result.timeoutSeconds
  includeAllVariants : read stack .includeAllVariants LayerValue.asBool base.includeAllVariants =
    .ok result.includeAllVariants

theorem overlay_iff {base result : Settings} {layers : List Layer} :
    overlay base layers = .ok result ↔ Overlaid base (Stack.ofLayers layers) result := by
  constructor
  · intro overlaid
    rw [overlay] at overlaid
    obtain ⟨_, compilerPath, overlaid⟩ := bind_ok overlaid
    obtain ⟨_, gpuModel, overlaid⟩ := bind_ok overlaid
    obtain ⟨_, verbose, overlaid⟩ := bind_ok overlaid
    obtain ⟨_, outputDirectory, overlaid⟩ := bind_ok overlaid
    obtain ⟨_, timeoutSeconds, overlaid⟩ := bind_ok overlaid
    obtain ⟨_, includeAllVariants, overlaid⟩ := bind_ok overlaid
    rw [← Except.ok.inj overlaid]
    exact ⟨compilerPath, gpuModel, verbose, outputDirectory, timeoutSeconds, includeAllVariants⟩
  · intro ⟨compilerPath, gpuModel, verbose, outputDirectory, timeoutSeconds, includeAllVariants⟩
    rw [overlay]
    simp only [compilerPath, gpuModel, verbose, outputDirectory, timeoutSeconds,
      includeAllVariants]
    rfl

theorem read_same {α : Type} {first second : Stack} {key : Key}
    (same : first.lookup key.name = second.lookup key.name)
    {convert : LayerValue → Except LayerValue.Mismatch α} {otherwise left right : α}
    (early : read first key convert otherwise = .ok left)
    (late : read second key convert otherwise = .ok right) : left = right := by
  rw [read, same, ← read, late] at early
  exact (Except.ok.inj early).symm

theorem overlaid_same {base left right : Settings} {first second : Stack} {key : Key}
    (same : first.lookup key.name = second.lookup key.name) (early : Overlaid base first left)
    (late : Overlaid base second right) : left.value key = right.value key := by
  cases key with
  | compilerPath =>
      rw [value, value, read_same same early.compilerPath late.compilerPath]
  | gpuModel =>
      rw [value, value, read_same same early.gpuModel late.gpuModel]
  | verbose =>
      rw [value, value, read_same same early.verbose late.verbose]
  | outputDirectory =>
      rw [value, value, read_same same early.outputDirectory late.outputDirectory]
  | timeoutSeconds =>
      rw [value, value, read_same same early.timeoutSeconds late.timeoutSeconds]
  | includeAllVariants =>
      rw [value, value, read_same same early.includeAllVariants late.includeAllVariants]

/-- A timeout that is left when layers go over settings fits 64 bits. -/
theorem overlaid_timeout {base result : Settings} {stack : Stack} (fits : stack.Fits)
    (default : base.timeoutSeconds < timeoutLimit) (overlaid : Overlaid base stack result) :
    result.timeoutSeconds < timeoutLimit :=
  read_count_bound fits default overlaid.timeoutSeconds

/-- A layer that gives a value to every key, as a settings file does. -/
def wholeLayer (origin : Text) (value : Key → LayerValue) : Layer :=
  ⟨origin, Key.all.map fun key => (key.name, value key)⟩

theorem lookup_whole (origin : Text) {value : Key → LayerValue}
    (single : ∀ key, (value key).isTable = false) (key : Key) :
    (Stack.add [] (wholeLayer origin value)).lookup key.name = some ⟨value key, some origin⟩ := by
  have plain : ∀ entry ∈ (wholeLayer origin value).values, Plain entry.1 := by
    intro entry member
    obtain ⟨key, _, rfl⟩ := List.mem_map.mp member
    exact name_plain key
  have untabled : ∀ entry ∈ (wholeLayer origin value).values, entry.2.isTable = false := by
    intro entry member
    obtain ⟨key, _, rfl⟩ := List.mem_map.mp member
    exact single key
  have distinct : ((wholeLayer origin value).values.map Prod.fst).Nodup := by
    rw [wholeLayer, List.map_map]
    exact names_distinct
  rw [Stack.lookup_add plain untabled distinct, wholeLayer, lookup_all]
  rfl

end ShaderCost.Settings

namespace ShaderCost.Settings

theorem last_of_each_distinct {members : List (Text × JsonValue)}
    (distinct : (members.map Prod.fst).Nodup) : lastOfEach members = members := by
  induction members with
  | nil => rfl
  | cons entry members induction =>
      rw [List.map_cons, List.nodup_cons] at distinct
      rw [lastOfEach, lookup_absent distinct.1, if_neg (by simp), induction distinct.2]

theorem last_of_each_subset (members : List (Text × JsonValue)) :
    ∀ entry ∈ lastOfEach members, entry ∈ members := by
  induction members with
  | nil => exact fun _ member => member
  | cons first members induction =>
      intro entry member
      rw [lastOfEach] at member
      split at member
      · exact List.mem_cons_of_mem first (induction entry member)
      · rcases List.mem_cons.mp member with rfl | later
        · exact List.mem_cons_self
        · exact List.mem_cons_of_mem first (induction entry later)

theorem load_layers {tree : FileTree} {path : Text} {layer : Layer}
    (found : fileLayer tree path = .ok layer) (environment : Environment) :
    load tree environment path =
      overlay (default environment) [layer, environmentLayer environment] := by
  rw [load, found]
  rfl

theorem load_ok {tree : FileTree} {environment : Environment} {path : Text} {settings : Settings}
    (loaded : load tree environment path = .ok settings) :
    ∃ layer, fileLayer tree path = .ok layer ∧
      Overlaid (default environment)
        (Stack.ofLayers [layer, environmentLayer environment]) settings := by
  cases found : fileLayer tree path with
  | error error =>
      rw [load, found] at loaded
      cases loaded
  | ok layer =>
      rw [load_layers found, overlay_iff] at loaded
      exact ⟨layer, rfl, loaded⟩

theorem default_fits (environment : Environment) :
    (default environment).timeoutSeconds < timeoutLimit := by
  have below : defaultTimeout < timeoutLimit := by decide
  exact below

theorem file_layer_fits {tree : FileTree} {path : Text} {layer : Layer}
    (found : fileLayer tree path = .ok layer) : layer.Fits := by
  rw [fileLayer] at found
  split at found
  · rw [← Except.ok.inj found]
    exact List.forall_mem_nil _
  · split at found
    · rw [← Except.ok.inj found]
      exact List.forall_mem_nil _
    · split at found
      · rename_i members read
        rw [← Except.ok.inj found]
        intro entry member
        obtain ⟨⟨key, value⟩, kept, rfl⟩ := List.mem_map.mp member
        exact LayerValue.of_json_fits
          (JsonValue.read_in_range read (key, value) (last_of_each_subset members _ kept))
      · simp at found
      · simp at found

theorem environment_layer_fits (environment : Environment) :
    (environmentLayer environment).Fits := by
  intro entry member
  obtain ⟨binding, _, read⟩ := List.mem_filterMap.mp member
  obtain ⟨key, _, rfl⟩ := Option.map_eq_some_iff.mp read
  exact LayerValue.of_variable_fits binding.2

theorem load_fits {tree : FileTree} {environment : Environment} {path : Text} {settings : Settings}
    (loaded : load tree environment path = .ok settings) :
    settings.timeoutSeconds < timeoutLimit := by
  obtain ⟨layer, found, overlaid⟩ := load_ok loaded
  have fit : ∀ part ∈ [layer, environmentLayer environment], part.Fits :=
    List.forall_mem_cons.mpr
      ⟨file_layer_fits found, List.forall_mem_singleton.mpr (environment_layer_fits environment)⟩
  exact overlaid_timeout (Stack.of_layers_fit fit) (default_fits environment) overlaid

/-! Variables of the environment that settings are read from. -/

/-- Whether an environment has no variable that settings are read from. -/
def Unset (environment : Environment) : Prop :=
  ∀ binding ∈ environment.bindings, Text.after? variableStart (Text.lowercase binding.1) = none

theorem environment_layer_unset {environment : Environment} (unset : Unset environment) :
    environmentLayer environment = ⟨"the environment", []⟩ := by
  have none : (environmentLayer environment).values = [] := by
    apply List.filterMap_eq_nil_iff.mpr
    intro binding member
    have nothing := unset binding member
    dsimp only
    rw [nothing, Option.map_none]
  exact congrArg (Layer.mk _) none

/-- Whether a variable of the environment addresses a setting. -/
def Overridden (environment : Environment) (key : Key) : Prop :=
  ∃ binding ∈ environment.bindings, ∃ address,
    Text.after? variableStart (Text.lowercase binding.1) = some address ∧
      Text.lowercase (Place.ofKey address).1 = key.name

/-- Whether a variable is one that settings are not read from. -/
def isForeign (name : Text) : Bool := (Text.after? variableStart (Text.lowercase name)).isNone

/-- The environment without the variables that settings are read from. -/
def withoutOverrides (environment : Environment) : Environment :=
  ⟨environment.bindings.filter fun binding => isForeign binding.1⟩

theorem unset_without (environment : Environment) : Unset (withoutOverrides environment) := by
  intro binding member
  exact Option.isNone_iff_eq_none.mp (List.mem_filter.mp member).2

theorem default_congr {left right : Environment}
    (data : left.get? "XDG_DATA_HOME" = right.get? "XDG_DATA_HOME")
    (home : left.get? "HOME" = right.get? "HOME") : default left = default right := by
  have directory : defaultOutputDirectory left = defaultOutputDirectory right := by
    rw [defaultOutputDirectory, defaultOutputDirectory, Environment.dataDirectory?,
      Environment.dataDirectory?, Environment.baseDirectory?, Environment.baseDirectory?, data, home]
  exact congrArg (fun directory => Settings.mk _ _ _ directory _ _) directory

theorem default_without (environment : Environment) :
    default (withoutOverrides environment) = default environment := by
  have same : ∀ name, isForeign name = true →
      (withoutOverrides environment).get? name = environment.get? name :=
    fun name foreign => lookup_filter isForeign foreign environment.bindings
  exact default_congr (same _ (by decide)) (same _ (by decide))

/-- Settings that no variable addresses are in effect as they are without the variables. -/
theorem effective_same {tree : FileTree} {environment : Environment} {path : Text}
    {plain effective : Settings}
    (before : load tree (withoutOverrides environment) path = .ok plain)
    (loaded : load tree environment path = .ok effective) {key : Key}
    (free : ¬ Overridden environment key) : effective.value key = plain.value key := by
  obtain ⟨layer, found, under⟩ := load_ok before
  obtain ⟨_, again, overlaid⟩ := load_ok loaded
  rw [found, Except.ok.injEq] at again
  subst again
  rw [default_without, environment_layer_unset (unset_without environment),
    Stack.of_layers_empty] at under
  have apart : ∀ entry ∈ (environmentLayer environment).values,
      key.name ≠ Text.lowercase (Place.ofKey entry.1).1 := by
    intro entry member addressed
    obtain ⟨binding, there, read⟩ := List.mem_filterMap.mp member
    obtain ⟨address, after, rfl⟩ := Option.map_eq_some_iff.mp read
    exact free ⟨binding, there, address, after, addressed.symm⟩
  exact overlaid_same (Stack.lookup_add_other apart _) overlaid under

end ShaderCost.Settings
