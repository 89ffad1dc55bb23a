import ShaderCost.Proofs.Settings.Updating

/-!
Settings with a text as their value, given by a variable of the environment. The variable goes over
the file and leaves all other settings alone. Its text is read as a boolean or a number first,
though, and what is stored is that value printed again: not every text comes through unchanged, as
it does when the setting is changed by its key.
-/

namespace ShaderCost.Settings

/-- The settings whose values are texts. -/
def Key.texts : List Key := [.compilerPath, .gpuModel, .outputDirectory]

/-- The usual name of the variable for a setting. -/
def Key.variable (key : Key) : Text := Text.toUpper (variableStart ++ key.name)

/-- Settings with a text in place of one of them. -/
def withText (settings : Settings) (text : Text) : Key → Settings
  | .compilerPath => { settings with compilerPath := text }
  | .gpuModel => { settings with gpuModel := some text }
  | .outputDirectory => { settings with outputDirectory := text }
  | _ => settings

/-- A text as it is stored from a variable. -/
def reprinted (text : Text) : Text :=
  if Text.lowercase text = "true" then "true"
  else if Text.lowercase text = "false" then "false"
  else match LayerValue.signedInteger? text with
    | some number => Text.ofInt number
    | none => ((Binary64.ofText? text).map Binary64.toText).getD text

/-- The texts that are stored as they are: words and numbers in the form in which they are printed,
and all that is read as neither. -/
inductive Settled (text : Text) : Prop
  | word (spelled : text = "true" ∨ text = "false")
  | integer {number : Int} (least : -(twoTo 63 : Int) ≤ number) (most : number < twoTo 63)
      (printed : text = Text.ofInt number)
  | float {number : Binary64} (read : LayerValue.ofVariable text = .float number)
      (printed : number.toText = text)
  | plain (read : LayerValue.ofVariable text = .text text)

theorem with_text_value (settings : Settings) (text : Text) {key : Key} (own : key ∈ Key.texts) :
    (settings.withText text key).value key = .string text ∧
      ∀ other, other ≠ key → (settings.withText text key).value other = settings.value other := by
  simp only [Key.texts, List.mem_cons, List.not_mem_nil, or_false] at own
  rcases own with rfl | rfl | rfl <;> refine ⟨rfl, ?_⟩ <;> intro other apart <;>
    cases other <;> first | contradiction | rfl

theorem name_known (key : Key) : Key.ofName? key.name = some key := by
  cases key <;> decide

theorem name_injective {key other : Key} (same : key.name = other.name) : key = other := by
  have known := congrArg Key.ofName? same
  rwa [name_known, name_known, Option.some.injEq] at known

theorem set_text (settings : Settings) {text : Text} (filled : text ≠ [])
    (trimmed : Text.Trimmed text) {key : Key} (own : key ∈ Key.texts) :
    settings.set key.name text = .ok (settings.withText text key) := by
  simp only [Key.texts, List.mem_cons, List.not_mem_nil, or_false] at own
  rw [set, name_known]
  rcases own with rfl | rfl | rfl
  · rfl
  · simp [update?, Text.trim_trimmed trimmed, filled, withText]
  · rfl

/-! What a variable is read as. -/

/-- What a text is read as from a variable, and what is printed again. -/
theorem variable_cases (text : Text) :
    (LayerValue.ofVariable text = .bool true ∧ Text.lowercase text = "true" ∧
      reprinted text = "true") ∨
    (LayerValue.ofVariable text = .bool false ∧ Text.lowercase text = "false" ∧
      reprinted text = "false") ∨
    (∃ number, LayerValue.ofVariable text = .integer number ∧
      LayerValue.signedInteger? text = some number ∧ reprinted text = Text.ofInt number) ∨
    (∃ number, LayerValue.ofVariable text = .float number ∧ reprinted text = number.toText) ∨
    (LayerValue.ofVariable text = .text text ∧ reprinted text = text) := by
  rw [LayerValue.ofVariable, reprinted]
  by_cases yes : Text.lowercase text = "true"
  · exact .inl ⟨if_pos yes, yes, if_pos yes⟩
  by_cases no : Text.lowercase text = "false"
  · simp [no]
  right
  right
  simp only [if_neg yes, if_neg no]
  cases LayerValue.signedInteger? text with
  | some number => exact .inl ⟨number, rfl, rfl, rfl⟩
  | none =>
      right
      cases Binary64.ofText? text with
      | some number => exact .inl ⟨number, rfl, rfl⟩
      | none => exact .inr ⟨rfl, rfl⟩

theorem variable_as_text (text : Text) :
    (LayerValue.ofVariable text).asText = .ok (reprinted text) ∧
      (LayerValue.ofVariable text).asOptionalText = .ok (some (reprinted text)) ∧
      (LayerValue.ofVariable text).isTable = false := by
  rcases variable_cases text with ⟨read, _, printed⟩ | ⟨read, _, printed⟩ |
    ⟨number, read, _, printed⟩ | ⟨number, read, printed⟩ | ⟨read, printed⟩ <;>
    rw [read, printed] <;> exact ⟨rfl, rfl, rfl⟩

theorem nat_below_of_nat {limit number : Nat} (below : number < limit) :
    Text.natBelow? limit (Text.ofNat number) = some number := by
  have digits := digits_of_nat number
  have decimal : (Text.ofNat number).all Char.isDigit = true := List.all_eq_true.mpr digits.decimal
  rw [Text.natBelow?, Text.nat?, decimal, if_neg (by simp [digits.filled]), digits_value_of_nat,
    Option.filter_some, if_pos (by simpa using below)]

/-- The decimal form of an integer of 64 bits is read as this integer. -/
theorem signed_integer_of_int {number : Int} (least : -(twoTo 63 : Int) ≤ number)
    (most : number < twoTo 63) : LayerValue.signedInteger? (Text.ofInt number) = some number := by
  rw [Text.ofInt]
  split
  · have below : number.natAbs < twoTo 63 + 1 := by omega
    rw [LayerValue.signedInteger?, nat_below_of_nat below]
    have value : -(number.natAbs : Int) = number := by omega
    exact congrArg some value
  · have below : number.natAbs < twoTo 63 := by omega
    have read := nat_below_of_nat below
    have value : (number.natAbs : Int) = number := by omega
    obtain ⟨digit, digits, spelled, decimal⟩ := of_nat_starts number.natAbs
    have unsigned : digit ≠ '-' ∧ digit ≠ '+' := by
      constructor <;> rintro rfl <;> exact absurd decimal (by decide)
    rw [spelled] at read ⊢
    have unmarked : Text.signedNatBelow? (twoTo 63) (digit :: digits) = some number.natAbs := by
      rw [Text.signedNatBelow?.eq_def]
      split
      · simp_all
      · exact read
    rw [LayerValue.signedInteger?.eq_def]
    split
    · simp_all
    · rw [unmarked]
      exact congrArg some value

theorem lowercase_sign_or_digit {c : Char} (shape : c = '-' ∨ c.isDigit = true) (rest : Text) :
    ∃ lower, Text.lowercase (c :: rest) = c :: lower := by
  -- All of these characters stand before the colon.
  have points : ∀ point ∈ List.range 58, (point = 45 ∨ 48 ≤ point) →
      Char.ofNat point ≠ 'Σ' ∧ Text.lowerChar (Char.ofNat point) = [Char.ofNat point] := by
    decide
  have inside : c.toNat < 58 ∧ (c.toNat = 45 ∨ 48 ≤ c.toNat) := by
    rcases shape with rfl | digit
    · decide
    · rw [Char.isDigit, Bool.and_eq_true, decide_eq_true_eq, decide_eq_true_eq] at digit
      have least := UInt32.le_iff_toNat_le.mp digit.1
      have most := UInt32.le_iff_toNat_le.mp digit.2
      exact ⟨Nat.lt_succ_of_le most, .inr least⟩
  obtain ⟨other, same⟩ := points c.toNat (List.mem_range.mpr inside.1) inside.2
  rw [Char.ofNat_toNat] at other same
  refine ⟨Text.lowercaseBehind [c] rest, ?_⟩
  rw [Text.lowercase, Text.lowercaseBehind, if_neg other, same]
  rfl

/-- The decimal form of an integer is no word. -/
theorem lowercase_of_int (number : Int) :
    ∃ c rest, Text.lowercase (Text.ofInt number) = c :: rest ∧ (c = '-' ∨ c.isDigit = true) := by
  obtain ⟨c, rest, spelled, shape⟩ : ∃ c rest, Text.ofInt number = c :: rest ∧
      (c = '-' ∨ c.isDigit = true) := by
    rw [Text.ofInt]
    split
    · exact ⟨_, _, rfl, .inl rfl⟩
    · obtain ⟨digit, digits, spelled, decimal⟩ := of_nat_starts number.natAbs
      exact ⟨digit, digits, spelled, .inr decimal⟩
  obtain ⟨lower, same⟩ := lowercase_sign_or_digit shape rest
  exact ⟨c, lower, spelled ▸ same, shape⟩

/-- Exactly the settled texts are stored as they are. -/
theorem reprinted_eq_iff (text : Text) : reprinted text = text ↔ Settled text := by
  constructor
  · intro same
    rcases variable_cases text with ⟨_, _, printed⟩ | ⟨_, _, printed⟩ |
      ⟨number, _, read, printed⟩ | ⟨number, read, printed⟩ | ⟨read, _⟩
    · exact .word (.inl (same.symm.trans printed))
    · exact .word (.inr (same.symm.trans printed))
    · obtain ⟨least, most⟩ := LayerValue.signed_integer_range read
      exact .integer least most (same.symm.trans printed)
    · exact .float read (printed.symm.trans same)
    · exact .plain read
  · intro settled
    cases settled with
    | word spelled => rcases spelled with rfl | rfl <;> decide
    | @integer number least most printed =>
        obtain ⟨c, rest, lower, shape⟩ := lowercase_of_int number
        subst printed
        rw [reprinted, lower, if_neg, if_neg, signed_integer_of_int least most]
        · intro equal
          rw [(List.cons.inj equal).1] at shape
          exact absurd shape (by decide)
        · intro equal
          rw [(List.cons.inj equal).1] at shape
          exact absurd shape (by decide)
    | @float number read printed =>
        rcases variable_cases text with ⟨other, _⟩ | ⟨other, _⟩ | ⟨_, other, _⟩ |
          ⟨found, here, shown⟩ | ⟨other, _⟩
        · simp [read] at other
        · simp [read] at other
        · simp [read] at other
        · obtain rfl : number = found := by simpa [read] using here
          exact shown.trans printed
        · simp [read] at other
    | plain read =>
        rcases variable_cases text with ⟨other, _⟩ | ⟨other, _⟩ | ⟨_, other, _⟩ | ⟨_, other, _⟩ |
          ⟨_, shown⟩
        · simp [read] at other
        · simp [read] at other
        · simp [read] at other
        · simp [read] at other
        · exact shown

/-! The variable among the other layers. -/

namespace Stack

theorem add_append (stack : Stack) (origin : Text) (front rest : List (Text × LayerValue)) :
    stack.add ⟨origin, front ++ rest⟩ = (stack.add ⟨origin, front⟩).add ⟨origin, rest⟩ :=
  List.foldl_append

/-- Stacks that agree but for one name do so after a layer that does not address it. -/
theorem add_agree {first second : Stack} {layer : Layer} {excluded : Text}
    (apart : ∀ entry ∈ layer.values, excluded ≠ Text.lowercase (Place.ofKey entry.1).1)
    (agree : ∀ name, name ≠ excluded → first.lookup name = second.lookup name) :
    ∀ name, name ≠ excluded → (first.add layer).lookup name = (second.add layer).lookup name := by
  obtain ⟨origin, values⟩ := layer
  rw [add, add]
  dsimp only at apart ⊢
  induction values generalizing first second with
  | nil => exact agree
  | cons entry values induction =>
      obtain ⟨here, others⟩ := List.forall_mem_cons.mp apart
      refine induction ?_ others
      intro name other
      simp only [put]
      by_cases same : name = Text.lowercase (Place.ofKey entry.1).1
      · rw [← same, lookup_set_self, lookup_set_self, agree name other]
      · rw [lookup_set_other _ same, lookup_set_other _ same, agree name other]

end Stack

/-- What a variable puts into the layer of the environment. -/
def entryOfVariable (binding : Text × Text) : Option (Text × LayerValue) :=
  (Text.after? variableStart (Text.lowercase binding.1)).map fun key =>
    (key, LayerValue.ofVariable binding.2)

theorem environment_layer_eq (bindings : List (Text × Text)) :
    environmentLayer ⟨bindings⟩ = ⟨"the environment", bindings.filterMap entryOfVariable⟩ := rfl

theorem entry_of_variable (key : Key) (text : Text) :
    entryOfVariable (key.variable, text) = some (key.name, LayerValue.ofVariable text) := by
  have named : Text.after? variableStart (Text.lowercase key.variable) = some key.name := by
    cases key <;> decide
  rw [entryOfVariable, named, Option.map_some]

section Variable

variable {key : Key} {front rest : List (Text × Text)} (last : ¬ Overridden ⟨rest⟩ key)

include last

theorem rest_apart : ∀ entry ∈ rest.filterMap entryOfVariable,
    key.name ≠ Text.lowercase (Place.ofKey entry.1).1 := by
  intro entry member addressed
  obtain ⟨binding, there, read⟩ := List.mem_filterMap.mp member
  obtain ⟨address, after, rfl⟩ := Option.map_eq_some_iff.mp read
  exact last ⟨binding, there, address, after, addressed.symm⟩

/-- The last variable for a setting is what the setting is read from, and changes nothing else. -/
theorem variable_lookup (layer : Layer) (text : Text) :
    (Stack.ofLayers [layer, environmentLayer ⟨front ++ (key.variable, text) :: rest⟩]).lookup
        key.name = some ⟨LayerValue.ofVariable text, some "the environment"⟩ ∧
      ∀ name, name ≠ key.name →
        (Stack.ofLayers [layer, environmentLayer ⟨front ++ (key.variable, text) :: rest⟩]).lookup
            name =
          (Stack.ofLayers [layer, environmentLayer ⟨front ++ rest⟩]).lookup name := by
  have apart := rest_apart last
  have single := (variable_as_text text).2.2
  rw [environment_layer_eq, environment_layer_eq, List.filterMap_append, List.filterMap_append,
    List.filterMap_cons_some (entry_of_variable key text)]
  simp only [Stack.ofLayers, List.foldl_cons, List.foldl_nil]
  rw [Stack.add_append, Stack.add_append]
  generalize (Stack.add [] layer).add ⟨"the environment", front.filterMap entryOfVariable⟩ = stack
  have placed : stack.add ⟨"the environment",
      (key.name, LayerValue.ofVariable text) :: rest.filterMap entryOfVariable⟩ =
        (stack.set key.name ⟨LayerValue.ofVariable text, some "the environment"⟩).add
          ⟨"the environment", rest.filterMap entryOfVariable⟩ := by
    rw [Stack.add, List.foldl_cons, Stack.put_plain _ _ (name_plain key) single]
    rfl
  rw [placed]
  constructor
  · rw [Stack.lookup_add_other apart, Stack.lookup_set_self]
  · apply Stack.add_agree apart
    intro name other
    exact Stack.lookup_set_other stack other _

end Variable

theorem overlaid_text {base before : Settings} {first second : Stack} {key : Key}
    (own : key ∈ Key.texts) {sourced : Sourced} (found : second.lookup key.name = some sourced)
    (agree : ∀ name, name ≠ key.name → second.lookup name = first.lookup name) {text : Text}
    (asText : sourced.value.asText = .ok text)
    (asOptional : sourced.value.asOptionalText = .ok (some text))
    (overlaid : Overlaid base first before) :
    Overlaid base second (before.withText text key) := by
  have other : ∀ {α : Type} {known : Key}, known ≠ key →
      ∀ (convert : LayerValue → Except LayerValue.Mismatch α) (otherwise : α),
        read second known convert otherwise = read first known convert otherwise := by
    intro α known apart convert otherwise
    rw [read, read, agree _ fun same => apart (name_injective same)]
  obtain ⟨path, model, verbose, directory, seconds, all⟩ := overlaid
  simp only [Key.texts, List.mem_cons, List.not_mem_nil, or_false] at own
  rcases own with rfl | rfl | rfl
  · exact ⟨read_found found _ asText _, (other (by decide) _ _).trans model,
      (other (by decide) _ _).trans verbose, (other (by decide) _ _).trans directory,
      (other (by decide) _ _).trans seconds, (other (by decide) _ _).trans all⟩
  · exact ⟨(other (by decide) _ _).trans path, read_found found _ asOptional _,
      (other (by decide) _ _).trans verbose, (other (by decide) _ _).trans directory,
      (other (by decide) _ _).trans seconds, (other (by decide) _ _).trans all⟩
  · exact ⟨(other (by decide) _ _).trans path, (other (by decide) _ _).trans model,
      (other (by decide) _ _).trans verbose, read_found found _ asText _,
      (other (by decide) _ _).trans seconds, (other (by decide) _ _).trans all⟩

/-- Whether a value can be read in the type of a key. -/
def Key.accepts (key : Key) (value : LayerValue) : Bool :=
  match key with
  | .compilerPath | .outputDirectory => value.asText.isOk
  | .gpuModel => value.asOptionalText.isOk
  | .verbose | .includeAllVariants => value.asBool.isOk
  | .timeoutSeconds => value.asCount.isOk

theorem read_error {α : Type} {stack : Stack} {key : Key}
    {convert : LayerValue → Except LayerValue.Mismatch α} {otherwise : α} {error : SettingsError}
    (failed : read stack key convert otherwise = .error error) :
    ∃ sourced problem, stack.lookup key.name = some sourced ∧
      (convert sourced.value).isOk = false ∧ error = .mistyped problem ∧
      problem.key = key.name := by
  rw [read] at failed
  split at failed
  · simp at failed
  · rename_i sourced found
    cases converted : convert sourced.value with
    | ok value =>
        rw [converted] at failed
        cases failed
    | error mismatch =>
        rw [converted] at failed
        cases failed
        exact ⟨sourced, _, found, by rw [converted]; rfl, rfl, rfl⟩

theorem bind_error {ε α β : Type} {first : Except ε α} {next : α → Except ε β} {error : ε}
    (whole : first.bind next = .error error) :
    first = .error error ∨ ∃ value, first = .ok value ∧ next value = .error error := by
  cases first with
  | error cause => exact .inl (congrArg Except.error (Except.error.inj whole))
  | ok value => exact .inr ⟨value, rfl, whole⟩

/-- Layers fail to go over settings only where a key is given a value that it does not accept. -/
theorem overlay_error {base : Settings} {layers : List Layer} {error : SettingsError}
    (failed : overlay base layers = .error error) :
    ∃ (key : Key) (sourced : Sourced) (problem : Mistyped),
      (Stack.ofLayers layers).lookup key.name = some sourced ∧
      key.accepts sourced.value = false ∧ error = .mistyped problem ∧ problem.key = key.name := by
  rw [overlay] at failed
  rcases bind_error failed with refused | ⟨_, _, failed⟩
  · exact ⟨.compilerPath, read_error refused⟩
  rcases bind_error failed with refused | ⟨_, _, failed⟩
  · exact ⟨.gpuModel, read_error refused⟩
  rcases bind_error failed with refused | ⟨_, _, failed⟩
  · exact ⟨.verbose, read_error refused⟩
  rcases bind_error failed with refused | ⟨_, _, failed⟩
  · exact ⟨.outputDirectory, read_error refused⟩
  rcases bind_error failed with refused | ⟨_, _, failed⟩
  · exact ⟨.timeoutSeconds, read_error refused⟩
  rcases bind_error failed with refused | ⟨_, _, failed⟩
  · exact ⟨.includeAllVariants, read_error refused⟩
  · cases failed

/-- A text that the last variable for a setting has, whatever stands in the file. The settings do not
fail to load on account of it. What they then hold under the key is the text as it is printed again
from the value that it is read as, and all else is as without the variable. A change by the key
stores the text itself, and the two agree exactly for settled texts. -/
theorem variable_reprinted {key : Key} (own : key ∈ Key.texts) {text : Text} (filled : text ≠ [])
    (trimmed : Text.Trimmed text) (tree : FileTree) (path : Text) (front : List (Text × Text))
    {rest : List (Text × Text)} (last : ¬ Overridden ⟨rest⟩ key) :
    (∀ loaded, load tree ⟨front ++ (key.variable, text) :: rest⟩ path = .ok loaded →
      loaded.value key = .string (reprinted text) ∧
      ∀ settings changed, set settings key.name text = .ok changed →
        changed.value key = .string text ∧
          (loaded.value key = changed.value key ↔ Settled text)) ∧
    (∀ error, load tree ⟨front ++ (key.variable, text) :: rest⟩ path = .error error →
      fileLayer tree path = .error error ∨
        ∃ problem, error = .mistyped problem ∧ problem.key ≠ key.name) ∧
    ∀ before, load tree ⟨front ++ rest⟩ path = .ok before →
      load tree ⟨front ++ (key.variable, text) :: rest⟩ path =
        .ok (before.withText (reprinted text) key) := by
  obtain ⟨asText, asOptional, _⟩ := variable_as_text text
  refine ⟨?_, ?_, ?_⟩
  · intro loaded ran
    obtain ⟨layer, _, overlaid⟩ := load_ok ran
    obtain ⟨found, _⟩ := variable_lookup last layer text
    have same := overlaid_text own found (fun _ _ => rfl) asText asOptional overlaid
    have value : loaded.value key = .string (reprinted text) :=
      (overlaid_same rfl overlaid same).trans (with_text_value loaded _ own).1
    refine ⟨value, ?_⟩
    intro settings changed granted
    rw [set_text settings filled trimmed own, Except.ok.injEq] at granted
    rw [value, ← granted, (with_text_value settings text own).1]
    refine ⟨rfl, ?_⟩
    rw [JsonValue.string.injEq]
    exact reprinted_eq_iff text
  · intro error failed
    cases file : fileLayer tree path with
    | error cause =>
        rw [load, file] at failed
        cases failed
        exact .inl rfl
    | ok layer =>
        right
        rw [load_layers file] at failed
        obtain ⟨other, sourced, problem, there, refused, rfl, named⟩ := overlay_error failed
        refine ⟨problem, rfl, ?_⟩
        intro same
        rw [named] at same
        obtain rfl := name_injective same
        obtain ⟨found, _⟩ := variable_lookup last layer text
        rw [found] at there
        obtain rfl := Option.some.inj there
        simp only [Key.texts, List.mem_cons, List.not_mem_nil, or_false] at own
        rcases own with rfl | rfl | rfl <;>
          simp [Key.accepts, asText, asOptional, Except.isOk, Except.toBool] at refused
  · intro before ran
    obtain ⟨layer, file, overlaid⟩ := load_ok ran
    obtain ⟨found, agree⟩ := variable_lookup last layer text
    have defaults : default ⟨front ++ (key.variable, text) :: rest⟩ = default ⟨front ++ rest⟩ := by
      have skipped : ∀ name, name ≠ key.variable →
          Environment.get? ⟨front ++ (key.variable, text) :: rest⟩ name =
            Environment.get? ⟨front ++ rest⟩ name := by
        intro name other
        have apart : (name == key.variable) = false := by simpa using other
        simp only [Environment.get?, List.lookup_append, List.lookup_cons, apart]
      apply default_congr <;> apply skipped <;> cases key <;> decide
    rw [load_layers file, overlay_iff, defaults]
    exact overlaid_text own found agree asText asOptional overlaid

/-- A model that is no number is loaded from its variable as a change by the key stores it. -/
theorem variable_reprinted_word :
    ∃ loaded changed,
      load ⟨[], []⟩ ⟨[("HOME", "/home/oracle"), ("SHADER_PERF_GPU_MODEL", "Mali-G78")]⟩ "s.json" =
        .ok loaded ∧
      (default ⟨[("HOME", "/home/oracle")]⟩).set "gpu_model" "Mali-G78" = .ok changed ∧
      loaded.value .gpuModel = changed.value .gpuModel ∧
      loaded = (default ⟨[("HOME", "/home/oracle")]⟩).withText (reprinted "Mali-G78") .gpuModel := by
  have free : ¬ Overridden ⟨[]⟩ .gpuModel := by
    rintro ⟨_, member, _⟩
    exact absurd member List.not_mem_nil
  have before : load ⟨[], []⟩ ⟨[("HOME", "/home/oracle")]⟩ "s.json" =
    .ok (default ⟨[("HOME", "/home/oracle")]⟩) := rfl
  obtain ⟨stores, _, onto⟩ := @variable_reprinted .gpuModel (by decide) "Mali-G78" (by decide)
    (by decide) ⟨[], []⟩ "s.json" [("HOME", "/home/oracle")] [] free
  have loaded := onto _ before
  have settled : Settled "Mali-G78" := .plain (by decide)
  obtain ⟨_, same⟩ := (stores _ loaded).2 (default ⟨[("HOME", "/home/oracle")]⟩) _ rfl
  exact ⟨_, _, loaded, rfl, same.mpr settled, rfl⟩

/-- A model that looks like a number is loaded without the zeros in front of it. -/
theorem zeros_lost :
    ∃ loaded changed,
      load ⟨[], []⟩ ⟨[("HOME", "/home/oracle"), ("SHADER_PERF_GPU_MODEL", "007")]⟩ "none.json" =
        .ok loaded ∧
      (default ⟨[("HOME", "/home/oracle")]⟩).set "gpu_model" "007" = .ok changed ∧
      loaded.gpuModel = some "7" ∧ changed.gpuModel = some "007" :=
  ⟨_, _, rfl, rfl, rfl, rfl⟩

end ShaderCost.Settings
