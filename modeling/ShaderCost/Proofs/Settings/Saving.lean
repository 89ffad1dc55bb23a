import ShaderCost.Proofs.Files.Filing
import ShaderCost.Proofs.Files.Writing
import ShaderCost.Proofs.Settings.Loading

/-!
Settings that are saved and loaded again. Whatever stands in the texts, they come back as they were,
but for a timeout of more than 63 bits: its numeral is read as a binary64 number. What is said here
is about regular files; a device may keep nothing of what is saved to it.
-/

namespace ShaderCost.Settings

/-- A count of seconds as it comes back from a settings file. From the highest of 64 bits on it is
read as a binary64 number, and so as a multiple of 2048. -/
def reloadedCount (count : Nat) : Nat :=
  if count < twoTo 63 then count else min (timeoutLimit - 1) (2048 * Binary64.steps count)

/-- Settings as they come back from their file. -/
def reloaded (settings : Settings) : Settings :=
  { settings with timeoutSeconds := reloadedCount settings.timeoutSeconds }

theorem reloaded_count_eq_iff {count : Nat} (fits : count < timeoutLimit) :
    reloadedCount count = count ↔
      count < twoTo 63 ∨ 2048 ∣ count ∨ count = timeoutLimit - 1 := by
  by_cases small : count < twoTo 63
  · rw [reloadedCount, if_pos small]
    exact ⟨fun _ => .inl small, fun _ => rfl⟩
  · rw [reloadedCount, if_neg small]
    constructor
    · intro same
      by_cases last : timeoutLimit - 1 ≤ 2048 * Binary64.steps count
      · rw [Nat.min_eq_left last] at same
        exact .inr (.inr same.symm)
      · rw [Nat.min_eq_right (by omega)] at same
        exact .inr (.inl ⟨_, same.symm⟩)
    · rintro (below | ⟨multiple, rfl⟩ | rfl)
      · contradiction
      · have whole : Binary64.steps (2048 * multiple) = multiple := by
          rw [Binary64.steps, Nat.mul_comm]
          exact Binary64.round_quotient_exact multiple (by decide)
        rw [whole, Nat.min_eq_right (by omega)]
      · decide

theorem reloaded_eq_iff {settings : Settings} (fits : settings.timeoutSeconds < timeoutLimit) :
    settings.reloaded = settings ↔ settings.timeoutSeconds < twoTo 63 ∨
      2048 ∣ settings.timeoutSeconds ∨ settings.timeoutSeconds = timeoutLimit - 1 := by
  rw [← reloaded_count_eq_iff fits]
  constructor
  · exact congrArg timeoutSeconds
  · intro same
    rw [reloaded, same]

theorem reloaded_value {settings : Settings} {key : Key}
    (kept : key ≠ .timeoutSeconds ∨ settings.timeoutSeconds < twoTo 63) :
    settings.reloaded.value key = settings.value key := by
  cases key with
  | timeoutSeconds =>
      have small := kept.resolve_left fun other => other rfl
      rw [value, value, reloaded, reloadedCount, if_pos small]
  | compilerPath | gpuModel | verbose | outputDirectory | includeAllVariants => rfl

/-! What the file of some settings is read as. -/

/-- The members of the file. -/
def members (settings : Settings) : List (Text × JsonValue) :=
  Key.all.map fun key => (key.name, settings.value key)

theorem members_simple {settings : Settings} (fits : settings.timeoutSeconds < timeoutLimit) :
    ∀ entry ∈ settings.members, JsonValue.Simple entry.2 := by
  intro entry member
  obtain ⟨key, _, rfl⟩ := List.mem_map.mp member
  cases key with
  | compilerPath => exact .string _
  | gpuModel =>
      dsimp only
      rw [value]
      cases settings.gpuModel with
      | none => exact .null
      | some name => exact .string name
  | verbose => exact .bool _
  | outputDirectory => exact .string _
  | timeoutSeconds => exact .natural fits
  | includeAllVariants => exact .bool _

/-- What a setting is read as from the file. -/
def filed (settings : Settings) (key : Key) : LayerValue :=
  .ofJson (settings.value key).readBack

theorem filed_single (settings : Settings) (key : Key) :
    (settings.filed key).isTable = false := by
  rw [filed]
  cases key with
  | gpuModel =>
      rw [value]
      cases settings.gpuModel <;> rfl
  | timeoutSeconds =>
      rw [value, JsonValue.readBack, JsonValue.wholeNumber]
      split <;> rfl
  | compilerPath | verbose | outputDirectory | includeAllVariants => rfl

theorem model_filed (settings : Settings) :
    (settings.filed .gpuModel).asOptionalText = .ok settings.gpuModel := by
  rw [filed, value]
  cases settings.gpuModel <;> rfl

theorem count_filed {settings : Settings} (fits : settings.timeoutSeconds < timeoutLimit) :
    (settings.filed .timeoutSeconds).asCount = .ok (reloadedCount settings.timeoutSeconds) := by
  rw [filed, value, JsonValue.readBack, Int.toNat_natCast, JsonValue.wholeNumber, reloadedCount]
  by_cases small : settings.timeoutSeconds < twoTo 63
  · rw [if_pos small, if_pos small, LayerValue.ofJson, LayerValue.asCount, if_neg (by omega)]
    rfl
  · have large : Binary64.Large settings.timeoutSeconds := ⟨Nat.not_lt.mp small, fits⟩
    rw [if_neg small, if_neg small, LayerValue.ofJson, LayerValue.asCount, timeoutLimit,
      Binary64.round_large large]

/-- A layer with every setting leaves nothing of what it goes over. -/
theorem overlay_filed (base : Settings) {settings : Settings}
    (fits : settings.timeoutSeconds < timeoutLimit) (origin other : Text) :
    overlay base [wholeLayer origin settings.filed, ⟨other, []⟩] = .ok settings.reloaded := by
  have found := lookup_whole origin settings.filed_single
  rw [overlay_iff, Stack.of_layers_empty]
  generalize Stack.add [] (wholeLayer origin settings.filed) = stack at found
  constructor
  · exact read_found (found .compilerPath) LayerValue.asText rfl _
  · exact read_found (found .gpuModel) _ settings.model_filed _
  · exact read_found (found .verbose) LayerValue.asBool rfl _
  · exact read_found (found .outputDirectory) LayerValue.asText rfl _
  · exact read_found (found .timeoutSeconds) _ (count_filed fits) _
  · exact read_found (found .includeAllVariants) LayerValue.asBool rfl _

theorem file_layer_saved {tree : FileTree} {path : Text} (file : tree.isFile path = true)
    {settings : Settings} (fits : settings.timeoutSeconds < timeoutLimit)
    (holds : tree.readText path = .ok (settings.toJson.pretty 0)) :
    fileLayer tree path = .ok (wholeLayer (originOf path) settings.filed) := by
  have chosen : fileFor? tree path = some path := by
    rw [fileFor?, candidates, List.find?_cons_of_pos file]
  have filled : settings.members ≠ [] := List.cons_ne_nil _ _
  have read : JsonValue.ofText? (settings.toJson.pretty 0) =
      some (.object (JsonValue.readMembers settings.members)) :=
    JsonValue.read_object filled (members_simple fits)
  have distinct : ((JsonValue.readMembers settings.members).map Prod.fst).Nodup := by
    rw [JsonValue.readMembers, members, List.map_map, List.map_map]
    exact names_distinct
  rw [fileLayer, chosen]
  simp only [holds, read, last_of_each_distinct distinct]
  rfl

/-! Loading what was saved. -/

/-- Saving ends with one write, whatever directories it makes before. -/
theorem save_writes {path : Text} {settings : Settings} {tree after : FileTree}
    (saved : save path settings tree = (.ok (), after)) :
    ∃ made : FileTree, made.writeText path (settings.toJson.pretty 0) = .ok after := by
  rw [save] at saved
  cases parent : Path.parent? path with
  | none =>
      rw [parent] at saved
      exact ⟨tree, filing_write_ok saved⟩
  | some above =>
      rw [parent] at saved
      dsimp only at saved
      split at saved
      · exact ⟨tree, filing_write_ok saved⟩
      · obtain ⟨_, made, _, written⟩ := filing_bind_ok saved
        exact ⟨made, filing_write_ok written⟩

/-- What was saved to a file is loaded from it. -/
theorem load_saved {path : Text} {settings : Settings} {tree after : FileTree}
    (fits : settings.timeoutSeconds < timeoutLimit)
    (saved : save path settings tree = (.ok (), after))
    (file : after.isFile path = true) {environment : Environment} (unset : Unset environment) :
    load after environment path = .ok settings.reloaded := by
  obtain ⟨made, written⟩ := save_writes saved
  have holds := FileTree.read_text_written written file
  rw [load_layers (file_layer_saved file fits holds), environment_layer_unset unset,
    overlay_filed (default environment) fits]

/-! Settings that users can make. -/

theorem set_ok {settings changed : Settings} {key value : Text}
    (set : settings.set key value = .ok changed) :
    ∃ known, Key.ofName? key = some known ∧ settings.update? value known = some changed := by
  rw [Settings.set] at set
  split at set
  · simp at set
  · rename_i known found
    split at set
    · simp at set
    · rename_i updated
      exact ⟨known, found, Except.ok.inj set ▸ updated⟩

theorem update_fits {settings changed : Settings} {value : Text} {key : Key}
    (fits : settings.timeoutSeconds < timeoutLimit)
    (updated : settings.update? value key = some changed) :
    changed.timeoutSeconds < timeoutLimit := by
  cases key with
  | compilerPath | gpuModel | outputDirectory =>
      rw [← Option.some.inj updated]
      exact fits
  | verbose | includeAllVariants =>
      obtain ⟨_, _, rfl⟩ := Option.map_eq_some_iff.mp updated
      exact fits
  | timeoutSeconds =>
      obtain ⟨seconds, read, rfl⟩ := Option.map_eq_some_iff.mp updated
      exact signed_nat_below_bound (Option.filter_eq_some_iff.mp read).1

/-- What settings become by changes that succeed. -/
inductive Reachable (start : Settings) : Settings → Prop
  | unchanged : Reachable start start
  | set {settings changed : Settings} {key value : Text} (earlier : Reachable start settings)
      (set : settings.set key value = .ok changed) : Reachable start changed

theorem reachable_fits {start settings : Settings} (fits : start.timeoutSeconds < timeoutLimit)
    (reached : Reachable start settings) : settings.timeoutSeconds < timeoutLimit := by
  induction reached with
  | unchanged => exact fits
  | set _ set induction =>
      obtain ⟨known, _, updated⟩ := set_ok set
      exact update_fits induction updated

/-- Settings that users can make come back from the file that they were saved to, but for a timeout
beyond 63 bits that no binary64 number equals. -/
theorem saving_then_loading {home environment : Environment} {settings : Settings}
    (reached : Reachable (default home) settings) {tree after : FileTree} {path : Text}
    (saved : save path settings tree = (.ok (), after)) (file : after.isFile path = true)
    (unset : Unset environment) :
    load after environment path = .ok settings.reloaded ∧
      (settings.reloaded = settings ↔ settings.timeoutSeconds < twoTo 63 ∨
        2048 ∣ settings.timeoutSeconds ∨ settings.timeoutSeconds = timeoutLimit - 1) := by
  have fits := reachable_fits (default_fits home) reached
  exact ⟨load_saved fits saved file unset, reloaded_eq_iff fits⟩

theorem save_alone (settings : Settings) : save "s.json" settings ⟨[], []⟩ =
    (.ok (), ⟨[("s.json", .file (Text.toOctets (settings.toJson.pretty 0)) false)], []⟩) := rfl

theorem saving_then_loading_minute :
    ∃ settings after,
      (default ⟨[("HOME", "/home/oracle")]⟩).set "timeout_secs" "+60" = .ok settings ∧
      save "s.json" settings ⟨[], []⟩ = (.ok (), after) ∧
      load after ⟨[("HOME", "/home/oracle")]⟩ "s.json" = .ok settings := by
  have set : (default ⟨[("HOME", "/home/oracle")]⟩).set "timeout_secs" "+60" =
      .ok { default ⟨[("HOME", "/home/oracle")]⟩ with timeoutSeconds := 60 } := rfl
  have unset : Unset ⟨[("HOME", "/home/oracle")]⟩ :=
    List.forall_mem_singleton.mpr (by decide)
  obtain ⟨loaded, kept⟩ := saving_then_loading (.set .unchanged set) (save_alone _) rfl unset
  rw [kept.mpr (.inl (by decide))] at loaded
  exact ⟨_, _, set, save_alone _, loaded⟩

/-- A timeout just beyond 63 bits comes back as another one. -/
theorem large_timeout_changes :
    ∃ settings loaded after,
      (default ⟨[("HOME", "/home/oracle")]⟩).set "timeout_secs" "9223372036854775809" =
        .ok settings ∧
      save "s.json" settings ⟨[], []⟩ = (.ok (), after) ∧ after.isFile "s.json" = true ∧
      load after ⟨[("HOME", "/home/oracle")]⟩ "s.json" = .ok loaded ∧
      settings.timeoutSeconds = 9223372036854775809 ∧
      loaded.timeoutSeconds = 9223372036854775808 := by
  have set : (default ⟨[("HOME", "/home/oracle")]⟩).set "timeout_secs" "9223372036854775809" =
      .ok { default ⟨[("HOME", "/home/oracle")]⟩ with timeoutSeconds := 9223372036854775809 } := rfl
  have unset : Unset ⟨[("HOME", "/home/oracle")]⟩ :=
    List.forall_mem_singleton.mpr (by decide)
  have fits := reachable_fits (default_fits _) (.set .unchanged set)
  have count : reloadedCount 9223372036854775809 = 9223372036854775808 := by decide
  exact ⟨_, _, _, set, save_alone _, rfl, load_saved fits (save_alone _) rfl unset, rfl, count⟩

end ShaderCost.Settings
