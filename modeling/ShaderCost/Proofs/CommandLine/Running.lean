import ShaderCost.CommandLine.Execution
import ShaderCost.Proofs.Files.Filing
import ShaderCost.Proofs.Settings.Updating

/-!
Runs of the program as two steps: the settings are loaded, which leaves the files as they are, and
the command is carried out under them. A run that changes one setting saves the settings that were
in effect, with the one that was changed: where a variable of the environment goes over another
setting, its value goes into the file. All other settings stay as the file had them.
-/

namespace ShaderCost.CommandLine

section

variable {surroundings : Surroundings} {invocation : Invocation} {tree after : FileTree}

theorem run_loaded {settings : Settings}
    (loaded : Settings.load tree surroundings.environment
      (invocation.settingsFile surroundings.environment) = .ok settings) :
    run surroundings invocation tree = perform surroundings invocation
      (invocation.settingsFile surroundings.environment) settings tree := by
  have got : (get : Work FileTree) tree = (.ok tree, tree) := rfl
  rw [run, filing_bind, got]
  dsimp only
  rw [loaded]

theorem run_ok {reply : Reply} (ran : run surroundings invocation tree = (.ok reply, after)) :
    ∃ settings,
      Settings.load tree surroundings.environment
        (invocation.settingsFile surroundings.environment) = .ok settings ∧
      perform surroundings invocation (invocation.settingsFile surroundings.environment) settings
        tree = (.ok reply, after) := by
  cases loaded : Settings.load tree surroundings.environment
      (invocation.settingsFile surroundings.environment) with
  | ok settings => exact ⟨settings, rfl, (run_loaded loaded).symm.trans ran⟩
  | error cause =>
      rw [run] at ran
      obtain ⟨_, _, got, performed⟩ := filing_bind_ok ran
      cases got
      rw [loaded] at performed
      cases performed

end

theorem read_file_eq (path : Text) (tree : FileTree) :
    readFile path tree = ((tree.readText path).mapError (Trouble.unreadable path), tree) := rfl

theorem read_file_ok {path text : Text} {tree after : FileTree}
    (read : readFile path tree = (.ok text, after)) :
    tree.readText path = .ok text ∧ after = tree := by
  rw [read_file_eq] at read
  obtain ⟨result, rfl⟩ := Prod.mk.inj read
  refine ⟨?_, rfl⟩
  cases found : tree.readText path with
  | error cause =>
      rw [found] at result
      cases result
  | ok content =>
      rw [found] at result
      cases result
      rfl

theorem change_setting_ok {path key value : Text} {settings changed : Settings}
    {tree after : FileTree}
    (done : changeSetting path settings key value tree = (.ok changed, after)) :
    settings.set key value = .ok changed ∧ Settings.save path changed tree = (.ok (), after) := by
  rw [changeSetting] at done
  cases set : settings.set key value with
  | error cause =>
      rw [set] at done
      cases done
  | ok made =>
      rw [set] at done
      obtain ⟨_, between, saved, returned⟩ := filing_bind_ok done
      cases returned
      exact ⟨rfl, filing_adapt_ok saved⟩

/-- What a run tells that changed a setting. -/
theorem run_change {surroundings : Surroundings} {invocation : Invocation} {key value : Text}
    (command : invocation.command = .changeSetting key value) {tree after : FileTree}
    {reply : Reply} (ran : run surroundings invocation tree = (.ok reply, after)) :
    ∃ effective changed,
      Settings.load tree surroundings.environment
        (invocation.settingsFile surroundings.environment) = .ok effective ∧
      effective.set key value = .ok changed ∧
      Settings.save (invocation.settingsFile surroundings.environment) changed tree =
        (.ok (), after) := by
  obtain ⟨effective, loaded, performed⟩ := run_ok ran
  rw [perform, command] at performed
  obtain ⟨changed, between, done, returned⟩ := filing_bind_ok performed
  cases returned
  exact ⟨effective, changed, loaded, change_setting_ok done⟩

/-- A run changes a setting if the settings load, allow the change and can be saved. -/
theorem run_changes {surroundings : Surroundings} {invocation : Invocation} {key value : Text}
    (command : invocation.command = .changeSetting key value) {tree after : FileTree}
    {effective changed : Settings}
    (loaded : Settings.load tree surroundings.environment
      (invocation.settingsFile surroundings.environment) = .ok effective)
    (set : effective.set key value = .ok changed)
    (saved : Settings.save (invocation.settingsFile surroundings.environment) changed tree =
      (.ok (), after)) : ∃ reply, run surroundings invocation tree = (.ok reply, after) := by
  have change : changeSetting (invocation.settingsFile surroundings.environment) effective key
      value tree = (.ok changed, after) := by
    rw [changeSetting, set]
    dsimp only
    rw [filing_bind, carryOut, filing_adapt, saved]
    rfl
  rw [run_loaded loaded, perform, command]
  dsimp only
  rw [filing_bind, change]
  exact ⟨_, rfl⟩

/-- A run that changes a setting saves the settings that are in effect, with this one changed, and so
they are loaded without the variables afterwards. What no variable addresses is in effect as it was
loaded without them before. -/
theorem changing_saves_effective {surroundings : Surroundings} {invocation : Invocation}
    {key value path : Text} (command : invocation.command = .changeSetting key value)
    (place : invocation.settingsFile surroundings.environment = path) {tree after : FileTree}
    {reply : Reply} (ran : run surroundings invocation tree = (.ok reply, after))
    (file : after.isFile path = true) :
    ∃ known effective changed,
      Settings.Key.ofName? key = some known ∧
      Settings.load tree surroundings.environment path = .ok effective ∧
      effective.set key value = .ok changed ∧
      Settings.load after (Settings.withoutOverrides surroundings.environment) path =
        .ok changed.reloaded ∧
      ∀ other, other ≠ known →
        (other ≠ .timeoutSeconds ∨ changed.timeoutSeconds < twoTo 63 →
          changed.reloaded.value other = effective.value other) ∧
        (¬ Settings.Overridden surroundings.environment other → ∀ before,
          Settings.load tree (Settings.withoutOverrides surroundings.environment) path =
            .ok before → effective.value other = before.value other) := by
  obtain ⟨effective, changed, loaded, set, saved⟩ := run_change command ran
  rw [place] at loaded saved
  obtain ⟨known, found, updated⟩ := Settings.set_ok set
  have fits := Settings.update_fits (Settings.load_fits loaded) updated
  have plain := Settings.unset_without surroundings.environment
  refine ⟨known, effective, changed, found, loaded, set,
    Settings.load_saved fits saved file plain, ?_⟩
  intro other apart
  constructor
  · intro kept
    rw [Settings.reloaded_value kept, Settings.update_other updated apart]
  · intro free before earlier
    exact Settings.effective_same earlier loaded free

/-- A change where there is no other file, under a variable that asks for more output. -/
theorem run_alone : ∃ reply,
    run ⟨⟨[("HOME", "/home/oracle"), ("SHADER_PERF_VERBOSE", "true")]⟩, ⟨0, 0, 0⟩⟩
      ⟨.text, true, false, some "s.json", .changeSetting "gpu_model" "G78"⟩ ⟨[], []⟩ =
        (.ok reply, ⟨[("s.json", .file (Text.toOctets ((Settings.mk "malioc" (some "G78") true
          "/home/oracle/.local/share/shader-perf/reports" 30 false).toJson.pretty 0)) false)],
            []⟩) := by
  have loaded : Settings.load ⟨[], []⟩
      ⟨[("HOME", "/home/oracle"), ("SHADER_PERF_VERBOSE", "true")]⟩ "s.json" = .ok ⟨"malioc", none,
        true, "/home/oracle/.local/share/shader-perf/reports", 30, false⟩ := rfl
  exact run_changes rfl loaded rfl (Settings.save_alone _)

theorem changing_saves_effective_alone :
    ∃ reply after changed,
      run ⟨⟨[("HOME", "/home/oracle"), ("SHADER_PERF_VERBOSE", "true")]⟩, ⟨0, 0, 0⟩⟩
        ⟨.text, true, false, some "s.json", .changeSetting "gpu_model" "G78"⟩ ⟨[], []⟩ =
          (.ok reply, after) ∧
      Settings.load after (Settings.withoutOverrides
        ⟨[("HOME", "/home/oracle"), ("SHADER_PERF_VERBOSE", "true")]⟩) "s.json" =
          .ok (Settings.reloaded changed) := by
  obtain ⟨reply, ran⟩ := run_alone
  obtain ⟨_, _, changed, _, _, _, loaded, _⟩ := changing_saves_effective rfl rfl ran rfl
  exact ⟨reply, _, changed, ran, loaded⟩

/-- Under such a variable the change of one setting changes another one on file. -/
theorem override_enters_file :
    ∃ before saved after reply,
      Settings.load ⟨[], []⟩ ⟨[("HOME", "/home/oracle")]⟩ "s.json" = .ok before ∧
      run ⟨⟨[("HOME", "/home/oracle"), ("SHADER_PERF_VERBOSE", "true")]⟩, ⟨0, 0, 0⟩⟩
        ⟨.text, true, false, some "s.json", .changeSetting "gpu_model" "G78"⟩ ⟨[], []⟩ =
          (.ok reply, after) ∧
      Settings.load after ⟨[("HOME", "/home/oracle")]⟩ "s.json" = .ok saved ∧
      before.verbose = false ∧ saved.verbose = true := by
  have unset : Settings.Unset ⟨[("HOME", "/home/oracle")]⟩ :=
    List.forall_mem_singleton.mpr (by decide)
  have before : Settings.load ⟨[], []⟩ ⟨[("HOME", "/home/oracle")]⟩ "s.json" =
    .ok (Settings.default ⟨[("HOME", "/home/oracle")]⟩) := rfl
  obtain ⟨reply, ran⟩ := run_alone
  have saved := Settings.load_saved (by decide) (Settings.save_alone ⟨"malioc", some "G78", true,
    "/home/oracle/.local/share/shader-perf/reports", 30, false⟩) rfl unset
  exact ⟨_, _, _, reply, before, ran, saved, rfl, rfl⟩

end ShaderCost.CommandLine
