import ShaderCost.Proofs.CommandLine.Running
import ShaderCost.Proofs.Report.Lines
import ShaderCost.Proofs.Settings.Updating

/-!
The GPU model on its two ways: to the compiler as an argument, and to the reader as a line of the
report. Both start from the same settings, and they agree for every model but the empty text, which
is no argument and yet a model in the report. Only an override or what is loaded gives such a model;
a change of the setting unsets it instead.
-/

namespace ShaderCost

namespace Compiler.Config

/-- The model that the words behind the path name: the word after the first `-c`. -/
def namedModel? : List Text → Option Text
  | [] => none
  | word :: words => if word = "-c".toList then words.head? else namedModel? words

theorem named_model_arguments (config : Config) (path : Text) :
    namedModel? (config.arguments path).tail =
      config.gpuModel.filter fun name => !name.isEmpty := by
  have without : namedModel? (if config.verbose then ["-d".toList] else []) = none := by
    cases config.verbose <;> decide
  rw [arguments]
  cases config.gpuModel with
  | none => exact without
  | some name =>
      cases name with
      | nil => exact without
      | cons c name => rfl

end Compiler.Config

namespace Report

/-- What stands in the model line of a report where there is no model. -/
def autoDetect : Text := "Auto-detect"

/-- Whether the model line of a report is `**GPU Model:** ` and then the given text. -/
def ShowsModel (header : Header) (analyses : List VariantAnalysis) (model : Text) : Prop :=
  document header analyses =
    headerText header model ++ (Text.below (contentLines analyses) ++ "\n")

theorem header_text_injective {header : Header} {left right : Text}
    (same : headerText header left = headerText header right) : left = right := by
  simp only [headerText, Text.join_lines_below, Text.below_cons] at same
  simpa using same

theorem shows_model_iff (header : Header) (analyses : List VariantAnalysis) (model : Text) :
    ShowsModel header analyses model ↔ model = header.gpuModel.getD autoDetect := by
  constructor
  · intro shown
    rw [ShowsModel, document_eq] at shown
    exact (header_text_injective (List.append_cancel_right shown)).symm
  · rintro rfl
    exact document_eq header analyses

end Report

namespace Settings

theorem update_model {settings changed : Settings} {value : Text} {key : Key}
    (updated : settings.update? value key = some changed) (other : key ≠ .gpuModel) :
    changed.gpuModel = settings.gpuModel := by
  cases key with
  | gpuModel => exact absurd rfl other
  | compilerPath | outputDirectory => rw [← Option.some.inj updated]
  | verbose | timeoutSeconds | includeAllVariants =>
      obtain ⟨_, _, rfl⟩ := Option.map_eq_some_iff.mp updated
      rfl

theorem update_model_filled {settings changed : Settings} {value : Text}
    (updated : settings.update? value .gpuModel = some changed) : changed.gpuModel ≠ some [] := by
  rw [← Option.some.inj updated]
  cases Text.trim value with
  | nil => simp
  | cons c name => simp

/-- A change of the model never makes it the empty text, and no other change touches it. -/
theorem set_model_empty (settings : Settings) (key value : Text) :
    ((settings.set key value).toOption.getD settings).gpuModel = some [] ↔
      settings.gpuModel = some [] ∧ key ≠ Key.gpuModel.name := by
  by_cases own : key = Key.gpuModel.name
  · obtain ⟨changed, updated⟩ : ∃ changed, settings.update? value .gpuModel = some changed :=
      ⟨_, rfl⟩
    have set : settings.set key value = .ok changed := by
      rw [own, Settings.set, show Key.ofName? Key.gpuModel.name = some .gpuModel by decide]
      exact congrArg Except.ok (Option.some.inj updated)
    rw [set]
    simp only [own, ne_eq, not_true, and_false, iff_false]
    exact update_model_filled updated
  · have kept : ((settings.set key value).toOption.getD settings).gpuModel = settings.gpuModel := by
      cases set : settings.set key value with
      | error cause => rfl
      | ok changed =>
          obtain ⟨known, found, updated⟩ := set_ok set
          have other : known ≠ .gpuModel := fun same => own (same ▸ key_of_name found)
          exact update_model updated other
    rw [kept]
    simp only [own, ne_eq, not_false_eq_true, and_true]

theorem changes_model_empty (settings : Settings) (changes : List (Text × Text)) :
    (settings.afterChanges changes).gpuModel = some [] ↔
      settings.gpuModel = some [] ∧ ∀ change ∈ changes, change.1 ≠ Key.gpuModel.name := by
  induction changes generalizing settings with
  | nil => simp [afterChanges]
  | cons change changes induction =>
      rw [afterChanges, List.foldl_cons, ← afterChanges, induction, set_model_empty,
        List.forall_mem_cons, and_assoc]

end Settings

namespace CommandLine

theorem with_gpu_empty (settings : Settings) (gpu : Option Text) :
    (withGpu settings gpu).gpuModel = some [] ↔
      gpu = some [] ∨ gpu = none ∧ settings.gpuModel = some [] := by
  have named : ∀ model ∈ Gpu.Model.all, model.name ≠ [] := by decide
  have unnamed : Gpu.Model.find? [] = none := by decide
  cases gpu with
  | none => simp [withGpu]
  | some name =>
      have override : (withGpu settings (some name)).gpuModel =
        some (((Gpu.Model.find? name).map Gpu.Model.name).getD name) := rfl
      rw [override]
      cases found : Gpu.Model.find? name with
      | none => simp
      | some model =>
          have other : name ≠ [] := fun empty => by simp [empty, unnamed] at found
          have member : model ∈ Gpu.Model.all := by
            unfold Gpu.Model.find? at found
            exact List.mem_of_find?_eq_some found
          have filled := named model member
          simp [filled, other]

/-- The override of the model in a command that has the compiler make a report. -/
def Command.override? : Command → Option (Option Text)
  | analyze _ _ gpu _ => some gpu
  | shader _ _ _ _ gpu _ _ => some gpu
  | _ => none

theorem present_output {surroundings : Surroundings} {invocation : Invocation}
    {settings : Settings} {shader : Text} {saves : Bool} {analyses : List VariantAnalysis}
    {tree after : FileTree} {reply : Reply}
    (presented : present surroundings invocation settings shader saves analyses tree =
      (.ok reply, after)) (shown : invocation.quiet = false) :
    reply.output =
      showAnalyses invocation.format ⟨shader, settings.gpuModel, surroundings.now⟩ analyses := by
  rw [present] at presented
  simp only [shown] at presented
  cases saves with
  | false =>
      cases presented
      rfl
  | true =>
      rw [if_pos rfl] at presented
      obtain ⟨saved, between, _, returned⟩ := filing_bind_ok presented
      cases returned
      rfl

/-- What a command shows that has the compiler make a report. -/
theorem perform_output {surroundings : Surroundings} {invocation : Invocation}
    {settings : Settings} {gpu : Option Text} (reports : invocation.command.override? = some gpu)
    {path : Text} {tree after : FileTree} {reply : Reply}
    (ran : perform surroundings invocation path settings tree = (.ok reply, after))
    (shown : invocation.quiet = false) :
    ∃ shader analyses, reply.output = showAnalyses invocation.format
      ⟨shader, (withGpu settings gpu).gpuModel, surroundings.now⟩ analyses := by
  rw [perform] at ran
  cases command : invocation.command with
  | analyze vertex fragment override saves =>
      rw [command] at ran reports
      cases reports
      obtain ⟨analysis, between, _, presented⟩ := filing_bind_ok ran
      exact ⟨_, _, present_output presented shown⟩
  | shader name dumpDirectory platform allVariants override workDirectory saves =>
      rw [command] at ran reports
      cases reports
      obtain ⟨analyses, between, _, presented⟩ := filing_bind_ok ran
      exact ⟨_, _, present_output presented shown⟩
  | extract | inspect | gpus | check | showSettings | changeSetting | completions =>
      rw [command] at reports
      cases reports

/-- Two stage files are analysed whatever the compiler does. -/
theorem perform_analyze (surroundings : Surroundings) (invocation : Invocation)
    {vertex fragment : Text} {gpu : Option Text}
    (command : invocation.command = .analyze vertex fragment gpu false)
    (shown : invocation.quiet = false) (path : Text) (settings : Settings) (tree : FileTree) :
    ∃ analysis after, perform surroundings invocation path settings tree =
      (.ok ⟨showAnalyses invocation.format
        ⟨shaderOf vertex, (withGpu settings gpu).gpuModel, surroundings.now⟩ [analysis],
        [], none⟩, after) := by
  rw [perform, command]
  dsimp only
  rw [filing_bind, filing_lift]
  dsimp only
  rw [present]
  simp only [shown]
  exact ⟨_, _, rfl⟩

/-- Whether the compiler is told the model that a report shows: the same one, or none where the
report says so. The text that says so is no model here. -/
def NamesToldModel (settings : Settings) (header : Report.Header)
    (analyses : List VariantAnalysis) : Prop :=
  ∀ path,
    let told := Compiler.Config.namedModel? (settings.compilerConfig.arguments path).tail
    (∀ model, model ≠ Report.autoDetect →
      (told = some model ↔ Report.ShowsModel header analyses model)) ∧
    (settings.gpuModel ≠ some Report.autoDetect →
      (told = none ↔ Report.ShowsModel header analyses Report.autoDetect))

theorem names_told_model_iff (settings : Settings) (shader : Text) (now : Calendar.Moment)
    (analyses : List VariantAnalysis) :
    NamesToldModel settings ⟨shader, settings.gpuModel, now⟩ analyses ↔
      settings.gpuModel ≠ some [] := by
  have model : settings.compilerConfig.gpuModel = settings.gpuModel := rfl
  simp only [NamesToldModel, Compiler.Config.named_model_arguments, Report.shows_model_iff, model]
  cases settings.gpuModel with
  | none => simp
  | some name =>
      cases name with
      | nil =>
          have apart : ([] : Text) ≠ Report.autoDetect := by decide
          constructor
          · intro told
            have wrong := ((told []).1 [] apart).mpr rfl
            simp at wrong
          · exact fun filled => absurd rfl filled
      | cons c name =>
          have named : (some (c :: name)).filter (fun name => !name.isEmpty) = some (c :: name) :=
            rfl
          rw [named]
          refine ⟨fun _ => by simp, fun _ path => ⟨fun other _ => ?_, fun apart => ?_⟩⟩
          · rw [Option.some.injEq, Option.getD_some, eq_comm]
          · simp only [Option.getD_some, reduceCtorEq, false_iff]
            exact fun same => apart (congrArg some same.symm)

/-- The compiler is told the model that reports show, unless the model in effect is the empty text,
which the compiler is not told. That text comes from an override, or from what was loaded when no
change of the model followed. -/
theorem reports_name_told_model (loaded : Settings) (changes : List (Text × Text))
    (gpu : Option Text) :
    let used := withGpu (loaded.afterChanges changes) gpu
    (∀ shader now analyses,
      NamesToldModel used ⟨shader, used.gpuModel, now⟩ analyses ↔ used.gpuModel ≠ some []) ∧
    (used.gpuModel = some [] ↔ gpu = some [] ∨ gpu = none ∧ loaded.gpuModel = some [] ∧
      ∀ change ∈ changes, change.1 ≠ Settings.Key.gpuModel.name) ∧
    ∀ surroundings invocation path tree reply after,
      invocation.command.override? = some gpu → invocation.quiet = false →
      invocation.format = .markdown →
      perform surroundings invocation path (loaded.afterChanges changes) tree =
        (.ok reply, after) →
      ∃ shader analyses,
        reply.output = Report.document ⟨shader, used.gpuModel, surroundings.now⟩ analyses := by
  intro used
  refine ⟨names_told_model_iff used, ?_, ?_⟩
  · rw [with_gpu_empty, Settings.changes_model_empty]
  · intro surroundings invocation path tree reply after reports shown markdown ran
    obtain ⟨shader, analyses, output⟩ := perform_output reports ran shown
    rw [markdown] at output
    exact ⟨shader, analyses, output⟩

/-- Surroundings without settings in variables. -/
def unset : Surroundings := ⟨⟨[("HOME", "/home/oracle")]⟩, ⟨0, 0, 0⟩⟩

/-- A run without an override. -/
def plainRun : Invocation :=
  ⟨.markdown, false, false, some "s.json", .analyze "w.vert" "w.frag" none false⟩

theorem reports_name_told_model_changed :
    let settings := (Settings.default unset.environment).afterChanges [("gpu_model", " G78 ")]
    let used := withGpu settings none
    used.gpuModel = some "G78".toList ∧
      ∃ reply after shader analyses,
        perform unset plainRun "s.json" settings ⟨[], []⟩ = (.ok reply, after) ∧
        reply.output = Report.document ⟨shader, used.gpuModel, unset.now⟩ analyses ∧
        NamesToldModel used ⟨shader, used.gpuModel, unset.now⟩ analyses := by
  intro settings used
  have model : used.gpuModel = some "G78".toList := rfl
  obtain ⟨names, _, runs⟩ := reports_name_told_model (Settings.default unset.environment)
    [("gpu_model", " G78 ")] none
  obtain ⟨analysis, after, performed⟩ :=
    perform_analyze unset plainRun rfl rfl "s.json" settings ⟨[], []⟩
  obtain ⟨shader, analyses, output⟩ := runs unset plainRun "s.json" ⟨[], []⟩ _ after rfl rfl rfl
    performed
  have filled : used.gpuModel ≠ some [] := by
    rw [model]
    decide
  exact ⟨model, _, after, shader, analyses, performed, output, (names shader _ analyses).mpr filled⟩

/-- A run under an override that is the empty text. -/
def emptyOverride : Invocation :=
  ⟨.markdown, false, false, some "s.json", .analyze "w.vert" "w.frag" (some []) false⟩

/-- An empty override is no argument of the compiler, and yet the report does not say that there is
no model. -/
theorem empty_override_shown :
    ∃ reply after header analyses settings,
      run unset emptyOverride ⟨[], []⟩ = (.ok reply, after) ∧
      Settings.load ⟨[], []⟩ unset.environment "s.json" = .ok settings ∧
      reply.output = Report.document header analyses ∧
      Compiler.Config.namedModel?
        ((withGpu settings (some [])).compilerConfig.arguments "w.vert").tail = none ∧
      ¬ Report.ShowsModel header analyses Report.autoDetect := by
  have loaded : Settings.load ⟨[], []⟩ unset.environment "s.json" =
    .ok (Settings.default unset.environment) := rfl
  have used : (withGpu (Settings.default unset.environment) (some [])).gpuModel = some [] :=
    (with_gpu_empty _ _).mpr (.inl rfl)
  obtain ⟨analysis, after, performed⟩ := perform_analyze unset emptyOverride rfl rfl "s.json"
    (Settings.default unset.environment) ⟨[], []⟩
  let overridden := withGpu (Settings.default unset.environment) (some [])
  let header : Report.Header := ⟨shaderOf "w.vert", overridden.gpuModel, unset.now⟩
  obtain ⟨reply, ran, output⟩ : ∃ reply, run unset emptyOverride ⟨[], []⟩ = (.ok reply, after) ∧
      reply.output = Report.document header [analysis] := by
    rw [run_loaded loaded]
    exact ⟨_, performed, rfl⟩
  refine ⟨reply, after, header, [analysis], _, ran, loaded, output, ?_, ?_⟩
  · rw [Compiler.Config.named_model_arguments]
    exact congrArg (Option.filter fun name => !name.isEmpty) used
  · rw [Report.shows_model_iff]
    dsimp only [header]
    rw [used]
    decide

end CommandLine

end ShaderCost
