import ApiTypes.Proofs.Command.Batch
import ApiTypes.Proofs.Files.Contents

/-!
# All or nothing

`command.Answers disk record` says what a command is to answer to the files of a disk.  A run
either gives the whole answer to the files as they are before it, or nothing: when it fails, it
prints nothing and leaves every file as it is, and when it succeeds, it prints the answer or else
writes it to the one file that is asked for.  This is `run?_isAllOrNothing`.
-/

namespace ApiTypes

namespace Command

variable {disk : Disk} {path text : String} {command : Command} {record : Json}
  {options : ModelOptions}

/-- The record is that of the model of the document in the file that a path names. -/
def IsModelOf (disk : Disk) (options : ModelOptions) (path : String) (record : Json) : Prop :=
  ∃ document model, loadDocument disk path = .ok document ∧
    (buildModel document options).outcome = .ok model ∧ record = model.toJson

/-- The record is what a command answers to the files of a disk. -/
inductive Answers (disk : Disk) : Command → Json → Prop
  /-- A single input is answered by its model. -/
  | single {request : ModelRequest} {path : String} {record : Json}
      (hpaths : expandInputs disk request.inputs = .ok [path])
      (hmodel : IsModelOf disk request.options path record) : Answers disk (.model request) record
  /-- Several inputs are answered by their models, each under its path. -/
  | several {request : ModelRequest} {models : Named Json}
      (hpaths : expandInputs disk request.inputs = .ok models.names) (hlength : models.length ≠ 1)
      (hmodels : ∀ entry ∈ models, IsModelOf disk request.options entry.1 entry.2) :
      Answers disk (.model request) (.object (Named.collect models))
  /-- A definition is answered by its type. -/
  | definition {request : DefinitionRequest} {document : Json} {type : Descriptor}
      (hdocument : loadDocument disk request.input = .ok document)
      (htype : (resolveDefinition document request.name request.maxDepth).outcome = .ok type) :
      Answers disk (.definition request) type.toJson

/-! ### Answers -/

theorem isModelOf_iff :
  IsModelOf disk options path record ↔ (modelOf disk options path).outcome = .ok record
  := by
  simp only [modelOf, Report.outcome_bind, Report.outcome_ofExcept, Report.outcome_mapError,
    Report.outcome_pure, Outcome.bind_eq_ok_iff, Outcome.mapError_eq_ok_iff, Except.ok.injEq]
  constructor
  · rintro ⟨document, model, hdocument, hmodel, rfl⟩
    exact ⟨document, hdocument, model, hmodel, rfl⟩
  · rintro ⟨document, hdocument, model, hmodel, rfl⟩
    exact ⟨document, model, hdocument, hmodel, rfl⟩

theorem combine_eq_of_length_ne {models : Named Json} (h : models.length ≠ 1) :
  combine models = .object (Named.collect models)
  := by
  match models with
  | [] => rfl
  | [_] => simp at h
  | _ :: _ :: _ => rfl

/-- What is answered to inputs is made of the models of the documents that they stand for. -/
theorem outcome_answer_model_eq_ok_iff {request : ModelRequest} :
  (answer disk (.model request)).outcome = .ok record ↔
    ∃ models : Named Json, expandInputs disk request.inputs = .ok models.names ∧
      (∀ entry ∈ models, IsModelOf disk request.options entry.1 entry.2) ∧
      combine models = record
  := by
  simp only [answer, Report.outcome_bind, Report.outcome_ofExcept, Report.outcome_pure,
    Outcome.bind_eq_ok_iff, outcome_modelsOf_eq_ok_iff, isModelOf_iff, Except.ok.injEq]
  constructor
  · rintro ⟨_, hpaths, models, ⟨rfl, hmodels⟩, rfl⟩
    exact ⟨models, hpaths, hmodels, rfl⟩
  · rintro ⟨models, hpaths, hmodels, rfl⟩
    exact ⟨_, hpaths, models, ⟨rfl, hmodels⟩, rfl⟩

/-- What is answered to the name of a definition is its type. -/
theorem outcome_answer_definition_eq_ok_iff {request : DefinitionRequest} :
  (answer disk (.definition request)).outcome = .ok record ↔
    ∃ document type, loadDocument disk request.input = .ok document ∧
      (resolveDefinition document request.name request.maxDepth).outcome = .ok type ∧
      type.toJson = record
  := by
  simp only [answer, Report.outcome_bind, Report.outcome_ofExcept, Report.outcome_mapError,
    Report.outcome_pure, Outcome.bind_eq_ok_iff, Outcome.mapError_eq_ok_iff, Except.ok.injEq]
  constructor
  · rintro ⟨document, hdocument, type, htype, rfl⟩
    exact ⟨document, type, hdocument, htype, rfl⟩
  · rintro ⟨document, type, hdocument, htype, rfl⟩
    exact ⟨document, hdocument, type, htype, rfl⟩

/-- A command comes to an answer exactly if that is what it is to answer. -/
theorem answers_iff :
  command.Answers disk record ↔ (command.answer disk).outcome = .ok record
  := by
  constructor
  · intro h
    cases h with
    | @single request path record hpaths hmodel =>
      apply outcome_answer_model_eq_ok_iff.mpr
      exact ⟨[(path, record)], hpaths, List.forall_mem_singleton.mpr hmodel, rfl⟩
    | several hpaths hlength hmodels =>
      apply outcome_answer_model_eq_ok_iff.mpr
      exact ⟨_, hpaths, hmodels, combine_eq_of_length_ne hlength⟩
    | definition hdocument htype =>
      apply outcome_answer_definition_eq_ok_iff.mpr
      exact ⟨_, _, hdocument, htype, rfl⟩
  · intro h
    cases command with
    | model request =>
      obtain ⟨models, hpaths, hmodels, rfl⟩ := outcome_answer_model_eq_ok_iff.mp h
      by_cases hlength : models.length = 1
      · obtain ⟨entry, rfl⟩ := List.length_eq_one_iff.mp hlength
        apply Answers.single hpaths (hmodels entry (List.mem_singleton.mpr rfl))
      · rw [combine_eq_of_length_ne hlength]
        apply Answers.several hpaths hlength hmodels
    | definition request =>
      obtain ⟨document, type, hdocument, htype, rfl⟩ := outcome_answer_definition_eq_ok_iff.mp h
      apply Answers.definition hdocument htype

/-! ### Delivery -/

/-- Making the directories that a file lies in leaves all files as they are. -/
theorem keepsFiles_prepare (disk : Disk) (path : String) :
  disk.KeepsFiles (prepare disk path).2
  := by
  unfold prepare
  cases Path.parent? path with
  | none => exact .refl disk
  | some directory => apply Disk.keepsFiles_makeDirectories

/-- A text that cannot be put into a file leaves all files as they are. -/
theorem keepsFiles_save_of_error {failure : Failure}
    (h : (save disk path text).1 = .error failure) :
  disk.KeepsFiles (save disk path text).2
  := by
  have hkeeps := keepsFiles_prepare disk path
  unfold save at h ⊢
  rcases hprepare : prepare disk path with ⟨_ | _, between⟩
  · rw [hprepare] at hkeeps
    exact hkeeps
  · rw [hprepare] at h hkeeps
    cases hwrite : between.write path text.toUTF8 with
    | error reason =>
      dsimp only
      rw [hwrite]
      exact hkeeps
    | ok after =>
      dsimp only at h
      rw [hwrite] at h
      cases h

/-- A text that is put into a file is found there, and no other file is changed. -/
theorem exists_isWritten_save_of_ok (h : (save disk path text).1 = .ok ()) :
  ∃ place, disk.IsWritten path text.toUTF8 (save disk path text).2 place
  := by
  have hkeeps := keepsFiles_prepare disk path
  unfold save at h ⊢
  rcases hprepare : prepare disk path with ⟨_ | _, between⟩
  · rw [hprepare] at h
    cases h
  · rw [hprepare] at h hkeeps
    cases hwrite : between.write path text.toUTF8 with
    | error reason =>
      dsimp only at h
      rw [hwrite] at h
      cases h
    | ok after =>
      obtain ⟨place, hplace⟩ := Disk.exists_isWritten_of_write hwrite
      use place
      dsimp only
      rw [hwrite]
      exact hplace.of_keepsFiles hkeeps

end Command

/-! ### Runs -/

/-- A run of a command on a disk either fails and leaves nothing behind, or it gives the answer to
the files of the disk: it prints the answer, or writes it to the file that is asked for, and
changes no other file. -/
structure Outcome.IsAllOrNothing (outcome : Outcome) (before : Disk) (command : Command) :
    Prop where
  exitCode_eq : outcome.exitCode = 0 ∨ outcome.exitCode = 1
  failed : outcome.exitCode = 1 → outcome.printed = "" ∧ before.KeepsFiles outcome.disk
  printed : outcome.exitCode = 0 → command.out? = none → before.KeepsFiles outcome.disk ∧
    ∃ record, command.Answers before record ∧ outcome.printed = record.pretty ++ "\n"
  written : ∀ path, outcome.exitCode = 0 → command.out? = some path → outcome.printed = "" ∧
    ∃ record place, command.Answers before record ∧
      before.IsWritten path record.pretty.toUTF8 outcome.disk place

namespace Outcome.IsAllOrNothing

variable {outcome : Outcome} {before : Disk} {command : Command} {record : Json}

theorem of_failed (hexit : outcome.exitCode = 1) (hprinted : outcome.printed = "")
    (hkeeps : before.KeepsFiles outcome.disk) :
  outcome.IsAllOrNothing before command
  where
  exitCode_eq := .inr hexit
  failed _ := ⟨hprinted, hkeeps⟩
  printed hdone := by simp [hexit] at hdone
  written _ hdone := by simp [hexit] at hdone

theorem of_printed (hout : command.out? = none) (hanswers : command.Answers before record)
    (hexit : outcome.exitCode = 0) (hprinted : outcome.printed = record.pretty ++ "\n")
    (hkeeps : before.KeepsFiles outcome.disk) :
  outcome.IsAllOrNothing before command
  where
  exitCode_eq := .inl hexit
  failed hfailed := by simp [hexit] at hfailed
  printed _ _ := ⟨hkeeps, record, hanswers, hprinted⟩
  written _ _ hpath := by simp [hout] at hpath

theorem of_written {path : String} {place : Location} (hout : command.out? = some path)
    (hanswers : command.Answers before record) (hexit : outcome.exitCode = 0)
    (hprinted : outcome.printed = "")
    (hwritten : before.IsWritten path record.pretty.toUTF8 outcome.disk place) :
  outcome.IsAllOrNothing before command
  where
  exitCode_eq := .inl hexit
  failed hfailed := by simp [hexit] at hfailed
  printed _ hnone := by simp [hout] at hnone
  written other _ hother := by
    obtain rfl : path = other := by simpa [hout] using hother
    exact ⟨hprinted, record, place, hanswers, hwritten⟩

end Outcome.IsAllOrNothing

namespace Invocation

variable {invocation : Invocation} {disk : Disk} {setting : Option String} {record : Json}
  {path : String}

/-- A run whose answer is put into a file prints nothing. -/
theorem run_of_save_ok (hout : invocation.command.out? = some path)
    (h : (invocation.command.answer disk).outcome = .ok record)
    (hsave : (Command.save disk path record.pretty).1 = .ok ()) :
  (invocation.run disk setting).exitCode = 0 ∧
  (invocation.run disk setting).printed = "" ∧
  (invocation.run disk setting).disk = (Command.save disk path record.pretty).2
  := by
  simp [run, Command.perform, Command.deliver, h, hout, hsave]

/-- A run whose answer cannot be put into a file fails. -/
theorem run_of_save_error {failure : Failure} (hout : invocation.command.out? = some path)
    (h : (invocation.command.answer disk).outcome = .ok record)
    (hsave : (Command.save disk path record.pretty).1 = .error failure) :
  (invocation.run disk setting).exitCode = 1 ∧
  (invocation.run disk setting).printed = "" ∧
  (invocation.run disk setting).disk = (Command.save disk path record.pretty).2
  := by
  simp [run, Command.perform, Command.deliver, h, hout, hsave]

/-- A run of a command is all or nothing. -/
theorem isAllOrNothing_run (invocation : Invocation) (disk : Disk) (setting : Option String) :
  (invocation.run disk setting).IsAllOrNothing disk invocation.command
  := by
  cases hanswer : (invocation.command.answer disk).outcome with
  | error failure =>
    obtain ⟨hexit, hprinted, -⟩ := @run_of_error invocation disk setting failure hanswer
    have hdisk : (invocation.run disk setting).disk = disk := by
      simp [run, Command.perform, hanswer]
    apply Outcome.IsAllOrNothing.of_failed hexit hprinted
    rw [hdisk]
    exact .refl disk
  | ok record =>
    have hanswers := Command.answers_iff.mpr hanswer
    cases hout : invocation.command.out? with
    | none =>
      obtain ⟨hexit, hprinted⟩ := @run_of_ok invocation disk setting record hout hanswer
      have hdisk : (invocation.run disk setting).disk = disk := by
        simp [run, Command.perform, Command.deliver, hanswer, hout]
      apply Outcome.IsAllOrNothing.of_printed hout hanswers hexit hprinted
      rw [hdisk]
      exact .refl disk
    | some path =>
      cases hsave : (Command.save disk path record.pretty).1 with
      | error failure =>
        obtain ⟨hexit, hprinted, hdisk⟩ := @run_of_save_error _ _ setting _ _ _ hout hanswer hsave
        apply Outcome.IsAllOrNothing.of_failed hexit hprinted
        rw [hdisk]
        apply Command.keepsFiles_save_of_error hsave
      | ok =>
        obtain ⟨hexit, hprinted, hdisk⟩ := @run_of_save_ok _ _ setting _ _ hout hanswer hsave
        obtain ⟨place, hwritten⟩ := Command.exists_isWritten_save_of_ok hsave
        apply Outcome.IsAllOrNothing.of_written hout hanswers hexit hprinted
        rw [hdisk]
        exact hwritten

end Invocation

/-- A command line that asks for a command makes a run that is all or nothing. -/
theorem run?_isAllOrNothing {arguments : List String} {invocation : Invocation} (disk : Disk)
    (setting : Option String)
    (hrequest : Request.ofArguments? arguments = some (.command invocation)) :
  ∃ outcome, run? disk arguments setting = some outcome ∧
    outcome.IsAllOrNothing disk invocation.command
  := by
  use invocation.run disk setting
  constructor
  · rw [run?, hrequest]
    rfl
  · apply invocation.isAllOrNothing_run

/-- The models of the pets and the shop are written over the pets, but with the note among the
inputs nothing is written. -/
theorem run?_isAllOrNothing_shelf :
  (∃ (invocation : Invocation) (outcome : Outcome),
    Request.ofArguments? ["model", "-i", "pets", "shop", "-o", "pets"] =
      some (.command invocation) ∧
    run? shelf ["model", "-i", "pets", "shop", "-o", "pets"] none = some outcome ∧
    outcome.IsAllOrNothing shelf invocation.command ∧ outcome.exitCode = 0) ∧
  ∃ (invocation : Invocation) (outcome : Outcome),
    Request.ofArguments? ["model", "-i", "pets", "note", "-o", "pets"] =
      some (.command invocation) ∧
    run? shelf ["model", "-i", "pets", "note", "-o", "pets"] none = some outcome ∧
    outcome.IsAllOrNothing shelf invocation.command ∧ outcome.exitCode = 1
  := by
  have hshop : (run? shelf ["model", "-i", "pets", "shop", "-o", "pets"] none).map (·.exitCode) =
      some 0 := by
    decide +kernel
  have hnote : (run? shelf ["model", "-i", "pets", "note", "-o", "pets"] none).map (·.exitCode) =
      some 1 := by
    decide +kernel
  constructor
  · have hrequest : Request.ofArguments? ["model", "-i", "pets", "shop", "-o", "pets"] =
        some (.command _) := rfl
    obtain ⟨outcome, hrun, his⟩ := run?_isAllOrNothing shelf none hrequest
    refine ⟨_, outcome, hrequest, hrun, his, ?_⟩
    simpa [hrun] using hshop
  · have hrequest : Request.ofArguments? ["model", "-i", "pets", "note", "-o", "pets"] =
        some (.command _) := rfl
    obtain ⟨outcome, hrun, his⟩ := run?_isAllOrNothing shelf none hrequest
    refine ⟨_, outcome, hrequest, hrun, his, ?_⟩
    simpa [hrun] using hnote

end ApiTypes
