import ApiTypes.Command.Run
import ApiTypes.Proofs.Outcome
import Mathlib.Data.List.Induction

/-!
# Runs on several inputs

`modelLine inputs flags` is the command line that asks for the models of inputs.  A run on several
inputs comes to what the runs on each of them come to: it prints their models by their paths, or
it fails like the first one that fails: `run?_modelLine`.
-/

namespace ApiTypes

/-! ### The command line -/

/-- The command line that asks for the models of inputs, under further options. -/
def modelLine (inputs flags : List String) : List String :=
  "model" :: "-i" :: (inputs ++ flags)

namespace Grammar

variable {grammar : Grammar} {flag : Flag} {values inputs flags : List String}

/-- Plain arguments are values of an option that takes many. -/
theorem read_plain (hinputs : ∀ input ∈ inputs, kindOf input = .plain) :
  grammar.read [] (some ⟨flag, .many, values⟩) (inputs ++ flags) =
    grammar.read [] (some ⟨flag, .many, values ++ inputs⟩) flags
  := by
  induction inputs generalizing values with
  | nil => rw [List.nil_append, List.append_nil]
  | cons input rest ih =>
    obtain ⟨hinput, hrest⟩ := List.forall_mem_cons.mp hinputs
    rw [List.cons_append, List.append_cons values, ← ih hrest, read]
    simp [hinput]

/-- An option with values is complete before another one. -/
theorem read_flags (hvalues : values ≠ [])
    (hflags : ∀ argument ∈ flags.head?, kindOf argument ≠ .plain) :
  grammar.read [] (some ⟨flag, .many, values⟩) flags =
    (grammar.read [] none flags).map fun (given, rest) => (⟨flag, values⟩ :: given, rest)
  := by
  have hclose : close (some ⟨flag, .many, values⟩) = some [⟨flag, values⟩] := by
    rw [close, List.isEmpty_eq_false_iff.mpr hvalues]
    rfl
  have hnone : close none = some [] := rfl
  cases flags with
  | nil => simp only [read, hclose, hnone, Option.map_some]
  | cons argument rest =>
    have hargument := hflags argument rfl
    unfold read
    simp only [List.contains_nil, Bool.and_false, Bool.false_eq_true, if_false]
    cases hkind : kindOf argument with
    | plain => absurd hkind; apply hargument
    | separator => cases rest <;> simp [hclose, hnone]
    | long s | letters s =>
      dsimp only
      split
      · rfl
      · next given next _ =>
        cases Options.has given .help with
        | true => simp [hclose, hnone]
        | false => cases read grammar [] next rest <;> simp [hclose, hnone]

end Grammar

namespace Options

variable {flag : Flag} {inputs : List String} {given : Options}

theorem has_input_cons (hflag : flag ≠ .input) :
  has (⟨.input, inputs⟩ :: given) flag = given.has flag
  := by
  simp [has, hflag.symm]

theorem valuesOf_input_cons (hflag : flag ≠ .input) :
  valuesOf (⟨.input, inputs⟩ :: given) flag = given.valuesOf flag
  := by
  simp [valuesOf, hflag.symm]

theorem eachOnce_input_cons :
  eachOnce modelGrammar (⟨.input, inputs⟩ :: given) = given.eachOnce modelGrammar
  := by
  simp [eachOnce, modelGrammar, commonGrammar]

end Options

/-- What is asked for by the command line for the models of inputs. -/
theorem ofArguments?_modelLine {inputs flags : List String} (hinputs : inputs ≠ [])
    (hplain : ∀ input ∈ inputs, Grammar.kindOf input = .plain)
    (hflags : ∀ argument ∈ flags.head?, Grammar.kindOf argument ≠ .plain) :
  Request.ofArguments? (modelLine inputs flags) = do
    let (given, _) ← modelGrammar.read [] none flags
    let maxDepth ← given.maxDepth?
    let out ← given.path? .out
    if !given.eachOnce modelGrammar then none
    else if given.has .help then return .help .model
    else if given.conflict then none
    else return .command ⟨given.has .verbose, given.has .quiet, .model
      ⟨inputs ++ given.valuesOf .input, ⟨maxDepth, given.has .includeExcluded⟩, out⟩⟩
  := by
  have hread : modelGrammar.read [] none ("-i" :: (inputs ++ flags)) =
      (modelGrammar.read [] none flags).map fun (given, rest) =>
        (⟨.input, inputs⟩ :: given, rest) := by
    rw [← Grammar.read_flags hinputs hflags, ← List.nil_append inputs,
      ← Grammar.read_plain hplain]
    have hletters : Grammar.kindOf "-i" = .letters ['i'] := rfl
    have hoption : modelGrammar.readLetters ['i'] = some ([], some ⟨.input, .many, []⟩) := rfl
    conv_lhs => unfold Grammar.read
    simp only [Option.isNone_none, List.contains_nil, Bool.and_false, Bool.false_eq_true, if_false,
      hletters, hoption]
    apply Option.bind_fun_some
  have hline : Request.ofArguments? (modelLine inputs flags) =
      Request.model? [] ("-i" :: (inputs ++ flags)) := rfl
  rw [hline, Request.model?, hread]
  cases modelGrammar.read [] none flags with
  | none => rfl
  | some found =>
    obtain ⟨given, rest⟩ := found
    have hnone : ∀ flag, Options.has [] flag = false := fun _ => rfl
    have hinput : Options.valuesOf (⟨.input, inputs⟩ :: given) .input =
        inputs ++ Options.valuesOf given .input := rfl
    simp [Options.maxDepth?, Options.path?, Options.conflict, Options.valuesOf_input_cons,
      Options.has_input_cons, Options.eachOnce_input_cons, Invocation.ofCommand, hnone, hinput,
      hinputs]

/-- The same is asked for of other inputs under the same options. -/
theorem ofArguments?_modelLine_of_inputs {paths inputs flags : List String} {verbose quiet : Bool}
    {options : ModelOptions} {out : Option String} (hpaths : paths ≠ []) (hinputs : inputs ≠ [])
    (hplain : ∀ input ∈ paths ++ inputs, Grammar.kindOf input = .plain)
    (hflags : ∀ argument ∈ flags.head?, Grammar.kindOf argument ≠ .plain)
    (h : Request.ofArguments? (modelLine paths flags) =
      some (.command ⟨verbose, quiet, .model ⟨paths, options, out⟩⟩)) :
  Request.ofArguments? (modelLine inputs flags) =
    some (.command ⟨verbose, quiet, .model ⟨inputs, options, out⟩⟩)
  := by
  rw [List.forall_mem_append] at hplain
  rw [ofArguments?_modelLine hpaths hplain.1 hflags] at h
  rw [ofArguments?_modelLine hinputs hplain.2 hflags]
  simp only [Option.bind_eq_bind, Option.bind_eq_some_iff] at h ⊢
  obtain ⟨⟨given, rest⟩, hread, maxDepth, hmaxDepth, out, hout, h⟩ := h
  refine ⟨⟨given, rest⟩, hread, maxDepth, hmaxDepth, out, hout, ?_⟩
  split at h
  · simp at h
  · split at h
    · simp at h
    · split at h
      · simp at h
      · simp_all

/-! ### Models by their paths -/

namespace Named

variable {α : Type}

theorem collect_concat (list : Named α) (entry : String × α) :
  collect (list ++ [entry]) = insert entry.1 entry.2 (collect list)
  := List.foldl_concat ..

/-- Every name is there once, where it first stands. -/
theorem names_collect (list : Named α) :
  (collect list).names = list.names.eraseDups
  := by
  induction list using List.reverseRecOn with
  | nil => rfl
  | append_singleton rest entry ih =>
    have hnames : names (rest ++ [entry]) = names rest ++ [entry.1] := List.map_append
    rw [collect_concat, names_insert, ih, hnames, List.eraseDups_append]
    by_cases h : entry.1 ∈ names rest
    · simp [h, List.removeAll]
    · simp [h, List.removeAll, List.eraseDups_cons]

theorem mem_of_mem_collect {list : Named α} {entry : String × α} (h : entry ∈ collect list) :
  entry ∈ list
  := by
  induction list using List.reverseRecOn with
  | nil => simp [collect] at h
  | append_singleton rest last ih =>
    rw [collect_concat] at h
    rw [List.mem_append, List.mem_singleton]
    rcases eq_or_mem_of_mem_insert h with rfl | h
    · right
      rfl
    · left
      apply ih h

end Named

/-! ### Runs -/

/-- A run on several inputs comes to what the runs on each of them come to: it succeeds if they all
do, and then it prints an object with each path once, where it first stands, under which there is
what the run on that path prints.  Otherwise it prints nothing and reports the failure of the first
run that fails. -/
structure Outcome.IsBatch (batch : Outcome) (paths : List String) (single : String → Outcome) :
    Prop where
  succeeds_iff : batch.exitCode = 0 ↔ ∀ path ∈ paths, (single path).exitCode = 0
  printed_eq : batch.exitCode = 0 → ∃ models : Json.Members, models.names = paths.eraseDups ∧
    batch.printed = (Json.object models).pretty ++ "\n" ∧
    ∀ entry ∈ models, (single entry.1).printed = entry.2.pretty ++ "\n"
  failure_eq : batch.exitCode ≠ 0 → batch.printed = "" ∧
    ∃ before path after, paths = before ++ path :: after ∧
      (∀ earlier ∈ before, (single earlier).exitCode = 0) ∧ (single path).exitCode ≠ 0 ∧
      batch.failure = (single path).failure

namespace Command

variable {disk : Disk} {options : ModelOptions} {paths : List String}

/-- Inputs without wildcards stand for themselves. -/
theorem expandInputs_eq (hliteral : ∀ path ∈ paths, Glob.hasWildcards path = false) :
  expandInputs disk paths = .ok paths
  := by
  induction paths with
  | nil => rfl
  | cons path rest ih =>
    obtain ⟨hpath, hrest⟩ := List.forall_mem_cons.mp hliteral
    simp [expandInputs, expandInput, hpath, ih hrest, bind, Except.bind, pure, Except.pure]

/-- The models of documents are collected one after another. -/
theorem outcome_modelsOf :
  (modelsOf disk options paths).outcome =
    Outcome.flatCollect (fun path =>
      ((modelOf disk options path).outcome.map fun record => (path, record)).map ([·])) paths
  := by
  induction paths with
  | nil => rfl
  | cons path rest ih =>
    rw [modelsOf, Outcome.flatCollect]
    simp only [Report.outcome_bind, Report.outcome_pure, ih]
    cases (modelOf disk options path).outcome <;> rfl

/-- The models of documents that all have one come with their paths, in order. -/
theorem outcome_modelsOf_eq_ok_iff {models : Named Json} :
  (modelsOf disk options paths).outcome = .ok models ↔
    paths = models.names ∧
      ∀ entry ∈ models, (modelOf disk options entry.1).outcome = .ok entry.2
  := by
  induction paths generalizing models with
  | nil =>
    cases models <;> simp [modelsOf, Named.names]
  | cons path rest ih =>
    simp only [modelsOf, Report.outcome_bind, Report.outcome_pure, Outcome.bind_eq_ok_iff, ih]
    constructor
    · rintro ⟨record, hrecord, more, ⟨rfl, hmore⟩, ⟨⟩⟩
      exact ⟨rfl, List.forall_mem_cons.mpr ⟨hrecord, hmore⟩⟩
    · rintro ⟨hnames, hmodels⟩
      cases models with
      | nil => simp [Named.names] at hnames
      | cons entry more =>
        obtain ⟨rfl, rfl⟩ := List.cons.inj hnames
        obtain ⟨hentry, hmore⟩ := List.forall_mem_cons.mp hmodels
        exact ⟨entry.2, hentry, more, ⟨rfl, hmore⟩, rfl⟩

/-- The failure for documents is the one for the first that has no model. -/
theorem outcome_modelsOf_eq_error_iff {failure : Failure} :
  (modelsOf disk options paths).outcome = .error failure ↔
    ∃ before path after, paths = before ++ path :: after ∧
      (∀ earlier ∈ before, ∃ record, (modelOf disk options earlier).outcome = .ok record) ∧
      (modelOf disk options path).outcome = .error failure
  := by
  simp only [outcome_modelsOf, Outcome.flatCollect_eq_error_iff, Outcome.map_eq_error_iff,
    Outcome.map_eq_ok_iff]
  simp

theorem outcome_answer_model {out : Option String}
    (hliteral : ∀ path ∈ paths, Glob.hasWildcards path = false) :
  (answer disk (.model ⟨paths, options, out⟩)).outcome =
    (modelsOf disk options paths).outcome.map combine
  := by
  simp only [answer, expandInputs_eq hliteral, Report.outcome_bind, Report.outcome_ofExcept,
    Report.outcome_pure, Outcome.ok_bind, Outcome.bind_ok]

/-- The answer for a single input is its model. -/
theorem outcome_answer_model_singleton {path : String} {out : Option String}
    (hliteral : Glob.hasWildcards path = false) :
  (answer disk (.model ⟨[path], options, out⟩)).outcome = (modelOf disk options path).outcome
  := by
  rw [outcome_answer_model (List.forall_mem_singleton.mpr hliteral), outcome_modelsOf,
    Outcome.flatCollect_singleton, Outcome.map_map, Outcome.map_map]
  apply Outcome.map_id

/-- Several models are answered by their paths. -/
theorem combine_eq {models : Named Json} (h : 2 ≤ models.length) :
  combine models = .object (Named.collect models)
  := by
  match models with
  | _ :: _ :: _ => rfl

end Command

namespace Invocation

/-- The invocation that prints the models of inputs. -/
def ofInputs (verbose quiet : Bool) (options : ModelOptions) (inputs : List String) : Invocation :=
  ⟨verbose, quiet, .model ⟨inputs, options, none⟩⟩

variable {invocation : Invocation} {disk : Disk} {setting : Option String} {verbose quiet : Bool}
  {options : ModelOptions} {paths : List String} {path : String}

/-- The answer of a command that is not written to a file is printed. -/
theorem run_of_ok {record : Json} (hout : invocation.command.out? = none)
    (h : (invocation.command.answer disk).outcome = .ok record) :
  (invocation.run disk setting).exitCode = 0 ∧
  (invocation.run disk setting).printed = record.pretty ++ "\n"
  := by
  simp [run, Command.perform, Command.deliver, h, hout]

/-- A failure of a command is reported, and nothing is printed. -/
theorem run_of_error {failure : Failure}
    (h : (invocation.command.answer disk).outcome = .error failure) :
  (invocation.run disk setting).exitCode = 1 ∧
  (invocation.run disk setting).printed = "" ∧
  (invocation.run disk setting).failure = failure.report
  := by
  simp [run, Command.perform, h]

/-- The run on a single input prints its model, if there is one. -/
theorem run_singleton_of_ok {record : Json} (hliteral : Glob.hasWildcards path = false)
    (h : (Command.modelOf disk options path).outcome = .ok record) :
  ((ofInputs verbose quiet options [path]).run disk setting).exitCode = 0 ∧
  ((ofInputs verbose quiet options [path]).run disk setting).printed = record.pretty ++ "\n"
  := by
  apply run_of_ok rfl
  rw [← h]
  apply Command.outcome_answer_model_singleton hliteral

/-- The run on a single input reports the failure to make its model. -/
theorem run_singleton_of_error {failure : Failure} (hliteral : Glob.hasWildcards path = false)
    (h : (Command.modelOf disk options path).outcome = .error failure) :
  ((ofInputs verbose quiet options [path]).run disk setting).exitCode = 1 ∧
  ((ofInputs verbose quiet options [path]).run disk setting).printed = "" ∧
  ((ofInputs verbose quiet options [path]).run disk setting).failure = failure.report
  := by
  apply run_of_error
  rw [← h]
  apply Command.outcome_answer_model_singleton hliteral

/-- When there are models of all inputs, the run on several of them prints what the runs on each
of them print, by their paths. -/
theorem run_batch_of_ok {models : Named Json} (hlength : 2 ≤ paths.length)
    (hliteral : ∀ path ∈ paths, Glob.hasWildcards path = false)
    (h : (Command.modelsOf disk options paths).outcome = .ok models) :
  ((ofInputs verbose quiet options paths).run disk setting).exitCode = 0 ∧
  (∀ path ∈ paths, ((ofInputs verbose quiet options [path]).run disk setting).exitCode = 0) ∧
  ((ofInputs verbose quiet options paths).run disk setting).printed =
    (Json.object (Named.collect models)).pretty ++ "\n" ∧
  (Named.collect models).names = paths.eraseDups ∧
  ∀ entry ∈ Named.collect models,
    ((ofInputs verbose quiet options [entry.1]).run disk setting).printed = entry.2.pretty ++ "\n"
  := by
  obtain ⟨rfl, hmodels⟩ := Command.outcome_modelsOf_eq_ok_iff.mp h
  have hsingle : ∀ entry ∈ models, _ := fun entry hentry =>
    @run_singleton_of_ok disk setting verbose quiet options entry.1 entry.2
      (hliteral entry.1 (List.mem_map_of_mem hentry)) (hmodels entry hentry)
  have hanswer : ((ofInputs verbose quiet options models.names).command.answer disk).outcome =
      .ok (.object (Named.collect models)) := by
    apply (Command.outcome_answer_model hliteral).trans
    rw [h, ← Command.combine_eq]
    · rfl
    · simpa [Named.names] using hlength
  obtain ⟨hexit, hprinted⟩ := @run_of_ok _ disk setting _ rfl hanswer
  refine ⟨hexit, ?_, hprinted, Named.names_collect models, ?_⟩
  · intro path hpath
    obtain ⟨entry, hentry, rfl⟩ := List.mem_map.mp hpath
    apply (hsingle entry hentry).1
  · intro entry hentry
    apply (hsingle entry (Named.mem_of_mem_collect hentry)).2

/-- When there is no model of some input, the run on several of them fails like the run on the
first such one. -/
theorem run_batch_of_error {failure : Failure}
    (hliteral : ∀ path ∈ paths, Glob.hasWildcards path = false)
    (h : (Command.modelsOf disk options paths).outcome = .error failure) :
  ((ofInputs verbose quiet options paths).run disk setting).exitCode ≠ 0 ∧
  ((ofInputs verbose quiet options paths).run disk setting).printed = "" ∧
  ∃ before path after, paths = before ++ path :: after ∧
    (∀ earlier ∈ before,
      ((ofInputs verbose quiet options [earlier]).run disk setting).exitCode = 0) ∧
    ((ofInputs verbose quiet options [path]).run disk setting).exitCode ≠ 0 ∧
    ((ofInputs verbose quiet options paths).run disk setting).failure =
      ((ofInputs verbose quiet options [path]).run disk setting).failure
  := by
  obtain ⟨before, path, after, rfl, hbefore, hpath⟩ := Command.outcome_modelsOf_eq_error_iff.mp h
  have hanswer : ((ofInputs verbose quiet options (before ++ path :: after)).command.answer
      disk).outcome = .error failure := by
    apply (Command.outcome_answer_model hliteral).trans
    rw [h]
    rfl
  rw [List.forall_mem_append, List.forall_mem_cons] at hliteral
  obtain ⟨hearlier, hfirst, -⟩ := hliteral
  obtain ⟨hexit, hprinted, hreport⟩ := @run_of_error _ disk setting _ hanswer
  obtain ⟨hsingle, -, hsame⟩ :=
    @run_singleton_of_error disk setting verbose quiet options path failure hfirst hpath
  refine ⟨?_, hprinted, before, path, after, rfl, ?_, ?_, ?_⟩
  · simp [hexit]
  · intro earlier hmem
    obtain ⟨record, hrecord⟩ := hbefore earlier hmem
    apply (run_singleton_of_ok (hearlier earlier hmem) hrecord).1
  · simp [hsingle]
  · rw [hreport, hsame]

/-- The run on several inputs comes to what the runs on each of them come to. -/
theorem isBatch_run (hlength : 2 ≤ paths.length)
    (hliteral : ∀ path ∈ paths, Glob.hasWildcards path = false) :
  ((ofInputs verbose quiet options paths).run disk setting).IsBatch paths
    fun path => (ofInputs verbose quiet options [path]).run disk setting
  := by
  cases hmodels : (Command.modelsOf disk options paths).outcome with
  | ok models =>
    obtain ⟨hexit, hsingle, hprinted, hnames, hvalues⟩ :=
      @run_batch_of_ok disk setting verbose quiet _ _ _ hlength hliteral hmodels
    constructor
    case succeeds_iff => apply iff_of_true hexit hsingle
    case printed_eq =>
      intro _
      use Named.collect models
    case failure_eq =>
      intro hfailed
      absurd hfailed
      apply hexit
  | error failure =>
    obtain ⟨hexit, hprinted, before, path, after, hsplit, hearlier, hpath, hreport⟩ :=
      @run_batch_of_error disk setting verbose quiet _ _ _ hliteral hmodels
    constructor
    case succeeds_iff =>
      have hmem : path ∈ paths := by simp [hsplit]
      apply iff_of_false hexit
      intro hall
      apply hpath (hall path hmem)
    case printed_eq =>
      intro hdone
      absurd hexit
      apply hdone
    case failure_eq =>
      intro _
      use hprinted, before, path, after

end Invocation

/-- A run on several inputs without wildcards, whose answer is printed, comes to what the runs on
each of them come to under the same options. -/
theorem run?_modelLine {disk : Disk} {paths flags : List String} {setting : Option String}
    {verbose quiet : Bool} {options : ModelOptions} (hlength : 2 ≤ paths.length)
    (hplain : ∀ path ∈ paths, Grammar.kindOf path = .plain)
    (hliteral : ∀ path ∈ paths, Glob.hasWildcards path = false)
    (hflags : ∀ argument ∈ flags.head?, Grammar.kindOf argument ≠ .plain)
    (hrequest : Request.ofArguments? (modelLine paths flags) =
      some (.command (.ofInputs verbose quiet options paths))) :
  ∃ (batch : Outcome) (single : String → Outcome),
    run? disk (modelLine paths flags) setting = some batch ∧
    (∀ path ∈ paths, run? disk (modelLine [path] flags) setting = some (single path)) ∧
    batch.IsBatch paths single
  := by
  have hpaths : paths ≠ [] := by
    rintro rfl
    simp at hlength
  refine ⟨(Invocation.ofInputs verbose quiet options paths).run disk setting,
    fun path => (Invocation.ofInputs verbose quiet options [path]).run disk setting, ?_, ?_,
    Invocation.isBatch_run hlength hliteral⟩
  · rw [run?, hrequest]
    rfl
  · intro path hpath
    have hboth : ∀ input ∈ paths ++ [path], Grammar.kindOf input = .plain := by
      rw [List.forall_mem_append, List.forall_mem_singleton]
      use hplain, hplain path hpath
    rw [run?, ofArguments?_modelLine_of_inputs hpaths (List.cons_ne_nil path []) hboth hflags
      hrequest]
    rfl

/-- A disk with documents that have a model and one that has none. -/
def shelf : Disk where
  root := .directory [
    ("pets", .file (Json.object [("swagger", .string "2.0")]).pretty.toUTF8),
    ("shop", .file (Json.object [("swagger", .string "2.0"), ("host", .string "x")]).pretty.toUTF8),
    ("note", .file (Json.object []).pretty.toUTF8)]
  workingDirectory := []

/-- The pets and the shop have models, but neither the note nor what is missing. -/
theorem run?_modelLine_shelf :
  (∃ (batch : Outcome) (single : String → Outcome),
    run? shelf (modelLine ["pets", "shop", "pets"] ["-q"]) none = some batch ∧
    (∀ path ∈ ["pets", "shop", "pets"],
      run? shelf (modelLine [path] ["-q"]) none = some (single path)) ∧
    batch.IsBatch ["pets", "shop", "pets"] single ∧ batch.exitCode = 0) ∧
  ∃ (batch : Outcome) (single : String → Outcome),
    run? shelf (modelLine ["pets", "note", "none"] ["-q"]) none = some batch ∧
    (∀ path ∈ ["pets", "note", "none"],
      run? shelf (modelLine [path] ["-q"]) none = some (single path)) ∧
    batch.IsBatch ["pets", "note", "none"] single ∧ batch.exitCode = 1
  := by
  have hpets : (run? shelf (modelLine ["pets", "shop", "pets"] ["-q"]) none).map (·.exitCode) =
      some 0 := by
    decide +kernel
  have hnote : (run? shelf (modelLine ["pets", "note", "none"] ["-q"]) none).map (·.exitCode) =
      some 1 := by
    decide +kernel
  have hflags : ∀ argument ∈ ["-q"].head?, Grammar.kindOf argument ≠ .plain := by decide
  constructor
  · have hrequest : Request.ofArguments? (modelLine ["pets", "shop", "pets"] ["-q"]) =
        some (.command (.ofInputs false true {} ["pets", "shop", "pets"])) := rfl
    obtain ⟨batch, single, hbatch, hsingle, his⟩ :=
      @run?_modelLine shelf _ _ none _ _ _ (by decide) (by decide) (by decide) hflags hrequest
    refine ⟨batch, single, hbatch, hsingle, his, ?_⟩
    simpa [hbatch] using hpets
  · have hrequest : Request.ofArguments? (modelLine ["pets", "note", "none"] ["-q"]) =
        some (.command (.ofInputs false true {} ["pets", "note", "none"])) := rfl
    obtain ⟨batch, single, hbatch, hsingle, his⟩ :=
      @run?_modelLine shelf _ _ none _ _ _ (by decide) (by decide) (by decide) hflags hrequest
    refine ⟨batch, single, hbatch, hsingle, his, ?_⟩
    simpa [hbatch] using hnote

end ApiTypes
