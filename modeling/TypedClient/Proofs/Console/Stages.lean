import TypedClient.Console.Session
import TypedClient.Proofs.Console.Readings
import TypedClient.Proofs.Files.Storing

/-!
# Where the making of a client may fail

What may be wrong is looked for stage by stage: whether the client would replace one of
its sources, then the document, then the template, then the overrides. Each stage fails
by itself, with a chain of causes that does not depend on the others, and the first one
that fails is reported, with nothing changed. If none fails all that is left is to store
the client.
-/

namespace TypedClient.Console

open TypedClient.Api (Document Overrides)
open TypedClient.Client (ClientSource NameStyle Template)
open TypedClient.Files (FilePath FileSystem)

/-- A stage on the way to a client, before anything is written. -/
inductive Stage where
  /-- The place of the client is compared with those of its sources. -/
  | outputCheck
  /-- The document is opened and parsed. -/
  | document
  /-- The template is read and parsed. -/
  | template
  /-- The overrides are read and parsed. -/
  | overrides
  deriving DecidableEq, Repr

namespace Stage

/-- The stages in the order in which they are tried. -/
def inOrder : List Stage := [outputCheck, document, template, overrides]

/-- A stage fails by itself with a chain of causes, whatever becomes of the others. -/
def Fails (r : Request) (read : Reader) : Stage → List String → Prop
  | outputCheck, chain =>
    (r.input.components = r.output.components ∨ r.template.components = r.output.components) ∧
      chain = ["Output path " ++ r.output.text ++ " would overwrite one of the inputs"]
  | document, chain => DocumentRead read r.input (.error chain)
  | template, chain => TemplateRead read r.template (.error chain)
  | overrides, chain => OverridesRead read r.overrides (.error chain)

end Stage

namespace Request

/-- A stage is the first one to fail. -/
structure FailsFirst (r : Request) (read : Reader) (stage : Stage) (chain : List String) :
    Prop where
  /-- It fails. -/
  fails : stage.Fails r read chain
  /-- None before it does. -/
  first : ∀ earlier ∈ Stage.inOrder.takeWhile (· ≠ stage), ∀ other, ¬ earlier.Fails r read other

/-- What the sources of a request are read as. -/
structure Reads (r : Request) (read : Reader) (document : Document) (template : Template)
    (overrides : Overrides) : Prop where
  /-- The document. -/
  document : DocumentRead read r.input (.ok document)
  /-- The template. -/
  template : TemplateRead read r.template (.ok template)
  /-- The overrides. -/
  overrides : OverridesRead read r.overrides (.ok overrides)

/-- The steps before the client is written. -/
def stepsTo (r : Request) (document : Document) (overrides : Overrides) (client : ClientSource) :
    List Step :=
  [.loading r.input, .loaded document] ++
    (r.overrides.map (Step.overridden · overrides.length)).toList ++
    [.generating, .generated client.tally, .writing r.output]

variable {r : Request} {read : Reader} {stage : Stage} {chain : List String}

/-- If a stage fails, one of them is the first to fail. -/
theorem exists_failsFirst (h : stage.Fails r read chain) :
    ∃ stage chain, r.FailsFirst read stage chain := by
  by_contra hnone
  have houtput : ∀ other, ¬ Stage.outputCheck.Fails r read other := fun other hf =>
    hnone ⟨.outputCheck, other, hf, by simp [Stage.inOrder]⟩
  have hdocument : ∀ other, ¬ Stage.document.Fails r read other := fun other hf =>
    hnone ⟨.document, other, hf, by simpa [Stage.inOrder] using houtput⟩
  have htemplate : ∀ other, ¬ Stage.template.Fails r read other := fun other hf =>
    hnone ⟨.template, other, hf, by simpa [Stage.inOrder] using ⟨houtput, hdocument⟩⟩
  have hoverrides : ∀ other, ¬ Stage.overrides.Fails r read other := fun other hf =>
    hnone ⟨.overrides, other, hf, by simpa [Stage.inOrder] using ⟨houtput, hdocument, htemplate⟩⟩
  cases stage with
  | outputCheck => exact houtput chain h
  | document => exact hdocument chain h
  | template => exact htemplate chain h
  | overrides => exact hoverrides chain h

/-- If no stage fails, all the sources are read. -/
theorem exists_reads (h : ∀ stage chain, ¬ Stage.Fails r read stage chain) :
    ∃ document template overrides, r.Reads read document template overrides := by
  obtain ⟨document, hdocument⟩ := exists_eq_ok documentRead_iff (h .document)
  obtain ⟨template, htemplate⟩ := exists_eq_ok templateRead_iff (h .template)
  obtain ⟨overrides, hoverrides⟩ := exists_eq_ok overridesRead_iff (h .overrides)
  refine ⟨document, template, overrides, ?_, ?_, ?_⟩
  · exact (reads_ok_iff documentRead_iff).mpr hdocument
  · exact (reads_ok_iff templateRead_iff).mpr htemplate
  · exact (reads_ok_iff overridesRead_iff).mpr hoverrides

theorem overwritesInput_iff :
    r.overwritesInput = true ↔
      r.input.components = r.output.components ∨ r.template.components = r.output.components := by
  simp [overwritesInput, FilePath.same]

/-- If no stage before the document fails, the places are different. -/
theorem overwritesInput_eq_false (h : ∀ chain, ¬ Stage.outputCheck.Fails r read chain) :
    r.overwritesInput = false := by
  rw [← Bool.not_eq_true, overwritesInput_iff]
  exact fun hsame => h _ ⟨hsame, rfl⟩

/-- The plan reports the first stage that fails. -/
theorem plan_of_failsFirst [NameStyle] (h : r.FailsFirst read stage chain) :
    ∃ failure, (r.plan read).result = .error failure ∧ failure.chain = chain := by
  obtain ⟨hfails, hfirst⟩ := h
  cases stage with
  | outputCheck =>
    obtain ⟨hsame, rfl⟩ := hfails
    exact ⟨.overwritesInput r.output, by simp [plan, overwritesInput_iff.mpr hsame], rfl⟩
  | document =>
    have hplaces := overwritesInput_eq_false (hfirst .outputCheck (by simp [Stage.inOrder]))
    obtain ⟨failure, hdocument, hchain⟩ := (reads_error_iff documentRead_iff).mp hfails
    exact ⟨failure, by simp [plan, hplaces, hdocument], hchain⟩
  | template =>
    have hplaces := overwritesInput_eq_false (hfirst .outputCheck (by simp [Stage.inOrder]))
    obtain ⟨document, hdocument⟩ := exists_eq_ok documentRead_iff
      (hfirst .document (by simp [Stage.inOrder]))
    obtain ⟨failure, htemplate, hchain⟩ := (reads_error_iff templateRead_iff).mp hfails
    exact ⟨failure, by simp [plan, hplaces, hdocument, htemplate], hchain⟩
  | overrides =>
    have hplaces := overwritesInput_eq_false (hfirst .outputCheck (by simp [Stage.inOrder]))
    obtain ⟨document, hdocument⟩ := exists_eq_ok documentRead_iff
      (hfirst .document (by simp [Stage.inOrder]))
    obtain ⟨template, htemplate⟩ := exists_eq_ok templateRead_iff
      (hfirst .template (by simp [Stage.inOrder]))
    obtain ⟨failure, hoverrides, hchain⟩ := (reads_error_iff overridesRead_iff).mp hfails
    exact ⟨failure, by simp [plan, hplaces, hdocument, htemplate, hoverrides], hchain⟩

/-- If no stage fails, there is a client to write. -/
theorem plan_of_reads [NameStyle] (h : ∀ chain, ¬ Stage.outputCheck.Fails r read chain)
    {document : Document} {template : Template} {overrides : Overrides}
    (hreads : r.Reads read document template overrides) :
    let client := Client.generate document template overrides r.mode
    r.plan read = ⟨r.stepsTo document overrides client, .ok client.code⟩ := by
  have hplaces := overwritesInput_eq_false h
  have hdocument := (reads_ok_iff documentRead_iff).mp hreads.document
  have htemplate := (reads_ok_iff templateRead_iff).mp hreads.template
  have hoverrides := (reads_ok_iff overridesRead_iff).mp hreads.overrides
  simp [plan, hplaces, hdocument, htemplate, hoverrides, stepsTo]

/-- If there is a client to write, it is made from what the sources are read as. -/
theorem exists_reads_of_plan [NameStyle] {code : String} (h : (r.plan read).result = .ok code) :
    ∃ document template overrides, r.Reads read document template overrides ∧
      let client := Client.generate document template overrides r.mode
      r.plan read = ⟨r.stepsTo document overrides client, .ok client.code⟩ := by
  have hnone : ∀ stage chain, ¬ Stage.Fails r read stage chain := by
    intro stage chain hfails
    obtain ⟨first, firstChain, hfirst⟩ := exists_failsFirst hfails
    obtain ⟨failure, hfailure, -⟩ := plan_of_failsFirst hfirst
    rw [hfailure] at h
    cases h
  obtain ⟨document, template, overrides, hreads⟩ := exists_reads hnone
  exact ⟨document, template, overrides, hreads, plan_of_reads (hnone .outputCheck) hreads⟩

/-! ### Runs -/

variable {fs : FileSystem}

/-- The first stage that fails is reported, and nothing is changed. -/
theorem run_of_failsFirst [NameStyle] (h : r.FailsFirst fs.read stage chain) :
    (r.run fs).failure.map Failure.chain = some chain ∧ (r.run fs).files = fs := by
  obtain ⟨failure, hfailure, hchain⟩ := plan_of_failsFirst h
  rw [run, hfailure]
  exact ⟨congrArg some hchain, rfl⟩

/-- All that becomes of a client that there is to write is what becomes of storing it. -/
theorem run_of_plan [NameStyle] {code : String} (h : (r.plan fs.read).result = .ok code) :
    let stored := fs.store r.output code.toUTF8.toList
    (r.run fs).files = stored.1 ∧ (r.run fs).failure = stored.2.map (.ofStoreError r.output) ∧
      (stored.2 = none → (r.run fs).steps = (r.plan fs.read).steps ++ [.written]) := by
  intro stored
  rw [run, h]
  dsimp only
  cases hstored : fs.store r.output code.toUTF8.toList with
  | mk changed cause =>
    cases cause with
    | some e => simp [stored, hstored]
    | none => exact ⟨by simp [stored, hstored], by simp [stored, hstored], fun _ => rfl⟩

/-- A run that goes through has read all the sources, and has made all the steps. -/
theorem exists_reads_of_run [NameStyle] (h : (r.run fs).failure = none) :
    ∃ document template overrides, r.Reads fs.read document template overrides ∧
      let client := Client.generate document template overrides r.mode
      (r.run fs).steps = r.stepsTo document overrides client ++ [.written] := by
  cases hplan : (r.plan fs.read).result with
  | error failure => simp [run, hplan] at h
  | ok code =>
    obtain ⟨document, template, overrides, hreads, hsteps⟩ := exists_reads_of_plan hplan
    obtain ⟨-, hfailure, hwritten⟩ := run_of_plan hplan
    have hstored := Option.map_eq_none_iff.mp (hfailure.symm.trans h)
    refine ⟨document, template, overrides, hreads, ?_⟩
    rw [hwritten hstored, hsteps]

end Request

/-- The making of a client reports the first stage that fails, in the order output, document,
template, overrides, and then it has changed nothing. If none fails, the client made from the three
sources is stored, alone, exactly where a file can be stored; elsewhere this is what is reported. -/
theorem Invocation.run_stages [NameStyle] (color : ColorMode) (theme : ThemeMode) (r : Request)
    (verbosity : Verbosity) (terminal : Terminal) (stamp : String) (fs : FileSystem) :
    let outcome := Invocation.run ⟨color, theme, .generate r verbosity⟩ terminal stamp fs
    (∀ stage chain, r.FailsFirst fs.read stage chain →
      outcome.failure.map Failure.chain = some chain ∧ outcome.files = fs) ∧
    ((∀ stage chain, ¬ Stage.Fails r fs.read stage chain) → ∃ document template overrides,
      r.Reads fs.read document template overrides ∧
      (fs.CanStore r.output → outcome.failure = none ∧ ∃ place,
        fs.StoredAlone outcome.files r.output
          (Client.generate document template overrides r.mode).code.toUTF8.toList place) ∧
      (¬ fs.CanStore r.output → ∃ e, outcome.failure = some (.ofStoreError r.output e))) := by
  intro outcome
  have hfiles : outcome.files = (r.run fs).files := rfl
  have hfailure : outcome.failure = (r.run fs).failure := rfl
  rw [hfiles, hfailure]
  refine ⟨fun stage chain => Request.run_of_failsFirst, fun hnone => ?_⟩
  obtain ⟨document, template, overrides, hreads⟩ := Request.exists_reads hnone
  have hplan := congrArg Plan.result (Request.plan_of_reads (hnone .outputCheck) hreads)
  obtain ⟨hstored, hf, -⟩ := Request.run_of_plan hplan
  have hcan := fs.store_eq_none_iff r.output
    (Client.generate document template overrides r.mode).code.toUTF8.toList
  rw [hstored, hf, ← hcan]
  refine ⟨document, template, overrides, hreads, fun hok => ?_, fun hfails => ?_⟩
  · exact ⟨by rw [hok]; rfl, (FileSystem.storedAlone_of_store hok).2⟩
  · obtain ⟨e, he⟩ := Option.ne_none_iff_exists'.mp hfails
    exact ⟨e, by rw [he]; rfl⟩

/-- Where there are no files at all, it is the document that is reported. -/
example :
    letI := Client.usualStyle
    (Invocation.run ⟨.auto, .auto, .generate
      ⟨⟨"api.json"⟩, ⟨"base.ts"⟩, ⟨"client.ts"⟩, some ⟨"more.json"⟩, .persistent⟩ ⟨false, false⟩⟩
      ⟨false, none, 80⟩ "" ⟨[], []⟩).failure.map Failure.chain = some [
        "failed to open API document api.json",
        "api.json: unable to open file: No such file or directory (os error 2): IO error",
        "No such file or directory (os error 2): IO error",
        "No such file or directory (os error 2)"] := by
  decide +kernel

end TypedClient.Console
