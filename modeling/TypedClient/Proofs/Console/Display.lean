import TypedClient.Proofs.Console.Stages

/-!
# What is shown has no effect

Some options only concern what is shown of the making of a client. A run does not
depend on them but for its lines: a quiet run has none, and any other that succeeds
shows its warnings, in order, apart from all the rest and after one empty line. `View`
draws each step by itself, so that this is a fact on the one step with warnings.
-/

namespace TypedClient.Console

open TypedClient.Client (ClientSource NameStyle Tally Warning usualStyle)
open TypedClient.Files (FilePath FileSystem)

/-- The options for what is shown. -/
def displayOptions : List String := ["verbose", "quiet", "color", "theme"]

/-- A command line for the making of a client, as it is read. -/
structure MakesClient (words : List String) (parsed : Parsed) : Prop where
  /-- The command line fits the grammar. -/
  read : programLevel.parse words = .ok parsed
  /-- The command is that for making a client. -/
  command : parsed.commands = ["generate"]

/-- What a command line with no difference but in what is shown asks for. -/
theorem exists_request {p q : Parsed} (hp : p.commands = ["generate"])
    (hq : q.commands = ["generate"])
    (h : ∀ name ∉ displayOptions, p.value? name = q.value? name) :
    ∃ r, Command.ofParsed p = .generate r ⟨p.has "verbose", p.has "quiet"⟩ ∧
      Command.ofParsed q = .generate r ⟨q.has "verbose", q.has "quiet"⟩ := by
  rw [Command.ofParsed, Command.ofParsed, if_pos hp, if_pos hq]
  simp only [pathOf, chosen, h "input" (by decide), h "template" (by decide),
    h "output" (by decide), h "overrides" (by decide), h "override-mode" (by decide)]
  exact ⟨_, rfl, rfl⟩

/-! ### Warnings -/

/-- A warning tells of something that was left out of the client. -/
inductive LeavesOut : Warning → Prop where
  /-- An operation. -/
  | operation (operationId methodName : String) :
    LeavesOut (.duplicateMethod operationId methodName)
  /-- A field of a request. -/
  | field (operationId key : String) : LeavesOut (.duplicateField operationId key)

theorem isSkip_iff {w : Warning} : w.isSkip = true ↔ LeavesOut w := by
  constructor
  · intro h
    cases w with
    | duplicateMethod id name => exact .operation id name
    | duplicateField id key => exact .field id key
    | schema | unknownPlaceholder | unusedOverride => cases h
  · rintro (_ | _) <;> rfl

instance : DecidablePred LeavesOut := fun _ => decidable_of_iff _ isSkip_iff

/-- The warnings that are asked for: those for things that are left out, or all of them. -/
def askedFor (verbose : Bool) (warnings : List Warning) : List Warning :=
  if verbose then warnings else warnings.filter (LeavesOut ·)

/-- The lines among the problems. -/
def problemsOf (lines : List Line) : List Line :=
  lines.filter fun line => line.channel = .problems

/-- A text between the sequence by which a terminal is asked for a colour and the one that brings
back its own. -/
def inColor (color : Color) (text : String) : String :=
  "\x1b[" ++ color.code ++ "m" ++ text ++ "\x1b[39m"

theorem paint_eq_inColor (palette : Palette) (role : Role) (text : String) :
    palette.paint role text = inColor (palette.color role) text := by
  have hback : "\x1b[39m" = "\x1b[" ++ (Color.reset.code ++ "m") := rfl
  simp only [Palette.paint, inColor, hback, String.append_assoc]

namespace View

/-- A line shows a warning: it stands among the problems, and has the word for what has become of
the thing that the warning is about, and then the wording of the warning. -/
structure ShowsWarning (v : View) (w : Warning) (line : Line) : Prop where
  /-- It stands among the problems. -/
  channel : line.channel = .problems
  /-- The label and the wording each have a colour. -/
  text : line.text =
    inColor (v.palette.color .accent) (if LeavesOut w then "Skipped:" else "Warning:") ++ " " ++
      inColor (v.palette.color .primary) w.text

/-- The lines of a run that shows its warnings as it should: those that are asked for, in order, are
the only ones among the problems, and one empty line stands between the counts and them if there are
any. -/
structure ShowsWarnings (v : View) (tally : Tally) (lines : List Line) : Prop where
  /-- The warnings that are asked for are all there is among the problems. -/
  problems : List.Forall₂ v.ShowsWarning (askedFor v.verbose tally.warnings) (problemsOf lines)
  /-- They stand after the counts and an empty line, or there is neither. -/
  place : ∃ before after,
    (∀ line ∈ before, line.text ≠ "") ∧ (∀ line ∈ after.head?, line.text ≠ "") ∧
    before.getLast? = some ⟨.output, v.labelled "Warnings:" (toString tally.warnings.length)⟩ ∧
    lines = before ++
      (if problemsOf lines = [] then [] else ⟨.output, ""⟩ :: problemsOf lines) ++ after

variable (v : View)

/-- The line for a warning shows it. -/
theorem showsWarning_warning (w : Warning) : v.ShowsWarning w (v.warning w) where
  channel := rfl
  text := by simp only [warning, isSkip_iff, paint_eq_inColor]

theorem shownWarnings_eq_askedFor (warnings : List Warning) :
    v.shownWarnings warnings = askedFor v.verbose warnings := by
  rw [shownWarnings, askedFor]
  split
  · next h => simp [h]
  · next h => exact List.filter_congr fun w _ => by simp [h, ← isSkip_iff]

/-- The lines for warnings are an empty line and the warnings, if there are any. -/
theorem warnings_eq (warnings : List Warning) :
    v.warnings warnings =
      if askedFor v.verbose warnings = [] then [] else
        ⟨.output, ""⟩ :: (askedFor v.verbose warnings).map v.warning := by
  rw [View.warnings, shownWarnings_eq_askedFor]
  split
  · next h => rw [if_pos h]
  · next h => rw [if_neg h]; rfl

theorem problemsOf_append (lines others : List Line) :
    problemsOf (lines ++ others) = problemsOf lines ++ problemsOf others :=
  List.filter_append lines others

theorem problemsOf_warnings (warnings : List Warning) :
    problemsOf (v.warnings warnings) = (askedFor v.verbose warnings).map v.warning := by
  have hall (shown : List Warning) : problemsOf (shown.map v.warning) = shown.map v.warning := by
    rw [problemsOf, List.filter_eq_self]
    intro line hline
    obtain ⟨w, -, rfl⟩ := List.mem_map.mp hline
    simp [(v.showsWarning_warning w).channel]
  rw [warnings_eq]
  split
  · next h => rw [h]; rfl
  · rw [problemsOf, List.filter_cons_of_neg (by simp)]
    exact hall _

/-- The lines for results show no problem. -/
@[simp] theorem problemsOf_outputLines (texts : List String) :
    problemsOf (outputLines texts) = [] := by
  simp [problemsOf, outputLines]

theorem message_ne_empty (role : Role) (text : String) : v.message role text ≠ "" := by
  simp [message]

theorem labelled_ne_empty (label value : String) : v.labelled label value ≠ "" := by
  simp [labelled]

theorem counts_getLast? (tally : Tally) :
    (v.counts tally).getLast? =
      some (v.labelled "Warnings:" (toString tally.warnings.length)) := by
  rw [counts, List.getLast?_append, List.getLast?_singleton, Option.some_or]

/-- No count is an empty line. -/
theorem ne_empty_of_mem_counts {tally : Tally} {text : String} (h : text ∈ v.counts tally) :
    text ≠ "" := by
  have hlabelled : ∃ label value, text = v.labelled label value := by
    rw [counts] at h
    split at h <;> simp at h <;> grind
  obtain ⟨label, value, rfl⟩ := hlabelled
  exact v.labelled_ne_empty label value

/-- The lines of a run that goes through: all steps but the one with the warnings show results, and
up to it no line is empty. -/
theorem exists_lines_of_steps (r : Request) (document : Api.Document) (overrides : Api.Overrides)
    (client : ClientSource) :
    ∃ texts, (∀ text ∈ texts, text ≠ "") ∧
      (r.stepsTo document overrides client ++ [Step.written]).flatMap v.step =
        outputLines (texts ++ v.counts client.tally) ++ v.warnings client.tally.warnings ++
          outputLines [v.message .primary ("Writing to: " ++ r.output.text), "",
            v.message .success "Successfully generated TypeScript client"] := by
  have hloaded : ∃ texts, (∀ text ∈ texts, text ≠ "") ∧
      v.step (.loaded document) = outputLines texts := by
    refine ⟨_, ?_, rfl⟩
    cases document.address? <;> simp [labelled_ne_empty]
  have hoverridden : ∃ texts, (∀ text ∈ texts, text ≠ "") ∧
      (r.overrides.map (Step.overridden · overrides.length)).toList.flatMap v.step =
        outputLines texts := by
    cases r.overrides with
    | none => exact ⟨[], by simp, rfl⟩
    | some path =>
      exact ⟨[_], by simpa using v.message_ne_empty _ _, List.append_nil _⟩
  obtain ⟨loaded, hl, hloaded⟩ := hloaded
  obtain ⟨overridden, ho, hoverridden⟩ := hoverridden
  refine ⟨v.message .primary ("Loading API document from: " ++ r.input.text) :: (loaded ++
    overridden ++ [v.message .primary "Generating TypeScript client..."]), ?_, ?_⟩
  · intro text ht
    simp only [List.mem_cons, List.mem_append, List.not_mem_nil, or_false] at ht
    rcases ht with rfl | (h | h) | rfl
    · exact v.message_ne_empty _ _
    · exact hl text h
    · exact ho text h
    · exact v.message_ne_empty _ _
  · simp only [Request.stepsTo, List.flatMap_append, List.flatMap_cons, List.flatMap_nil, hloaded,
      hoverridden]
    simp [step, outputLines]

/-- A run that has gone through shows its warnings as it should. -/
theorem showsWarnings_of_steps (r : Request) (document : Api.Document) (overrides : Api.Overrides)
    (client : ClientSource) :
    v.ShowsWarnings client.tally
      ((r.stepsTo document overrides client ++ [Step.written]).flatMap v.step) := by
  obtain ⟨texts, htexts, hlines⟩ := v.exists_lines_of_steps r document overrides client
  have hproblems : problemsOf ((r.stepsTo document overrides client ++ [Step.written]).flatMap
      v.step) = (askedFor v.verbose client.tally.warnings).map v.warning := by
    rw [hlines, problemsOf_append, problemsOf_append, problemsOf_outputLines,
      problemsOf_outputLines, problemsOf_warnings, List.nil_append, List.append_nil]
  constructor
  case problems =>
    rw [hproblems, List.forall₂_map_right_iff, List.forall₂_same]
    exact fun w _ => v.showsWarning_warning w
  case place =>
    rw [hproblems, hlines, warnings_eq]
    simp only [List.map_eq_nil_iff]
    refine ⟨_, _, ?_, ?_, ?_, rfl⟩
    · intro line hline
      obtain ⟨text, ht, rfl⟩ := List.mem_map.mp hline
      rcases List.mem_append.mp ht with ht | ht
      · exact htexts text ht
      · exact v.ne_empty_of_mem_counts ht
    · simpa [outputLines] using v.message_ne_empty _ _
    · rw [outputLines, List.getLast?_map, List.getLast?_append, counts_getLast?]
      rfl

end View

/-- Two command lines that differ in no option but those for what is shown, run on terminals of any
kind, end in the same way and leave the same files. A quiet run shows nothing; one that is not and
that succeeds shows its warnings as it should. -/
theorem Invocation.run_display [NameStyle] {words words' : List String} {p q : Parsed}
    (hp : MakesClient words p) (hq : MakesClient words' q)
    (hsame : ∀ name ∉ displayOptions, p.value? name = q.value? name)
    (terminal terminal' : Terminal) (stamp stamp' : String) (fs : FileSystem) :
    let outcome := (Invocation.ofParsed p).run terminal stamp fs
    let outcome' := (Invocation.ofParsed q).run terminal' stamp' fs
    (outcome.exitCode = outcome'.exitCode ∧ outcome.failure = outcome'.failure ∧
      outcome.files = outcome'.files) ∧
    (p.has "quiet" = true → outcome.lines = []) ∧
    (p.has "quiet" = false → outcome.failure = none → ∃ r document template overrides,
      (Invocation.ofParsed p).command = .generate r ⟨p.has "verbose", p.has "quiet"⟩ ∧
      r.Reads fs.read document template overrides ∧
      View.ShowsWarnings ⟨(Invocation.ofParsed p).palette terminal, stamp, p.has "verbose"⟩
        (Client.generate document template overrides r.mode).tally outcome.lines) := by
  intro outcome outcome'
  obtain ⟨r, hr, hr'⟩ := exists_request hp.command hq.command hsame
  have houtcome : outcome = ⟨(r.run fs).failure,
      transcript ((Invocation.ofParsed p).palette terminal) stamp
        ⟨p.has "verbose", p.has "quiet"⟩ (r.run fs).steps, (r.run fs).files⟩ := by
    simp only [outcome, Invocation.run, Invocation.ofParsed, hr]
  have houtcome' : outcome' = ⟨(r.run fs).failure,
      transcript ((Invocation.ofParsed q).palette terminal') stamp'
        ⟨q.has "verbose", q.has "quiet"⟩ (r.run fs).steps, (r.run fs).files⟩ := by
    simp only [outcome', Invocation.run, Invocation.ofParsed, hr']
  rw [houtcome, houtcome']
  refine ⟨⟨rfl, rfl, rfl⟩, fun hquiet => ?_, fun hquiet hf => ?_⟩
  · simp [transcript, hquiet]
  · obtain ⟨document, template, overrides, hreads, hsteps⟩ := Request.exists_reads_of_run hf
    refine ⟨r, document, template, overrides, hr, hreads, ?_⟩
    simp only [transcript, hquiet, hsteps]
    exact View.showsWarnings_of_steps _ r document overrides _

/-- A command line for a run that shows nothing. -/
def quietWords : List String :=
  ["generate", "-i", "api.json", "-t", "base.ts", "-o", "client.ts", "-q"]

/-- What is read from it. -/
def quietParsed : Parsed :=
  ⟨["generate"], [[], [("input", "api.json"), ("template", "base.ts"), ("output", "client.ts"),
    ("quiet", "")]]⟩

/-- The same for a run that shows everything in colours. -/
def colourfulWords : List String :=
  ["--color", "always", "generate", "--theme=light", "-v", "-i", "api.json", "-t", "base.ts", "-o",
    "client.ts"]

/-- What is read from it. -/
def colourfulParsed : Parsed :=
  ⟨["generate"], [[("color", "always")], [("theme", "light"), ("verbose", ""),
    ("input", "api.json"), ("template", "base.ts"), ("output", "client.ts")]]⟩

/-- A document in which an operation is left out, and a template. -/
def displayedFiles : FileSystem where
  entries := [
    (["api.json"], .file
      ("\x7b\"paths\":\x7b\"/\":\x7b\"get\":\x7b\"operationId\":\"x\"\x7d," ++
        "\"put\":\x7b\"operationId\":\"x\"\x7d\x7d\x7d\x7d").toUTF8.toList),
    (["base.ts"], .file
      "//** REQUEST TYPES **//\n//** RESPONSE TYPES **//\n//** METHODS **//\n".toUTF8.toList)]
  workingDirectory := []

theorem run_display_quiet :
    letI := usualStyle
    let quiet := (Invocation.ofParsed quietParsed).run ⟨false, none, 80⟩ "" displayedFiles
    let colourful := (Invocation.ofParsed colourfulParsed).run ⟨true, some "0;15", 120⟩ "[12:00:00]"
      displayedFiles
    quiet.files = colourful.files ∧ quiet.lines = [] ∧
      ∃ tally, View.ShowsWarnings ⟨⟨true, .light⟩, "[12:00:00]", true⟩ tally colourful.lines := by
  let : NameStyle := usualStyle
  have hquiet : MakesClient quietWords quietParsed := ⟨by decide +kernel, rfl⟩
  have hcolourful : MakesClient colourfulWords colourfulParsed := ⟨by decide +kernel, rfl⟩
  have hsame : ∀ name ∉ displayOptions, quietParsed.value? name = colourfulParsed.value? name := by
    intro name hname
    simp only [displayOptions, List.mem_cons, List.not_mem_nil, or_false, not_or] at hname
    obtain ⟨hverbose, hquiet, hcolor, htheme⟩ := hname
    have hne : (name == "verbose") = false ∧ (name == "quiet") = false ∧
        (name == "color") = false ∧ (name == "theme") = false := by
      simp [hverbose, hquiet, hcolor, htheme]
    simp only [Parsed.value?, quietParsed, colourfulParsed, List.reverse_cons, List.reverse_nil,
      List.nil_append, List.cons_append, List.findSome?, List.lookup, hne]
  have hrun := Invocation.run_display hquiet hcolourful hsame ⟨false, none, 80⟩
    ⟨true, some "0;15", 120⟩ "" "[12:00:00]" displayedFiles
  have hrun' := Invocation.run_display hcolourful hquiet (fun name hname => (hsame name hname).symm)
    ⟨true, some "0;15", 120⟩ ⟨false, none, 80⟩ "[12:00:00]" "" displayedFiles
  obtain ⟨r, document, template, overrides, -, -, hshows⟩ :=
    hrun'.2.2 (by decide +kernel) (by decide +kernel)
  exact ⟨hrun.1.2.2, hrun.2.1 (by decide +kernel), _, hshows⟩

end TypedClient.Console
