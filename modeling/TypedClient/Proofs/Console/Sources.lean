import TypedClient.Proofs.Console.Stages
import TypedClient.Proofs.Files.Growth

/-!
# What becomes of the files that a client is made from

A request reads a document, a template and perhaps overrides, and then stores the
client. Only the file at the place of the client changes, so a source is lost exactly
if its path leads to that place. The spelling of the paths is no safeguard: a path
may lead there in another spelling, and that of the overrides is not compared at all.
-/

namespace TypedClient.Console

open TypedClient.Client (NameStyle usualStyle)
open TypedClient.Files (FilePath FileSystem)

/-- Whether two paths lead to one place. -/
def LeadToOne (fs : FileSystem) (p q : FilePath) : Prop :=
  ∃ place, fs.locate p = .ok place ∧ fs.locate q = .ok place

/-- Whether every source of a request that could be read is read as before. -/
def KeepsSources (r : Request) (before after : FileSystem) : Prop :=
  ∀ p ∈ r.sources, ∀ content, before.read p = .ok content → after.read p = .ok content

/-! ### Reading the sources -/

/-- There is a client only if every source can be read. -/
theorem exists_read_of_plan [NameStyle] {r : Request} {read : Reader} {code : String}
    (h : (r.plan read).result = .ok code) {p : FilePath} (hp : p ∈ r.sources) :
    ∃ content, read p = .ok content := by
  obtain ⟨document, template, overrides, hreads, -⟩ := Request.exists_reads_of_plan h
  rw [Request.sources, List.mem_cons, List.mem_cons, Option.mem_toList] at hp
  rcases hp with rfl | rfl | hp
  · cases hreads.document with
    | parsed hread => exact ⟨_, hread⟩
  · cases hreads.template with
    | parsed hread => exact ⟨_, hread⟩
  · have hoverrides := hreads.overrides
    rw [Option.mem_def.mp hp] at hoverrides
    cases hoverrides with
    | parsed hread => exact ⟨_, hread⟩

/-! ### Storing the client -/

/-- A request fails and adds no more than directories, or it has read all its sources and stores a
client. -/
theorem Request.run_cases [NameStyle] (r : Request) (fs : FileSystem) :
    (r.run fs).failure ≠ none ∧ fs.Extends (r.run fs).files ∨
      (r.run fs).failure = none ∧ (∀ p ∈ r.sources, ∃ content, fs.read p = .ok content) ∧
        ∃ content place, fs.Stored (r.run fs).files r.output content place := by
  rw [Request.run]
  cases hp : (r.plan fs.read).result with
  | error failure => exact Or.inl ⟨by simp, .refl fs⟩
  | ok code =>
    dsimp only
    have hc := fs.store_cases r.output code.toUTF8.toList
    cases hst : fs.store r.output code.toUTF8.toList with
    | mk changed cause =>
      rw [hst] at hc
      rcases hc with ⟨e, he, hx⟩ | ⟨hn, place, hs⟩
      · obtain rfl : cause = some e := he
        exact Or.inl ⟨by simp, hx⟩
      · obtain rfl : cause = none := hn
        exact Or.inr ⟨rfl, fun p => exists_read_of_plan hp, _, place, hs⟩

/-- The making of a client leaves its sources as they were exactly if it fails, or no source leads
to the place of the client unless the client is what was there. -/
theorem Invocation.keepsSources_iff [NameStyle] (color : ColorMode) (theme : ThemeMode)
    (r : Request) (verbosity : Verbosity) (terminal : Terminal) (stamp : String) (fs : FileSystem) :
    let outcome := Invocation.run ⟨color, theme, .generate r verbosity⟩ terminal stamp fs
    KeepsSources r fs outcome.files ↔
      (outcome.failure = none → ∀ p ∈ r.sources, LeadToOne outcome.files p r.output →
        fs.read p = outcome.files.read r.output) := by
  intro outcome
  have hfiles : outcome.files = (r.run fs).files := rfl
  have hfailure : outcome.failure = (r.run fs).failure := rfl
  rw [hfiles, hfailure]
  rcases r.run_cases fs with ⟨hf, hx⟩ | ⟨hf, hread, content, place, hs⟩
  · refine ⟨fun _ hn => absurd hn hf, fun _ p _ bytes hb => ?_⟩
    exact FileSystem.read_of_extends hx hb
  · obtain ⟨-, -, -, hslash⟩ := FileSystem.read_eq_ok_iff.mp hs.read
    constructor
    · rintro hk - p hp ⟨q, hpq, hoq⟩
      obtain ⟨bytes, hb⟩ := hread p hp
      obtain ⟨-, -, -, hps⟩ := FileSystem.read_eq_ok_iff.mp hb
      rw [hb, ← hk p hp bytes hb]
      exact FileSystem.read_congr hpq hoq hps hslash
    · intro hk p hp bytes hb
      obtain ⟨q, hl, hg, hps⟩ := FileSystem.read_eq_ok_iff.mp hb
      have hl' := FileSystem.locate_of_keepsDirectories hs.keepsDirectories hl
      by_cases hq : q = place
      · subst hq
        rw [FileSystem.read_congr hl' hs.locate hps hslash,
          ← hk hf p hp ⟨q, hl', hs.locate⟩, hb]
      · exact FileSystem.read_eq_ok_iff.mpr ⟨q, hl', hs.entry q _ hq hg, hps⟩

/-- A request whose client goes where its overrides are. -/
def replacingRequest : Request :=
  ⟨⟨"api.json"⟩, ⟨"base.ts"⟩, ⟨"o.json"⟩, some ⟨"o.json"⟩, .persistent⟩

/-- The files that it is made from: an empty document, the slots of a template, and no overrides. -/
def replacedFiles : FileSystem where
  entries := [
    (["api.json"], .file [0x7b, 0x7d]),
    (["base.ts"], .file
      "//** REQUEST TYPES **//\n//** RESPONSE TYPES **//\n//** METHODS **//\n".toUTF8.toList),
    (["o.json"], .file [0x7b, 0x7d])]
  workingDirectory := []

/-- A command line may ask for it, and then the overrides are lost. -/
theorem replacingRequest_loses_overrides :
    letI := usualStyle
    Invocation.parse ["generate", "-i", "api.json", "-t", "base.ts", "-o", "o.json",
      "--overrides", "o.json"] =
        .ok ⟨.auto, .auto, .generate replacingRequest ⟨false, false⟩⟩ ∧
    ¬ KeepsSources replacingRequest replacedFiles
      (Invocation.run ⟨.auto, .auto, .generate replacingRequest ⟨false, false⟩⟩
        ⟨false, none, 80⟩ "" replacedFiles).files := by
  let : NameStyle := usualStyle
  refine ⟨by decide +kernel, fun hk => ?_⟩
  have hbefore : replacedFiles.read ⟨"o.json"⟩ = .ok [0x7b, 0x7d] := by decide +kernel
  have hafter : (Invocation.run ⟨.auto, .auto, .generate replacingRequest ⟨false, false⟩⟩
      ⟨false, none, 80⟩ "" replacedFiles).files.read ⟨"o.json"⟩ = .ok [] := by decide +kernel
  have hsame := hk ⟨"o.json"⟩ (by decide) _ hbefore
  rw [hafter] at hsame
  exact absurd hsame (by decide)

end TypedClient.Console
