import TypedClient.Console.Generation
import TypedClient.Proofs.Text.Encoding

/-!
# What becomes of reading a source

A document, a template and overrides are each read in two steps: the bytes are taken from
the file, and then parsed. Either may fail, and a template has to be text besides. For
each of the three sources a relation says what it is read as, or which chain of causes
is reported; the chain names the path that was tried and ends in the cause itself.
-/

namespace TypedClient.Console

open TypedClient.Api (Document Overrides)
open TypedClient.Client (Template)
open TypedClient.Files (FilePath FileError)

/-- What the document at a path is read as, or the chain of causes for which it is not. -/
inductive DocumentRead (read : Reader) (path : FilePath) :
    Except (List String) Document → Prop where
  /-- There is a document. -/
  | parsed {bytes : List UInt8} {document : Document} (hread : read path = .ok bytes)
    (hparse : Document.read bytes = .ok document) :
    DocumentRead read path (.ok document)
  /-- Nothing can be opened. -/
  | unread {cause : FileError} (hread : read path = .error cause) (hcause : cause ≠ .isDirectory) :
    DocumentRead read path (.error [
      "failed to open API document " ++ path.text,
      path.text ++ ": unable to open file: " ++ (cause.message ++ ": IO error"),
      cause.message ++ ": IO error",
      cause.message])
  /-- A directory can be opened, but not held in memory. -/
  | directory (hread : read path = .error .isDirectory) :
    DocumentRead read path (.error [
      "failed to open API document " ++ path.text,
      "No such device (os error 19): mmap failed",
      "No such device (os error 19)"])
  /-- What there is is no document. -/
  | invalid {bytes : List UInt8} {fault : Json.Fault} (hread : read path = .ok bytes)
    (hparse : Document.read bytes = .error fault) :
    DocumentRead read path (.error ["failed to parse API document", fault.message bytes])

/-- What the template at a path is read as, or the chain of causes for which it is not. -/
inductive TemplateRead (read : Reader) (path : FilePath) :
    Except (List String) Template → Prop where
  /-- There is a template. -/
  | parsed {source : String} {template : Template} (hread : read path = .ok source.toUTF8.toList)
    (hparse : Template.parse source = .ok template) :
    TemplateRead read path (.ok template)
  /-- Nothing can be read. -/
  | unread {cause : FileError} (hread : read path = .error cause) :
    TemplateRead read path (.error ["failed to read template " ++ path.text, cause.message])
  /-- What there is is no text. -/
  | notText {bytes : List UInt8} (hread : read path = .ok bytes)
    (htext : ∀ source : String, bytes ≠ source.toUTF8.toList) :
    TemplateRead read path (.error
      ["failed to read template " ++ path.text, "stream did not contain valid UTF-8"])
  /-- The text is no template. -/
  | invalid {source : String} {cause : Client.TemplateError}
    (hread : read path = .ok source.toUTF8.toList) (hparse : Template.parse source = .error cause) :
    TemplateRead read path (.error ["invalid template " ++ path.text, cause.message])

/-- What the overrides at a path are read as, or the chain of causes for which they are not. -/
inductive OverridesRead (read : Reader) :
    Option FilePath → Except (List String) Overrides → Prop where
  /-- None are asked for. -/
  | absent : OverridesRead read none (.ok [])
  /-- There are overrides. -/
  | parsed {path : FilePath} {bytes : List UInt8} {overrides : Overrides}
    (hread : read path = .ok bytes) (hparse : Overrides.read bytes = .ok overrides) :
    OverridesRead read (some path) (.ok overrides)
  /-- Nothing can be read. -/
  | unread {path : FilePath} {cause : FileError} (hread : read path = .error cause) :
    OverridesRead read (some path) (.error
      ["failed to read overrides file " ++ path.text, cause.message])
  /-- What there is are no overrides. -/
  | invalid {path : FilePath} {bytes : List UInt8} {fault : Json.Fault}
    (hread : read path = .ok bytes) (hparse : Overrides.read bytes = .error fault) :
    OverridesRead read (some path) (.error
      ["failed to parse overrides file " ++ path.text, fault.message bytes])

/-! ### The readers -/

variable {read : Reader} {path : FilePath}

/-- A document is read as the document at its path. -/
theorem documentRead_iff {result : Except (List String) Document} :
    DocumentRead read path result ↔ (documentAt read path).mapError Failure.chain = result := by
  constructor
  · intro h
    cases h with
    | parsed hread hparse =>
      simp only [documentAt, hread, hparse]
      rfl
    | @unread cause hread hcause =>
      simp only [documentAt, hread]
      cases cause <;> first | exact absurd rfl hcause | rfl
    | directory hread =>
      simp only [documentAt, hread]
      rfl
    | invalid hread hparse =>
      simp only [documentAt, hread, hparse]
      rfl
  · rintro rfl
    rw [documentAt]
    cases hread : read path with
    | error cause =>
      by_cases hcause : cause = .isDirectory
      · subst hcause
        exact .directory hread
      · have hunread := DocumentRead.unread hread hcause
        cases cause <;> first | exact absurd rfl hcause | exact hunread
    | ok bytes =>
      dsimp only
      cases hparse : Document.read bytes with
      | error fault => exact .invalid hread hparse
      | ok document => exact .parsed hread hparse

/-- A template is read as the template at its path. -/
theorem templateRead_iff {result : Except (List String) Template} :
    TemplateRead read path result ↔ (templateAt read path).mapError Failure.chain = result := by
  constructor
  · intro h
    cases h with
    | parsed hread hparse =>
      simp only [templateAt, hread, Text.Utf8.decode?_toList_toUTF8, String.ofList_toList, hparse]
      rfl
    | unread hread =>
      simp only [templateAt, hread]
      rfl
    | notText hread htext =>
      simp only [templateAt, hread, Text.Utf8.decode?_eq_none_iff.mpr htext]
      rfl
    | invalid hread hparse =>
      simp only [templateAt, hread, Text.Utf8.decode?_toList_toUTF8, String.ofList_toList, hparse]
      rfl
  · rintro rfl
    rw [templateAt]
    cases hread : read path with
    | error cause => exact .unread hread
    | ok bytes =>
      dsimp only
      cases htext : Text.Utf8.decode? bytes with
      | none => exact .notText hread (Text.Utf8.decode?_eq_none_iff.mp htext)
      | some source =>
        have hbytes : bytes = (String.ofList source).toUTF8.toList := by
          rwa [← Text.Utf8.decode?_eq_some_toList_iff, String.toList_ofList]
        subst hbytes
        dsimp only
        cases hparse : Template.parse (String.ofList source) with
        | error cause => exact .invalid hread hparse
        | ok template => exact .parsed hread hparse

/-- Overrides are read as the overrides at their path, if there is one. -/
theorem overridesRead_iff {path : Option FilePath} {result : Except (List String) Overrides} :
    OverridesRead read path result ↔ (overridesAt read path).mapError Failure.chain = result := by
  constructor
  · intro h
    cases h with
    | absent => rfl
    | parsed hread hparse =>
      simp only [overridesAt, hread, hparse]
      rfl
    | unread hread =>
      simp only [overridesAt, hread]
      rfl
    | invalid hread hparse =>
      simp only [overridesAt, hread, hparse]
      rfl
  · rintro rfl
    cases path with
    | none => exact .absent
    | some path =>
      rw [overridesAt]
      cases hread : read path with
      | error cause => exact .unread hread
      | ok bytes =>
        dsimp only
        cases hparse : Overrides.read bytes with
        | error fault => exact .invalid hread hparse
        | ok overrides => exact .parsed hread hparse

/-! ### What is read, and what is reported -/

section Reads

-- What `tried` comes to is what `Reads` relates it to, with the failure in words.
variable {α : Type} {Reads : Except (List String) α → Prop} {tried : Except Failure α}
  (hreads : ∀ {result}, Reads result ↔ tried.mapError Failure.chain = result)

include hreads

theorem reads_ok_iff {value : α} : Reads (.ok value) ↔ tried = .ok value := by
  rw [hreads]
  cases tried <;> simp [Except.mapError]

theorem reads_error_iff {chain : List String} :
    Reads (.error chain) ↔ ∃ failure, tried = .error failure ∧ failure.chain = chain := by
  rw [hreads]
  cases tried <;> simp [Except.mapError]

/-- What does not fail goes through. -/
theorem exists_eq_ok (h : ∀ chain, ¬ Reads (.error chain)) : ∃ value, tried = .ok value := by
  cases htried : tried with
  | ok value => exact ⟨value, rfl⟩
  | error failure =>
    exact absurd ((reads_error_iff hreads).mpr ⟨failure, htried, rfl⟩) (h failure.chain)

end Reads

end TypedClient.Console
