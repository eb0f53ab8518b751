import Mathlib
import TypedClient.Files.FileSystem

/-!
# What storing a file leaves as it was

A path is followed through directories, and none is ever removed, so a path that leads
to a place leads there from then on. Making directories puts them where there was
nothing. Creating a file changes the place that its path leads to and no other.
-/

namespace TypedClient.Files.FileSystem

/-- Every directory of the first is one of the second, which has the same working directory. -/
structure KeepsDirectories (fs more : FileSystem) : Prop where
  /-- The working directory is the same. -/
  workingDirectory : more.workingDirectory = fs.workingDirectory
  /-- Directories stay. -/
  directory : ∀ place, fs.get? place = some .directory → more.get? place = some .directory

/-- Everything of the first is in the second, which has the same working directory. -/
structure Extends (fs more : FileSystem) : Prop where
  /-- The working directory is the same. -/
  workingDirectory : more.workingDirectory = fs.workingDirectory
  /-- Entries stay. -/
  entry : ∀ place entry, fs.get? place = some entry → more.get? place = some entry

namespace Extends

variable {fs more most : FileSystem}

theorem refl (fs : FileSystem) : fs.Extends fs := ⟨rfl, fun _ _ => id⟩

theorem trans (h : fs.Extends more) (h' : more.Extends most) : fs.Extends most :=
  ⟨h'.workingDirectory.trans h.workingDirectory,
    fun place entry he => h'.entry place entry (h.entry place entry he)⟩

theorem keepsDirectories (h : fs.Extends more) : fs.KeepsDirectories more :=
  ⟨h.workingDirectory, fun place => h.entry place .directory⟩

end Extends

/-! ### Following a path -/

section Following

variable {fs more : FileSystem}

theorem enter_of_keepsDirectories (h : fs.KeepsDirectories more) {place next : Place}
    {name : String} (he : fs.enter place name = .ok next) : more.enter place name = .ok next := by
  rw [enter] at he ⊢
  cases hc : child place name with
  | error e => rw [hc] at he; simp at he
  | ok reached =>
    rw [hc] at he
    dsimp only at he ⊢
    cases hg : fs.get? reached with
    | none => rw [hg] at he; simp at he
    | some entry =>
      rw [hg] at he
      cases entry with
      | file content => simp at he
      | directory =>
        rw [h.directory reached hg]
        exact he

theorem enterAll_of_keepsDirectories (h : fs.KeepsDirectories more) {place last : Place}
    {names : List String} (he : fs.enterAll place names = .ok last) :
    more.enterAll place names = .ok last := by
  induction names generalizing place with
  | nil => exact he
  | cons name rest ih =>
    rw [enterAll] at he ⊢
    cases hn : fs.enter place name with
    | error e => rw [hn] at he; simp at he
    | ok next =>
      rw [hn] at he
      rw [enter_of_keepsDirectories h hn]
      exact ih he

theorem around_of_keepsDirectories (h : fs.KeepsDirectories more) {p : FilePath} {place : Place}
    (hp : fs.around p = .ok place) : more.around p = .ok place := by
  rw [around] at hp ⊢
  cases hr : refused? p with
  | some e => rw [hr] at hp; simp at hp
  | none =>
    rw [hr] at hp
    dsimp only at hp ⊢
    rw [h.workingDirectory]
    exact enterAll_of_keepsDirectories h hp

/-- A path leads where it led before. -/
theorem locate_of_keepsDirectories (h : fs.KeepsDirectories more) {p : FilePath} {place : Place}
    (hp : fs.locate p = .ok place) : more.locate p = .ok place := by
  rw [locate] at hp ⊢
  cases ha : fs.around p with
  | error e => rw [ha] at hp; simp at hp
  | ok dir =>
    rw [ha] at hp
    rw [around_of_keepsDirectories h ha]
    exact hp

/-- What it takes to read a file. -/
theorem read_eq_ok_iff {p : FilePath} {content : List UInt8} :
    fs.read p = .ok content ↔
      ∃ place, fs.locate p = .ok place ∧ fs.get? place = some (.file content) ∧
        p.endsInSlash = false := by
  rw [read]
  cases fs.locate p with
  | error e => simp
  | ok place =>
    cases hg : fs.get? place with
    | none => simp [hg]
    | some entry =>
      cases entry with
      | directory => simp [hg]
      | file bytes => cases p.endsInSlash <;> simp [hg]

/-- Two paths that lead to one place are read as one, if they do not end in a slash. -/
theorem read_congr {p q : FilePath} {place : Place} (hp : fs.locate p = .ok place)
    (hq : fs.locate q = .ok place) (hs : p.endsInSlash = false) (hs' : q.endsInSlash = false) :
    fs.read p = fs.read q := by
  rw [read, read, hp, hq, hs, hs']

/-- A file that can be read can be read from then on, with the content it has. -/
theorem read_of_extends (h : fs.Extends more) {p : FilePath} {content : List UInt8}
    (hp : fs.read p = .ok content) : more.read p = .ok content := by
  obtain ⟨place, hl, hg, hs⟩ := read_eq_ok_iff.mp hp
  exact read_eq_ok_iff.mpr
    ⟨place, locate_of_keepsDirectories h.keepsDirectories hl, h.entry place _ hg, hs⟩

end Following

/-! ### Changes -/

theorem ne_nil_of_get?_ne {fs : FileSystem} {place : Place}
    (h : fs.get? place ≠ some .directory) : place ≠ [] := by
  rintro rfl
  exact h (by rw [get?, if_pos rfl])

/-- A new directory takes the place of nothing. -/
theorem extends_makeDirectory {fs made : FileSystem} {p : FilePath}
    (h : fs.makeDirectory p = .ok made) : fs.Extends made := by
  rw [makeDirectory] at h
  cases hl : fs.locate p with
  | error e => rw [hl] at h; simp at h
  | ok place =>
    rw [hl] at h
    dsimp only at h
    cases hg : fs.get? place with
    | some entry => rw [hg] at h; simp at h
    | none =>
      rw [hg] at h
      obtain rfl := Except.ok.inj h
      refine ⟨rfl, fun other entry he => ?_⟩
      have hne : other ≠ place := by
        rintro rfl
        rw [hg] at he
        simp at he
      rw [get?_set fs (ne_nil_of_get?_ne (by rw [hg]; simp)), if_neg hne]
      exact he

/-- New directories take the place of nothing, whether all of them could be made or not. -/
theorem extends_makeDirectories (fs : FileSystem) (paths : List FilePath) :
    fs.Extends (fs.makeDirectories paths).1 := by
  induction paths generalizing fs with
  | nil => exact Extends.refl fs
  | cons directory around ih =>
    rw [makeDirectories]
    dsimp only
    split
    · exact Extends.refl fs
    · split
      · next made hmade => exact extends_makeDirectory hmade
      · have hi := ih fs
        split
        · next made e hm => rwa [hm] at hi
        · next made hm =>
          rw [hm] at hi
          split
          · next all hall => exact hi.trans (extends_makeDirectory hall)
          · exact hi
      · exact Extends.refl fs

theorem locate_of_around {fs : FileSystem} {p : FilePath} {dir : Place}
    (h : fs.around p = .ok dir) : fs.locate p = last p dir := by
  rw [locate, h]

/-- What it takes to create a file, and the change that this is. -/
theorem create_eq_ok {fs stored : FileSystem} {p : FilePath} {content : List UInt8}
    (h : fs.create p content = .ok stored) :
    ∃ place, fs.locate p = .ok place ∧ fs.get? place ≠ some .directory ∧ p.endsInSlash = false ∧
      stored = fs.set place (.file content) := by
  rw [create] at h
  cases ha : fs.around p with
  | error e => rw [ha] at h; simp at h
  | ok dir =>
    rw [ha] at h
    dsimp only at h
    split at h
    · simp at h
    · next hname =>
      cases hl : last p dir with
      | error e => rw [hl] at h; simp at h
      | ok place =>
        rw [hl] at h
        dsimp only at h
        split at h
        · simp at h
        · next hdir =>
          refine ⟨place, by rw [locate_of_around ha, hl], by simpa using hdir, ?_,
            (Except.ok.inj h).symm⟩
          rw [FilePath.endsInName] at hname
          cases hs : p.endsInSlash with
          | false => rfl
          | true => simp [hs] at hname

/-- A new file takes the place of no directory. -/
theorem keepsDirectories_set {fs : FileSystem} {place : Place}
    (h : fs.get? place ≠ some .directory) (content : List UInt8) :
    fs.KeepsDirectories (fs.set place (.file content)) := by
  refine ⟨rfl, fun other ho => ?_⟩
  have hne : other ≠ place := by
    rintro rfl
    exact h ho
  rw [get?_set fs (ne_nil_of_get?_ne h), if_neg hne]
  exact ho

/-! ### Storing -/

/-- A file system to which directories and then one file were added: the file is at the place that
its path leads to, and all else is as it was. -/
structure Stored (fs more : FileSystem) (p : FilePath) (content : List UInt8) (place : Place) :
    Prop where
  /-- Directories stay. -/
  keepsDirectories : fs.KeepsDirectories more
  /-- The path leads to the place. -/
  locate : more.locate p = .ok place
  /-- The path is read as the file there. -/
  read : more.read p = .ok content
  /-- Entries at other places stay. -/
  entry : ∀ other entry, other ≠ place → fs.get? other = some entry → more.get? other = some entry

theorem stored_of_create {fs made stored : FileSystem} {p : FilePath} {content : List UInt8}
    (hm : fs.Extends made) (h : made.create p content = .ok stored) :
    ∃ place, fs.Stored stored p content place := by
  obtain ⟨place, hl, hdir, hs, rfl⟩ := create_eq_ok h
  have hkeeps := keepsDirectories_set hdir content
  have hlocate := locate_of_keepsDirectories hkeeps hl
  have hget := get?_set made (ne_nil_of_get?_ne hdir) (.file content)
  refine ⟨place, ⟨?_, ?_⟩, hlocate, ?_, ?_⟩
  · exact hkeeps.workingDirectory.trans hm.workingDirectory
  · exact fun other ho => hkeeps.directory other (hm.entry other _ ho)
  · exact read_eq_ok_iff.mpr ⟨place, hlocate, by rw [hget, if_pos rfl], hs⟩
  · intro other entry hne he
    rw [hget, if_neg hne]
    exact hm.entry other entry he

/-- Storing a file adds directories, and then the file unless something could not be done. -/
theorem store_cases (fs : FileSystem) (p : FilePath) (content : List UInt8) :
    (∃ e, (fs.store p content).2 = some e ∧ fs.Extends (fs.store p content).1) ∨
      (fs.store p content).2 = none ∧
        ∃ place, fs.Stored (fs.store p content).1 p content place := by
  rw [store]
  cases hp : p.parents with
  | nil =>
    dsimp only
    cases hc : fs.create p content with
    | error cause => exact Or.inl ⟨_, rfl, Extends.refl fs⟩
    | ok stored => exact Or.inr ⟨rfl, stored_of_create (Extends.refl fs) hc⟩
  | cons directory around =>
    have hm := extends_makeDirectories fs (directory :: around)
    dsimp only
    cases hc : (fs.makeDirectories (directory :: around)).2 with
    | some e => exact Or.inl ⟨_, rfl, hm⟩
    | none =>
      dsimp only [Option.map_none]
      cases hs : (fs.makeDirectories (directory :: around)).1.create p content with
      | error cause => exact Or.inl ⟨_, rfl, hm⟩
      | ok stored => exact Or.inr ⟨rfl, stored_of_create hm hs⟩

end TypedClient.Files.FileSystem
