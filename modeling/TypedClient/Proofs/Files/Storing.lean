import TypedClient.Proofs.Files.Growth
import TypedClient.Proofs.Files.Parents

/-!
# Storing a file where one can be

A file can be stored at a path if it could be created there once there are more
directories. Then storing it makes the directories around it that are missing, the
outer ones first, and creates it; nothing else changes.
-/

namespace TypedClient.Files

open FileSystem (refused?)

namespace FileSystem

variable {fs more : FileSystem}

/-! ### Following names -/

theorem enterAll_append (fs : FileSystem) (start : Place) (names : List String) (name : String) :
    fs.enterAll start (names ++ [name]) =
      match fs.enterAll start names with
      | .error e => .error e
      | .ok place => fs.enter place name := by
  induction names generalizing start with
  | nil =>
    simp only [List.nil_append, enterAll]
    cases fs.enter start name <;> rfl
  | cons first rest ih =>
    rw [List.cons_append, enterAll, enterAll]
    cases fs.enter start first with
    | error e => rfl
    | ok next => exact ih next

/-- A name leads to a directory. -/
theorem enter_eq_ok_iff {place next : Place} {name : String} :
    fs.enter place name = .ok next ↔
      child place name = .ok next ∧ fs.get? next = some .directory := by
  rw [enter]
  cases hc : child place name with
  | error e => simp
  | ok reached =>
    constructor
    · intro h
      cases hg : fs.get? reached with
      | none => simp [hg] at h
      | some entry =>
        cases entry with
        | file content => simp [hg] at h
        | directory =>
          obtain rfl : reached = next := by simpa [hg] using h
          exact ⟨rfl, hg⟩
    · rintro ⟨h, hg⟩
      obtain rfl := Except.ok.inj h
      dsimp only
      rw [hg]

/-- What names of directories lead to is a directory. -/
theorem get?_of_enterAll {start place : Place} {names : List String}
    (h : fs.enterAll start names = .ok place) (hne : names ≠ [] ∨ start = []) :
    fs.get? place = some .directory := by
  cases names using List.reverseRecOn with
  | nil =>
    obtain rfl : start = [] := by tauto
    obtain rfl : [] = place := Except.ok.inj h
    rw [get?, if_pos rfl]
  | append_singleton names name =>
    rw [enterAll_append] at h
    cases hn : fs.enterAll start names with
    | error e => rw [hn] at h; simp at h
    | ok dir =>
      rw [hn] at h
      exact (enter_eq_ok_iff.mp h).2

/-- Names that lead to a directory once there is more lead there already, or something is missing. -/
theorem enterAll_of_extends (h : fs.Extends more) {start place : Place} {names : List String}
    (he : more.enterAll start names = .ok place) :
    fs.enterAll start names = .ok place ∨ fs.enterAll start names = .error .missing := by
  induction names generalizing start with
  | nil => exact Or.inl he
  | cons name rest ih =>
    rw [enterAll] at he ⊢
    cases hn : more.enter start name with
    | error e => rw [hn] at he; simp at he
    | ok next =>
      rw [hn] at he
      obtain ⟨hc, hg⟩ := enter_eq_ok_iff.mp hn
      cases hf : fs.get? next with
      | none =>
        rw [enter, hc]
        simp [hf]
      | some entry =>
        obtain rfl : entry = .directory := by
          simpa [hg] using (h.entry next entry hf).symm
        rw [enter_eq_ok_iff.mpr ⟨hc, hf⟩]
        exact ih he

theorem locate_of_names {path : FilePath} {names : List String} {name : String}
    (hnames : path.names = names ++ [name]) (hpath : refused? path = none) :
    fs.locate path =
      match fs.enterAll (if path.isAbsolute then [] else fs.workingDirectory) names with
      | .error e => .error e
      | .ok dir => child dir name := by
  simp only [locate, around, hpath, hnames, List.dropLast_concat]
  cases fs.enterAll (if path.isAbsolute then [] else fs.workingDirectory) names with
  | error e => rfl
  | ok dir => simp only [last, hnames, List.getLast?_concat]

/-! ### Making the directories -/

/-- A directory that could be there is made, or is there, once there is the one around it. -/
theorem makeDirectory_of_enterAll (h : fs.Extends more) {path : FilePath} {names : List String}
    {name : String} {start dir place : Place} (hnames : path.names = names ++ [name])
    (hpath : refused? path = none)
    (hstart : start = if path.isAbsolute then [] else fs.workingDirectory)
    (hdir : fs.enterAll start names = .ok dir) (he : more.enter dir name = .ok place) :
    (∃ made, fs.makeDirectory path = .ok made ∧ made.Extends more ∧
      made.enterAll start (names ++ [name]) = .ok place) ∨
    fs.makeDirectory path = .error .present ∧ fs.isDirectory path = true ∧
      fs.enterAll start (names ++ [name]) = .ok place := by
  obtain ⟨hc, hp⟩ := enter_eq_ok_iff.mp he
  have hl : fs.locate path = .ok place := by
    rw [locate_of_names hnames hpath, ← hstart, hdir]
    exact hc
  rw [makeDirectory, isDirectory, hl]
  dsimp only
  cases hg : fs.get? place with
  | some entry =>
    obtain rfl : entry = .directory := by
      simpa [hp] using (h.entry place entry hg).symm
    refine Or.inr ⟨rfl, by simp, ?_⟩
    rw [enterAll_append, hdir]
    exact enter_eq_ok_iff.mpr ⟨hc, hg⟩
  | none =>
    have hmade : fs.makeDirectory path = .ok (fs.set place .directory) := by
      rw [makeDirectory, hl]
      simp [hg]
    have hget := get?_set fs (ne_nil_of_get?_ne (by rw [hg]; simp)) .directory
    refine Or.inl ⟨_, rfl, ⟨h.workingDirectory, fun other entry ho => ?_⟩, ?_⟩
    · rw [hget] at ho
      split at ho
      · next heq => rw [heq, hp, Option.some.inj ho]
      · exact h.entry other entry ho
    · rw [enterAll_append,
        enterAll_of_keepsDirectories (extends_makeDirectory hmade).keepsDirectories hdir]
      exact enter_eq_ok_iff.mpr ⟨hc, by rw [hget, if_pos rfl]⟩

theorem text_ne_empty_of_refused? {p : FilePath} (h : refused? p = none) : p.text ≠ "" := by
  intro hempty
  rw [refused?, hempty] at h
  simp at h

/-- Directories that could all be there are made, and then names lead to where they would lead. -/
theorem makeDirectories_of_leads {absolute : Bool} {names : List String} {paths : List FilePath}
    (hl : Leads absolute names paths) (h : fs.Extends more) {start place : Place}
    (hstart : start = if absolute then [] else fs.workingDirectory)
    (he : more.enterAll start names = .ok place) :
    ∃ made, fs.makeDirectories paths = (made, none) ∧ made.Extends more ∧
      made.enterAll start names = .ok place := by
  induction hl generalizing place with
  | here habs => exact ⟨fs, by simp [makeDirectories], h, he⟩
  | root habs =>
    refine ⟨fs, ?_, h, he⟩
    have hroot : fs.locate ⟨"/"⟩ = .ok [] := rfl
    simp [makeDirectories, makeDirectory, isDirectory, hroot, get?]
  | @idle names paths hne around ih =>
    rw [enterAll_append] at he
    cases hn : more.enterAll start names with
    | error e => rw [hn] at he; simp at he
    | ok dir =>
      rw [hn] at he
      obtain rfl : dir = place := Except.ok.inj (enter_eq_ok_iff.mp he).1
      obtain ⟨made, hmade, hmore, hnames⟩ := ih hn
      refine ⟨made, hmade, hmore, ?_⟩
      rw [enterAll_append, hnames]
      refine enter_eq_ok_iff.mpr ⟨rfl, get?_of_enterAll hnames (hne.imp_right ?_)⟩
      rintro rfl
      exact hstart
  | @step names name path paths hnames habs hpath around ih =>
    rw [enterAll_append] at he
    cases hn : more.enterAll start names with
    | error e => rw [hn] at he; simp at he
    | ok dir =>
      rw [hn] at he
      dsimp only at he
      subst habs
      rw [makeDirectories, if_neg (text_ne_empty_of_refused? hpath)]
      dsimp only
      obtain hdir | hmissing := enterAll_of_extends h hn
      · obtain ⟨made, hmade, hmore, hreach⟩ | ⟨hpresent, hdirectory, hreach⟩ :=
          makeDirectory_of_enterAll h hnames hpath hstart hdir he
        · exact ⟨made, by rw [hmade], hmore, hreach⟩
        · exact ⟨fs, by rw [hpresent]; simp [hdirectory], h, hreach⟩
      · have hfails : fs.makeDirectory path = .error .missing := by
          rw [makeDirectory, locate_of_names hnames hpath, ← hstart, hmissing]
        obtain ⟨outer, houter, hmore, hdir⟩ := ih hn
        rw [hfails]
        dsimp only
        rw [houter]
        dsimp only
        have hstart' : start = if path.isAbsolute then [] else outer.workingDirectory := by
          rw [hstart, ← h.workingDirectory, hmore.workingDirectory]
        obtain ⟨made, hmade, hmore, hreach⟩ | ⟨hpresent, hdirectory, hreach⟩ :=
          makeDirectory_of_enterAll hmore hnames hpath hstart' hdir he
        · exact ⟨made, by rw [hmade], hmore, hreach⟩
        · exact ⟨outer, by rw [hpresent]; simp [hdirectory], hmore, hreach⟩

/-- A directory that is new, and to which one of the paths leads. -/
def IsNewDirectory (made : FileSystem) (paths : List FilePath) (place : Place) : Prop :=
  made.get? place = some .directory ∧ ∃ path ∈ paths, made.locate path = .ok place

theorem IsNewDirectory.cons {made : FileSystem} {paths : List FilePath} {place : Place}
    (h : made.IsNewDirectory paths place) (path : FilePath) :
    made.IsNewDirectory (path :: paths) place := by
  obtain ⟨hg, q, hq, hl⟩ := h
  exact ⟨hg, q, List.mem_cons_of_mem path hq, hl⟩

theorem IsNewDirectory.of_keepsDirectories {made : FileSystem} {paths : List FilePath}
    {place : Place} (h : fs.IsNewDirectory paths place) (hk : fs.KeepsDirectories made) :
    made.IsNewDirectory paths place := by
  obtain ⟨hg, path, hp, hl⟩ := h
  exact ⟨hk.directory place hg, path, hp, locate_of_keepsDirectories hk hl⟩

/-- What is new after a directory is made is the directory that the path leads to. -/
theorem isNewDirectory_of_makeDirectory {made : FileSystem} {path : FilePath}
    (hm : fs.makeDirectory path = .ok made) (paths : List FilePath) {place : Place}
    (h : fs.get? place = none) :
    made.get? place = none ∨ made.IsNewDirectory (path :: paths) place := by
  have hx := extends_makeDirectory hm
  rw [makeDirectory] at hm
  cases hl : fs.locate path with
  | error e => rw [hl] at hm; simp at hm
  | ok reached =>
    rw [hl] at hm
    dsimp only at hm
    cases hg : fs.get? reached with
    | some entry => rw [hg] at hm; simp at hm
    | none =>
      rw [hg] at hm
      obtain rfl := Except.ok.inj hm
      have hget := get?_set fs (ne_nil_of_get?_ne (by rw [hg]; simp)) .directory place
      by_cases heq : place = reached
      · subst heq
        exact Or.inr ⟨by rw [hget, if_pos rfl], path, List.mem_cons_self,
          locate_of_keepsDirectories hx.keepsDirectories hl⟩
      · rw [hget, if_neg heq]
        exact Or.inl h

/-- What is new after directories are made are directories that the paths lead to. -/
theorem isNewDirectory_of_makeDirectories (fs : FileSystem) (paths : List FilePath) {place : Place}
    (h : fs.get? place = none) :
    (fs.makeDirectories paths).1.get? place = none ∨
      (fs.makeDirectories paths).1.IsNewDirectory paths place := by
  induction paths generalizing fs with
  | nil => exact Or.inl h
  | cons directory around ih =>
    rw [makeDirectories]
    dsimp only
    split
    · exact Or.inl h
    · split
      · next made hmade => exact isNewDirectory_of_makeDirectory hmade around h
      · have hi := ih fs h
        split
        · next made e hm =>
          rw [hm] at hi
          exact hi.imp_right fun hnew => hnew.cons directory
        · next made hm =>
          rw [hm] at hi
          split
          · next all hall =>
            have hx := extends_makeDirectory hall
            rcases hi with hnone | hnew
            · exact isNewDirectory_of_makeDirectory hall around hnone
            · exact Or.inr ((hnew.cons directory).of_keepsDirectories hx.keepsDirectories)
          · exact hi.imp_right fun hnew => hnew.cons directory
      · exact Or.inl h

/-! ### Storing the file -/

/-- Whether a file can be stored at a path: once there is more than there is now, it could be created
there. -/
def CanStore (fs : FileSystem) (p : FilePath) : Prop :=
  ∃ more, fs.Extends more ∧ ∃ stored, more.create p [] = .ok stored

/-- A file system to which one file was added, with those directories around it that were missing. -/
structure StoredAlone (fs more : FileSystem) (p : FilePath) (content : List UInt8) (place : Place) :
    Prop extends Stored fs more p content place where
  /-- What else is new is a directory that the path goes through. -/
  new : ∀ other, other ≠ place → fs.get? other = none →
    more.get? other = none ∨ more.IsNewDirectory p.parents other

/-- What it takes to create a file, which has nothing to do with its content. -/
theorem create_eq_ok_iff {stored : FileSystem} {p : FilePath} {content : List UInt8} :
    fs.create p content = .ok stored ↔
      p.endsInName = true ∧ ∃ place, fs.locate p = .ok place ∧ fs.get? place ≠ some .directory ∧
        stored = fs.set place (.file content) := by
  rw [create, locate]
  cases fs.around p with
  | error e => simp
  | ok dir =>
    cases hname : p.endsInName with
    | false => simp
    | true =>
      cases hl : last p dir with
      | error e => simp [hl]
      | ok place =>
        by_cases hg : fs.get? place = some .directory
        · simp [hg, hl]
        · simp only [hg, hl, beq_iff_eq, Bool.not_true, Bool.false_eq_true, if_false,
            Except.ok.injEq, true_and]
          exact ⟨fun h => ⟨place, rfl, hg, h.symm⟩, by rintro ⟨-, rfl, -, rfl⟩; rfl⟩

/-- Storing a file where one can be goes through. -/
theorem store_of_canStore {p : FilePath} (h : fs.CanStore p) (content : List UInt8) :
    (fs.store p content).2 = none := by
  obtain ⟨more, hx, stored, hs⟩ := h
  obtain ⟨hname, place, hl, hdir, -⟩ := create_eq_ok_iff.mp hs
  cases hpath : refused? p with
  | some e => simp [locate, around, hpath] at hl
  | none =>
    rw [locate, around, hpath] at hl
    dsimp only at hl
    rw [hx.workingDirectory] at hl
    cases hd : more.enterAll (if p.isAbsolute then [] else fs.workingDirectory)
        p.names.dropLast with
    | error e => rw [hd] at hl; simp at hl
    | ok dir =>
      rw [hd] at hl
      dsimp only at hl
      obtain ⟨made, hmade, hmore, hreach⟩ :=
        makeDirectories_of_leads (leads_parents hname hpath) hx rfl hd
      have hcreate : made.create p content = .ok (made.set place (.file content)) := by
        refine create_eq_ok_iff.mpr ⟨hname, place, ?_, fun hg => hdir (hmore.entry _ _ hg), rfl⟩
        rw [locate, around, hpath]
        dsimp only
        rw [← hmore.workingDirectory, hx.workingDirectory, hreach]
        exact hl
      rw [store]
      cases hp : p.parents with
      | nil =>
        rw [hp, makeDirectories] at hmade
        simp at hmade
      | cons directory around =>
        rw [hp] at hmade
        dsimp only
        rw [hmade]
        dsimp only [Option.map_none]
        rw [hcreate]

theorem storedAlone_of_create {made stored : FileSystem} {p : FilePath} {content : List UInt8}
    (hm : fs.Extends made)
    (hnew : ∀ other, fs.get? other = none →
      made.get? other = none ∨ made.IsNewDirectory p.parents other)
    (h : made.create p content = .ok stored) :
    fs.CanStore p ∧ ∃ place, fs.StoredAlone stored p content place := by
  obtain ⟨hname, place, hl, hdir, rfl⟩ := create_eq_ok_iff.mp h
  have hempty : made.create p [] = .ok (made.set place (.file [])) :=
    create_eq_ok_iff.mpr ⟨hname, place, hl, hdir, rfl⟩
  obtain ⟨reached, hstored⟩ := stored_of_create hm h
  have hkeeps := keepsDirectories_set hdir content
  have hplace : place = reached := by
    have := locate_of_keepsDirectories hkeeps hl
    rw [hstored.locate] at this
    exact (Except.ok.inj this).symm
  subst hplace
  refine ⟨⟨made, hm, _, hempty⟩, place, hstored, fun other hne ho => ?_⟩
  rw [get?_set made (ne_nil_of_get?_ne hdir), if_neg hne]
  exact (hnew other ho).imp_right fun h => h.of_keepsDirectories hkeeps

/-- If storing a file goes through, one can be stored there, and it is stored alone. -/
theorem storedAlone_of_store {p : FilePath} {content : List UInt8}
    (h : (fs.store p content).2 = none) :
    fs.CanStore p ∧ ∃ place, fs.StoredAlone (fs.store p content).1 p content place := by
  rw [store] at h ⊢
  cases hp : p.parents with
  | nil =>
    rw [hp] at h
    dsimp only at h ⊢
    cases hc : fs.create p content with
    | error cause => rw [hc] at h; simp at h
    | ok stored => exact storedAlone_of_create (.refl fs) (fun other ho => Or.inl ho) hc
  | cons directory around =>
    rw [hp] at h
    dsimp only at h ⊢
    have hx := extends_makeDirectories fs (directory :: around)
    have hnew := fun other => @isNewDirectory_of_makeDirectories fs (directory :: around) other
    cases hm : fs.makeDirectories (directory :: around) with
    | mk made cause =>
      rw [hm] at h hx hnew
      cases cause with
      | some e => simp at h
      | none =>
        dsimp only [Option.map_none] at h ⊢
        cases hc : made.create p content with
        | error cause => rw [hc] at h; simp at h
        | ok stored => exact storedAlone_of_create hx (by rwa [hp]) hc

/-- Storing a file goes through exactly where a file can be stored. -/
theorem store_eq_none_iff (fs : FileSystem) (p : FilePath) (content : List UInt8) :
    (fs.store p content).2 = none ↔ fs.CanStore p :=
  ⟨fun h => (storedAlone_of_store h).1, fun h => store_of_canStore h content⟩

end FileSystem

end TypedClient.Files
