import TypedClient.Files.FileSystem
import TypedClient.Proofs.Text.Joining

/-!
# The directories around a path

The directories that a path goes through are found in its spelling, without a look at
any file system. `Leads` says what is found: path by path the list goes back over the
names before the last one, to the root or to the working directory.
-/

namespace TypedClient.Files

open FileSystem (refused?)

/-- The directories, the innermost first, that names lead through one by one, from the root or from
the working directory on. -/
inductive Leads (absolute : Bool) : List String → List FilePath → Prop where
  /-- The working directory. -/
  | here (h : absolute = false) : Leads absolute [] [⟨""⟩]
  /-- The root. -/
  | root (h : absolute = true) : Leads absolute [] [⟨"/"⟩]
  /-- A dot leads to no other directory. -/
  | idle {names : List String} {paths : List FilePath} (h : names ≠ [] ∨ absolute = true)
    (around : Leads absolute names paths) : Leads absolute (names ++ ["."]) paths
  /-- Another name leads to a directory with a path of its own. -/
  | step {names : List String} {name : String} {path : FilePath} {paths : List FilePath}
    (hnames : path.names = names ++ [name]) (hstart : path.isAbsolute = absolute)
    (hpath : refused? path = none) (around : Leads absolute names paths) :
    Leads absolute (names ++ [name]) (path :: paths)

/-! ### Spelling -/

namespace FilePath

/-- Pieces with slashes between them. -/
def ofPieces (pieces : List String) : FilePath :=
  ⟨"/".intercalate pieces⟩

theorem pieces_ofPieces {pieces : List String} (hne : pieces ≠ [])
    (h : ∀ piece ∈ pieces, '/' ∉ piece.toList) : (ofPieces pieces).pieces = pieces := by
  have hchars : ∀ piece ∈ pieces.map String.toList, '/' ∉ piece := by simpa using h
  have htext : (ofPieces pieces).text.toList = ['/'].intercalate (pieces.map String.toList) := by
    rw [ofPieces, String.toList_intercalate]
    rfl
  rw [FilePath.pieces, htext, Text.pieces_intercalate (by simpa using hne) hchars, List.map_map]
  exact List.map_id'' (fun _ => String.ofList_toList) _

theorem ofPieces_pieces (p : FilePath) : ofPieces p.pieces = p := by
  have h : (ofPieces p.pieces).text.toList = p.text.toList := by
    rw [ofPieces, pieces, String.toList_intercalate, List.map_map]
    simpa using Text.intercalate_pieces '/' p.text.toList
  cases p
  exact congrArg FilePath.mk (String.toList_injective h)

theorem not_mem_of_mem_pieces {p : FilePath} {piece : String} (h : piece ∈ p.pieces) :
    '/' ∉ piece.toList := by
  obtain ⟨chars, hchars, rfl⟩ := List.mem_map.mp h
  simpa using Text.not_mem_of_mem_pieces hchars

/-- A path starts at the root if its first piece is empty and not the only one. -/
theorem isAbsolute_ofPieces {rest : List String} {name : String}
    (h : ∀ piece ∈ rest ++ [name], '/' ∉ piece.toList) :
    (ofPieces (rest ++ [name])).isAbsolute = (rest.head? == some "") := by
  rw [isAbsolute, ofPieces, String.toList_intercalate]
  cases rest with
  | nil =>
    rw [List.nil_append, List.map_singleton, List.intercalate_singleton]
    have hname : '/' ∉ name.toList := h name (by simp)
    cases hn : name.toList with
    | nil => rfl
    | cons c text =>
      rw [hn] at hname
      have hc : c ≠ '/' := fun e => hname (by simp [e])
      simp [hc]
  | cons first more =>
    rw [List.cons_append, List.map_cons, List.intercalate_cons_of_ne_nil (by simp)]
    have hfirst : '/' ∉ first.toList := h first (by simp)
    cases hf : first.toList with
    | nil =>
      obtain rfl : first = "" := String.toList_injective (by simpa using hf)
      rfl
    | cons c text =>
      rw [hf] at hfirst
      have hc : c ≠ '/' := fun e => hfirst (by simp [e])
      have hne : first ≠ "" := by
        rintro rfl
        simp at hf
      simp [hc, hne]

theorem names_ofPieces {pieces : List String} (hne : pieces ≠ [])
    (h : ∀ piece ∈ pieces, '/' ∉ piece.toList) :
    (ofPieces pieces).names = pieces.filter (· ≠ "") := by
  rw [names, pieces_ofPieces hne h]

theorem ofReversedPieces_eq {piece : String} {rest : List String} (h : ¬ (piece = "" ∧ rest = [])) :
    ofReversedPieces (piece :: rest) = ofPieces (rest.reverse ++ [piece]) := by
  rw [ofReversedPieces, List.reverse_cons, ofPieces]
  simpa only [List.cons.injEq, imp_false] using h

/-- One more piece makes a path longer. -/
theorem exists_text_ofPieces_append (pieces : List String) (piece : String) :
    ∃ back, (ofPieces (pieces ++ [piece])).text = (ofPieces pieces).text ++ back := by
  by_cases h : pieces = []
  · subst h
    exact ⟨piece, by simp [ofPieces]⟩
  · refine ⟨"/" ++ piece, ?_⟩
    rw [ofPieces, String.intercalate_append_of_ne_nil h (by simp), String.intercalate_singleton,
      String.append_assoc, ofPieces]

theorem text_ofPieces_ne_empty {pieces : List String} {piece : String} (h : piece ≠ "") :
    (ofPieces (pieces ++ [piece])).text ≠ "" := by
  by_cases hp : pieces = []
  · subst hp
    simpa [ofPieces] using h
  · rw [ofPieces, String.intercalate_append_of_ne_nil hp (by simp), String.intercalate_singleton]
    simp [h]

/-- A path that ends in the name of a file has this name as its last piece. -/
theorem endsInName_ofPieces {front : List String} {name : String}
    (hslash : ∀ piece ∈ front ++ [name], '/' ∉ piece.toList)
    (h : (ofPieces (front ++ [name])).endsInName = true) : name ≠ "" ∧ name ≠ "." := by
  rw [endsInName, Bool.and_eq_true, names_ofPieces (by simp) hslash, List.filter_append] at h
  obtain ⟨hend, hlast⟩ := h
  have hname : name ≠ "" := by
    rintro rfl
    by_cases hf : front = []
    · subst hf
      simp at hlast
    · rw [endsInSlash, ofPieces, String.intercalate_append_of_ne_nil hf (by simp)] at hend
      simp at hend
  refine ⟨hname, ?_⟩
  rintro rfl
  simp at hlast

end FilePath

/-! ### From the spelling to the directories -/

/-- What stands in front in a path that is not refused is not refused. -/
theorem refused?_eq_none_of_append {front back : String} (h : refused? ⟨front ++ back⟩ = none)
    (hne : front ≠ "") : refused? ⟨front⟩ = none := by
  simp only [refused?, String.toList_append, List.any_append, String.utf8ByteSize_append] at h ⊢
  split at h
  · simp at h
  · next hnul =>
    split at h
    · simp at h
    · split at h
      · simp at h
      · next hlong =>
        rw [Bool.or_eq_true, not_or] at hnul
        rw [if_neg hnul.1, if_neg hne, if_neg (by omega)]

open FilePath in
/-- The directories that are found for pieces lead through the names among them. -/
theorem leads_parentsFrom (rest : List String) (back : String)
    (hslash : ∀ piece ∈ rest, '/' ∉ piece.toList)
    (hpath : refused? ⟨(ofPieces rest.reverse).text ++ back⟩ = none) :
    Leads (rest.getLast? == some "") (rest.reverse.filter (· ≠ ""))
      (ofReversedPieces (dropIdle rest) :: parentsFrom rest) := by
  induction rest generalizing back with
  | nil => exact .here rfl
  | cons piece rest ih =>
    have hpieces : ∀ q ∈ rest.reverse ++ [piece], '/' ∉ q.toList := by
      intro q hq
      exact hslash q (by simpa [or_comm] using hq)
    obtain ⟨more, hmore⟩ := exists_text_ofPieces_append rest.reverse piece
    rw [List.reverse_cons] at hpath ⊢
    have ih := ih (more ++ back) (fun q hq => hslash q (by simp [hq]))
      (by rwa [← String.append_assoc, ← hmore])
    rw [List.filter_append, dropIdle, parentsFrom]
    by_cases hroot : piece = "" ∧ rest = []
    · obtain ⟨rfl, rfl⟩ := hroot
      exact .root rfl
    by_cases hidle : (piece = "" ∨ piece = ".") ∧ rest ≠ []
    · obtain ⟨hp, hr⟩ := hidle
      rw [if_pos ⟨hp, hr⟩, if_pos ⟨hp, hr⟩, List.getLast?_cons_of_ne_nil hr]
      obtain rfl | rfl := hp
      · simpa using ih
      · refine .idle ?_ ih
        -- pieces without a name start with the empty one, which stands for the root
        by_contra hnone
        rw [not_or, not_not, List.filter_eq_nil_iff] at hnone
        obtain ⟨hempty, hstart⟩ := hnone
        have hlast := hempty _ (List.mem_reverse.mpr (List.getLast_mem hr))
        rw [List.getLast?_eq_getLast_of_ne_nil hr] at hstart
        simp_all
    · have hp : piece ≠ "" := by tauto
      rw [if_neg hidle, if_neg hidle, if_neg hp, ofReversedPieces_eq hroot]
      have hlast : ((piece :: rest).getLast? == some "") = (rest.getLast? == some "") := by
        cases rest with
        | nil => simp [hp]
        | cons _ _ => rw [List.getLast?_cons_cons]
      have hname : [piece].filter (· ≠ "") = [piece] := by simp [hp]
      rw [hlast, hname]
      refine .step ?_ ?_ ?_ ih
      · rw [names_ofPieces (by simp) hpieces, List.filter_append, hname]
      · rw [isAbsolute_ofPieces hpieces, List.head?_reverse]
      · exact refused?_eq_none_of_append hpath (text_ofPieces_ne_empty hp)

open FilePath in
/-- The directories around a path that can be that of a file lead through the names before the
last. -/
theorem leads_parents {p : FilePath} (hname : p.endsInName = true) (hpath : refused? p = none) :
    Leads p.isAbsolute p.names.dropLast p.parents := by
  cases hrev : p.pieces.reverse with
  | nil =>
    rw [List.reverse_eq_nil_iff] at hrev
    rw [endsInName, names, hrev] at hname
    simp at hname
  | cons name rest =>
    have hpieces : p.pieces = rest.reverse ++ [name] := by simpa using List.reverse_eq_iff.mp hrev
    have hslash : ∀ piece ∈ rest.reverse ++ [name], '/' ∉ piece.toList := fun piece hm =>
      not_mem_of_mem_pieces (hpieces ▸ hm)
    have hp : p = ofPieces (rest.reverse ++ [name]) := by rw [← hpieces, ofPieces_pieces]
    obtain ⟨hempty, hdot⟩ := endsInName_ofPieces hslash (hp ▸ hname)
    obtain ⟨back, hback⟩ := exists_text_ofPieces_append rest.reverse name
    have hleads := leads_parentsFrom rest back
      (fun piece hm => hslash piece (by simp [hm])) (by rwa [← hback, ← hp])
    have hlast : [name].filter (· ≠ "") = [name] := by simp [hempty]
    rw [parents, hrev, parentsFrom, if_neg (by tauto), if_neg hempty, hp,
      isAbsolute_ofPieces hslash, List.head?_reverse, names_ofPieces (by simp) hslash,
      List.filter_append, hlast, List.dropLast_concat]
    exact hleads

end TypedClient.Files
