import TypedClient.Client.Transliteration
import TypedClient.Proofs.Client.Indentation
import TypedClient.Proofs.Client.PathParameters
import TypedClient.Proofs.Client.TypeText
import TypedClient.Proofs.Text.Runs

/-!
# The lines of a method

No text of a document makes or breaks a line of a method, save in two places. A line feed
in the text of a path is not escaped in the template literal of the route, and the line
about an argument may end in a carriage return, when the first line of its description
does. All else is written in words, in literals without line feeds, or line by line.
-/

namespace TypedClient.Client

open TypedClient.Api (Endpoint Parameter Resolver)

/-! ### Texts that are one line -/

/-- Whether a text is one line: there is no line feed in it, and it does not end in a carriage
return. -/
def StaysLine (text : String) : Prop :=
  Text.IsLine text ∧ ¬ EndsInReturn text

instance (text : String) : Decidable (StaysLine text) :=
  inferInstanceAs (Decidable (_ ∧ _))

theorem endsInReturn_append {a b : String} (h : b = "" → ¬ EndsInReturn a) :
    EndsInReturn (a ++ b) ↔ EndsInReturn b := by
  by_cases hb : b = ""
  · rw [hb, String.append_empty]
    exact iff_of_false (h hb) (by decide)
  · have hne : b.toList ≠ [] := by simpa using hb
    rw [EndsInReturn, EndsInReturn, String.toList_append, List.getLast?_append_of_ne_nil _ hne]

theorem StaysLine.append {a b : String} (ha : Text.IsLine a) (hb : StaysLine b) (hne : b ≠ "") :
    StaysLine (a ++ b) :=
  ⟨ha.append hb.1, fun hr => hb.2 ((endsInReturn_append fun he => absurd he hne).mp hr)⟩

theorem isLine_of_isWord {text : String} (h : IsWord text) : Text.IsLine text := fun hc =>
  absurd (h.2 _ hc) (by decide)

theorem staysLine_of_isWord {text : String} (h : IsWord text) : StaysLine text := by
  refine ⟨isLine_of_isWord h, fun hr => ?_⟩
  exact absurd (h.2 _ (List.mem_of_getLast? hr)) (by decide)

theorem isWord_of_isBinding {text : String} (h : isBinding text = true) : IsWord text :=
  isWord_of_isIdentifier (isBinding_iff.mp h).1

/-- An entry for a key and a binding is one line, whatever the key. -/
theorem isLine_entryText (key : String) {binding : String} (h : isBinding binding = true) :
    Text.IsLine (entryText key binding) := by
  have hbinding := isLine_of_isWord (isWord_of_isBinding h)
  have hcolon : Text.IsLine ": " := by decide
  rw [entryText]
  by_cases he : key = binding
  · rwa [if_pos he]
  · rw [if_neg he]
    exact ((isLine_keyText key).append hcolon).append hbinding

/-! ### Lines of a comment -/

/-- The lines of a description are trimmed, so that none of them ends in a carriage return. -/
theorem staysLine_of_mem_commentBody {description : Option String} {line : String}
    (h : line ∈ commentBody description) : StaysLine line := by
  refine ⟨isLine_of_mem_commentBody h, ?_⟩
  rw [commentBody, List.mem_map] at h
  obtain ⟨piece, -, rfl⟩ := h
  split
  · decide
  · rw [endsInReturn_append fun _ => by decide, EndsInReturn, String.toList_ofList,
      getLast?_keepOpen]
    intro hr
    exact absurd (Text.isBlank_getLast?_trimEnd hr) (by decide)

/-- Whether two carriage returns stand before the first line feed of a description. The first of
them stays at the end of its first line. -/
def DoublesReturn (description : Option String) : Prop :=
  ∃ front rest, '\n' ∉ front ∧
    Text.trim (description.getD "").toList = front ++ '\r' :: '\r' :: '\n' :: rest

namespace Method

theorem isLine_argumentLine {a : Argument} (h : isBinding a.binding = true) :
    Text.IsLine (argumentLine a) := by
  have hfront : Text.IsLine " * @param " := by decide
  have hname := hfront.append (isLine_of_isWord (isWord_of_isBinding h))
  rw [argumentLine, commentSummary?]
  split
  · exact hname.append (by decide)
  · next text hne =>
    have hblank : Text.IsLine " " := by decide
    apply hname.append
    apply hblank.append
    rw [Text.IsLine, String.toList_ofList]
    apply lineFeed_not_mem_keepOpen
    intro hfeed
    cases hlines : Text.lines (Text.trim (a.description.getD "").toList) with
    | nil => exact hne (Text.lines_eq_nil_iff.mp hlines)
    | cons first others =>
      rw [hlines, List.headD_cons] at hfeed
      exact Text.lineFeed_not_mem_of_mem_lines (hlines ▸ List.mem_cons_self) hfeed

/-- The line about an argument ends as the first line of its description does. -/
theorem endsInReturn_argumentLine {a : Argument} (h : isBinding a.binding = true) :
    EndsInReturn (argumentLine a) ↔ DoublesReturn a.description := by
  have hword := staysLine_of_isWord (isWord_of_isBinding h)
  have hname : ¬ EndsInReturn (" * @param " ++ a.binding) := by
    rw [endsInReturn_append fun _ => by decide]
    exact hword.2
  have hend : (Text.trim (a.description.getD "").toList).getLast? ≠ some '\r' := fun hr =>
    absurd (Text.isBlank_getLast?_trimEnd hr) (by decide)
  rw [argumentLine, endsInReturn_append fun _ => hname, commentSummary?, DoublesReturn,
    ← Text.getLast?_headD_lines_iff hend]
  split
  · next hnil =>
    rw [hnil]
    exact iff_of_false (by decide) (by decide)
  · rw [Option.map_some, Option.getD_some, endsInReturn_append fun _ => by decide, EndsInReturn,
      String.toList_ofList, getLast?_keepOpen]

/-! ### The lines of a method -/

theorem mem_withCommas {line : String} {lines : List String} (h : line ∈ withCommas lines) :
    ∃ text ∈ lines, line = text ∨ line = text ++ "," := by
  fun_induction withCommas lines with
  | case1 => exact absurd h List.not_mem_nil
  | case2 last => exact ⟨last, List.mem_cons_self, .inl (List.mem_singleton.mp h)⟩
  | case3 text rest hne ih =>
    rcases List.mem_cons.mp h with rfl | h
    · exact ⟨text, List.mem_cons_self, .inr rfl⟩
    · obtain ⟨other, ho, he⟩ := ih h
      exact ⟨other, List.mem_cons_of_mem text ho, he⟩

theorem exists_mem_withCommas {text : String} {lines : List String} (h : text ∈ lines) :
    ∃ comma, text ++ comma ∈ withCommas lines := by
  fun_induction withCommas lines with
  | case1 => exact absurd h List.not_mem_nil
  | case2 last => exact ⟨"", by simpa using h⟩
  | case3 first rest hne ih =>
    rcases List.mem_cons.mp h with rfl | h
    · exact ⟨",", List.mem_cons_self⟩
    · obtain ⟨comma, hm⟩ := ih h
      exact ⟨comma, List.mem_cons_of_mem _ hm⟩

/-- The entry of the call that has the route. -/
def urlEntry (m : Method) : String := "url: \x60" ++ m.route ++ "\x60"

section Readable

variable {m : Method} (h : m.IsReadable)
include h

theorem staysLine_of_mem_commentLines (ha : ∀ a ∈ m.arguments, ¬ DoublesReturn a.description)
    {line : String} (hl : line ∈ m.commentLines) : StaysLine line := by
  have hfirst : Text.IsLine " * " := by decide
  have hname := staysLine_of_isWord h.name
  have hbody : ∀ text ∈ (if (commentBody m.documentation).isEmpty then []
      else " *" :: commentBody m.documentation), StaysLine text := by
    intro text ht
    split at ht
    · exact absurd ht List.not_mem_nil
    · rcases List.mem_cons.mp ht with rfl | ht
      · decide
      · exact staysLine_of_mem_commentBody ht
  rw [commentLines] at hl
  simp only [List.mem_append, List.mem_cons, List.not_mem_nil, or_false, List.mem_map] at hl
  rcases hl with ((((rfl | rfl) | hl) | rfl) | ⟨a, hm, rfl⟩) | rfl | rfl | rfl
  · decide
  · exact hname.append hfirst h.name.1
  · exact hbody line hl
  · decide
  · refine ⟨isLine_argumentLine (h.binding a hm), fun hr => ?_⟩
    exact ha a hm ((endsInReturn_argumentLine (h.binding a hm)).mp hr)
  · decide
  · decide
  · decide

theorem isLine_bare : Text.IsLine m.bare :=
  (isLine_of_isWord h.response).append (by decide)

theorem isLine_enveloped : Text.IsLine m.enveloped := by
  have hfront : Text.IsLine "AxiosResponse<" := by decide
  exact (hfront.append (isLine_of_isWord h.response)).append (by decide)

theorem isLine_either : Text.IsLine m.either := by
  have hbar : Text.IsLine " | " := by decide
  exact ((isLine_bare h).append hbar).append (isLine_enveloped h)

theorem staysLine_signature {isOptional : Bool} {flag answer : String} (hf : Text.IsLine flag)
    (ha : Text.IsLine answer) : StaysLine (m.signature isOptional flag answer) := by
  have hmark : Text.IsLine (if isOptional then "?" else "") := by
    cases isOptional <;> decide
  have hpublic : Text.IsLine "public " := by decide
  have hopen : Text.IsLine "(options" := by decide
  have hcolon : Text.IsLine ": " := by decide
  have hand : Text.IsLine " & \x7b " := by decide
  have hkey : Text.IsLine returnAxiosKey := by decide
  have hpromise : Text.IsLine " \x7d): Promise<" := by decide
  have hoptions := ((hpublic.append (isLine_of_isWord h.name)).append hopen).append hmark
  have hrequest := (hoptions.append hcolon).append (isLine_of_isWord h.request)
  have hflag := ((hrequest.append hand).append hkey).append hf
  exact StaysLine.append ((hflag.append hpromise).append ha) (by decide) (by decide)

theorem staysLine_headLine : StaysLine m.headLine := by
  have hentries : Text.IsLine (", ".intercalate m.patternEntries) := by
    apply Text.IsLine.intercalate (by decide)
    intro entry he
    rw [patternEntries] at he
    simp only [List.mem_append, List.mem_map, List.mem_cons, List.not_mem_nil, or_false] at he
    rcases he with (⟨a, ha, rfl⟩ | rfl | rfl) | hrest
    · exact isLine_entryText a.key (h.binding a ha)
    · decide
    · decide
    · split at hrest
      · obtain rfl := List.mem_singleton.mp hrest
        decide
      · exact absurd hrest List.not_mem_nil
  have hdefault : Text.IsLine (if m.optionsOptional then " = \x7b\x7d" else "") := by
    cases m.optionsOptional <;> decide
  have hpublic : Text.IsLine "public async " := by decide
  have hopen : Text.IsLine "(\x7b " := by decide
  have hclose : Text.IsLine " \x7d: " := by decide
  have hpromise : Text.IsLine "): Promise<" := by decide
  have hpattern := ((hpublic.append (isLine_of_isWord h.name)).append hopen).append hentries
  have hrequest := ((hpattern.append hclose).append (isLine_of_isWord h.request)).append hdefault
  have hanswer := (hrequest.append hpromise).append (isLine_either h)
  exact StaysLine.append hanswer (by decide) (by decide)

/-- An entry of the call is one line if the route is. -/
theorem staysLine_of_mem_callEntries (hroute : Text.IsLine m.route) {entry : String}
    (he : entry ∈ m.callEntries) : StaysLine entry := by
  rw [callEntries] at he
  simp only [List.mem_append, List.mem_cons, List.not_mem_nil, or_false] at he
  rcases he with ((rfl | rfl) | hdata) | hparams
  · cases m.verb <;> decide
  · have hfront : Text.IsLine "url: \x60" := by decide
    exact StaysLine.append (hfront.append hroute) (by decide) (by decide)
  · split at hdata
    · obtain rfl := List.mem_singleton.mp hdata
      decide
    · exact absurd hdata List.not_mem_nil
  · split at hparams
    · exact absurd hparams List.not_mem_nil
    · obtain rfl := List.mem_singleton.mp hparams
      have hfront : Text.IsLine "params: \x7b " := by decide
      have hsent : Text.IsLine (", ".intercalate (m.arguments.map Argument.sent)) := by
        apply Text.IsLine.intercalate (by decide)
        intro sent hs
        obtain ⟨a, ha, rfl⟩ := List.mem_map.mp hs
        exact isLine_entryText a.serviceName (h.binding a ha)
      exact StaysLine.append (hfront.append hsent) (by decide) (by decide)

theorem staysLine_of_mem_bodyLines (hroute : Text.IsLine m.route) {line : String}
    (hl : line ∈ m.bodyLines) : StaysLine line := by
  rw [bodyLines] at hl
  simp only [List.mem_append, List.mem_cons, List.not_mem_nil, or_false] at hl
  rcases hl with (rfl | hcall) | rfl | rfl | rfl | rfl
  · have hfront : Text.IsLine (indent 1 ++ "const " ++ resultsLocal ++ " = await this.api<") := by
      decide
    have hresponse := isLine_of_isWord h.response
    exact StaysLine.append (hfront.append hresponse) (by decide) (by decide)
  · obtain ⟨text, htext, hline⟩ := mem_withCommas hcall
    obtain ⟨entry, he, rfl⟩ := List.mem_map.mp htext
    have hentry := staysLine_of_mem_callEntries h hroute he
    have htext : StaysLine (indent 2 ++ entry) := by
      refine ⟨(isLine_indent 2).append hentry.1, ?_⟩
      rw [endsInReturn_append fun _ => by decide]
      exact hentry.2
    rcases hline with rfl | rfl
    · exact htext
    · exact StaysLine.append htext.1 (by decide) (by decide)
  all_goals decide

/-- Every line of a method is one line if the route is and no description doubles its return. -/
theorem staysLine_of_mem_lines (hroute : Text.IsLine m.route)
    (ha : ∀ a ∈ m.arguments, ¬ DoublesReturn a.description) {line : String}
    (hl : line ∈ m.lines) : StaysLine line := by
  rw [lines] at hl
  simp only [List.mem_append, List.mem_singleton] at hl
  rcases hl with ((hcomment | hsignature) | rfl) | hbody
  · exact staysLine_of_mem_commentLines h ha hcomment
  · rw [signatures] at hsignature
    simp only [List.mem_cons, List.not_mem_nil, or_false] at hsignature
    rcases hsignature with rfl | rfl | rfl
    · exact staysLine_signature h (by decide) (isLine_bare h)
    · exact staysLine_signature h (by decide) (isLine_enveloped h)
    · exact staysLine_signature h (by decide) (isLine_either h)
  · exact staysLine_headLine h
  · exact staysLine_of_mem_bodyLines h hroute hbody

end Readable

/-- A brace stands alone on the last line of a method. -/
theorem dropLast_lines_concat (m : Method) : m.lines.dropLast ++ ["\x7d"] = m.lines := by
  have hlast : m.lines.getLast? = some "\x7d" := by
    rw [lines, bodyLines, List.getLast?_append_of_ne_nil _ (by simp),
      List.getLast?_append_of_ne_nil _ (by simp)]
    rfl
  exact List.dropLast_append_getLast? _ hlast

theorem exists_urlEntry_mem_lines (m : Method) :
    ∃ comma, indent 2 ++ m.urlEntry ++ comma ∈ m.lines := by
  have hentry : indent 2 ++ m.urlEntry ∈ m.callEntries.map (indent 2 ++ ·) := by
    apply List.mem_map_of_mem
    simp [callEntries, urlEntry]
  obtain ⟨comma, hc⟩ := exists_mem_withCommas hentry
  refine ⟨comma, ?_⟩
  rw [lines, bodyLines]
  simp only [List.mem_append]
  exact .inr (.inl (.inr hc))

theorem argumentLine_mem_lines {m : Method} {a : Argument} (ha : a ∈ m.arguments) :
    argumentLine a ∈ m.lines := by
  have hline : argumentLine a ∈ m.arguments.map argumentLine := List.mem_map_of_mem ha
  rw [lines, commentLines]
  simp only [List.mem_append]
  exact .inl (.inl (.inl (.inl (.inr hline))))

/-! ### Indentation -/

/-- What a method keeps when its text is cut into lines and indented. -/
structure KeepsLines (m : Method) : Prop where
  /-- Cut at its line feeds, the text is the lines that were written. -/
  cut : cutLines m.text = m.lines
  /-- Indented, it is these lines with a tab before each that is not empty. -/
  block : cutLines (indented m.text) = m.lines.map tabbed
  /-- One of the lines has the route between the backquotes of the template literal. -/
  route : ∃ comma, indent 3 ++ m.urlEntry ++ comma ∈ cutLines (indented m.text)
  /-- Without the tabs, the indented text is the text. -/
  restored : outdented (indented m.text) = m.text

section KeepsLines

variable {m : Method}

theorem lines_ne_nil : m.lines ≠ [] := by
  rw [← dropLast_lines_concat]
  simp

theorem isLine_brace : Text.IsLine "\x7d" := by
  decide

theorem KeepsLines.isLine_of_mem_lines (h : m.KeepsLines) {line : String} (hl : line ∈ m.lines) :
    Text.IsLine line :=
  (cutLines_intercalate_iff lines_ne_nil).mp h.cut line hl

theorem KeepsLines.isLine_route (h : m.KeepsLines) : Text.IsLine m.route := by
  obtain ⟨comma, hurl⟩ := m.exists_urlEntry_mem_lines
  intro hfeed
  apply h.isLine_of_mem_lines hurl
  simp [urlEntry, hfeed]

/-- Every line but the last has its end back after the tabs are taken out. -/
theorem KeepsLines.not_endsInReturn (h : m.KeepsLines) {line : String} (hl : line ∈ m.lines) :
    ¬ EndsInReturn line := by
  have hfront : ∀ line ∈ m.lines.dropLast, Text.IsLine line :=
    fun line hm => h.isLine_of_mem_lines (List.mem_of_mem_dropLast hm)
  have hrestored := h.restored
  rw [text, ← dropLast_lines_concat,
    outdented_indented_iff hfront isLine_brace (by decide)] at hrestored
  rw [← dropLast_lines_concat, List.mem_append, List.mem_singleton] at hl
  rcases hl with hl | rfl
  · exact hrestored line hl
  · decide

theorem keepsLines_of_staysLine (h : ∀ line ∈ m.lines, StaysLine line) : m.KeepsLines := by
  have hfront : ∀ line ∈ m.lines.dropLast, StaysLine line :=
    fun line hl => h line (List.mem_of_mem_dropLast hl)
  have hlines : ∀ line ∈ m.lines.dropLast, Text.IsLine line := fun line hl => (hfront line hl).1
  have hreturns : ∀ line ∈ m.lines.dropLast, ¬ EndsInReturn line :=
    fun line hl => (hfront line hl).2
  have hblock : cutLines (indented m.text) = m.lines.map tabbed := by
    have hcut := cutLines_indented hlines isLine_brace (by decide) hreturns
    rwa [dropLast_lines_concat] at hcut
  refine ⟨?_, hblock, ?_, ?_⟩
  · exact (cutLines_intercalate_iff lines_ne_nil).mpr fun line hl => (h line hl).1
  · obtain ⟨comma, hurl⟩ := m.exists_urlEntry_mem_lines
    refine ⟨comma, ?_⟩
    have hindent : indent 3 = "\t" ++ indent 2 := by decide
    have htabbed : tabbed (indent 2 ++ m.urlEntry ++ comma) = indent 3 ++ m.urlEntry ++ comma := by
      rw [tabbed, if_neg (by simp [urlEntry]), hindent]
      simp only [String.append_assoc]
    rw [hblock, ← htabbed]
    exact List.mem_map_of_mem hurl
  · rw [text, ← dropLast_lines_concat,
      outdented_indented_iff hlines isLine_brace (by decide)]
    exact hreturns

/-- Text of a document breaks a line of a method only with a line feed in the route or with the
first line of a description. -/
theorem keepsLines_iff (h : m.IsReadable) :
    m.KeepsLines ↔ Text.IsLine m.route ∧ ∀ a ∈ m.arguments, ¬ DoublesReturn a.description := by
  constructor
  · intro hkeeps
    refine ⟨hkeeps.isLine_route, fun a ha hdouble => ?_⟩
    apply hkeeps.not_endsInReturn (argumentLine_mem_lines ha)
    exact (endsInReturn_argumentLine (h.binding a ha)).mpr hdouble
  · rintro ⟨hroute, hdouble⟩
    apply keepsLines_of_staysLine
    intro line hl
    exact staysLine_of_mem_lines h hroute hdouble hl

end KeepsLines

end Method

/-! ### Text of the document -/

theorem lineFeed_mem_escapeRun {run : List Char} : '\n' ∈ escapeRun run ↔ '\n' ∈ run := by
  fun_induction escapeRun run with
  | case1 => rfl
  | case2 rest ih => simp [ih]
  | case3 rest hpair ih => simp [ih]
  | case4 c rest hpair hc hq ih => simp [ih]
  | case5 c rest hpair hc hq ih => simp [ih]

/-- The parts of the route of a method, of which those that are text are taken from its path. -/
def Method.routeParts (m : Method) : List RoutePart :=
  (pieces m.path.toList).map (Piece.part m.binding?)

namespace Method

theorem isWord_of_value_mem_routeParts {m : Method} (h : m.IsReadable) {binding : String}
    (hb : .value binding ∈ m.routeParts) : IsWord binding := by
  obtain ⟨piece, -, hpart⟩ := List.mem_map.mp hb
  cases piece with
  | text run => cases hpart
  | placeholder name =>
    rw [Piece.part] at hpart
    split at hpart
    · next found hfound =>
      obtain rfl := RoutePart.value.inj hpart
      obtain ⟨a, hfind, rfl⟩ := Option.map_eq_some_iff.mp hfound
      exact isWord_of_isBinding (h.binding a (List.mem_of_find?_eq_some hfind))
    · cases hpart

/-- A line feed in a route is one in its text. -/
theorem isLine_route_iff {m : Method} (h : m.IsReadable) :
    Text.IsLine m.route ↔ ∀ run, .text run ∈ m.routeParts → '\n' ∉ run := by
  have hjoin : m.route.toList = m.routeParts.flatMap fun part => part.literalText.toList := by
    rw [route, routeText, String.toList_join, routeParts, List.flatMap_map, List.flatMap_map]
  rw [Text.IsLine, hjoin, List.mem_flatMap, not_exists]
  constructor
  · intro hline run hrun hfeed
    apply hline (.text run)
    refine ⟨hrun, ?_⟩
    rw [RoutePart.literalText, String.toList_ofList]
    exact lineFeed_mem_escapeRun.mpr hfeed
  · rintro hruns part ⟨hpart, hfeed⟩
    cases part with
    | text run =>
      rw [RoutePart.literalText, String.toList_ofList] at hfeed
      exact hruns run hpart (lineFeed_mem_escapeRun.mp hfeed)
    | value binding =>
      have hopen : Text.IsLine "$\x7b" := by decide
      have hword := isLine_of_isWord (isWord_of_value_mem_routeParts h hpart)
      exact (hopen.append hword).append (by decide) hfeed

end Method

theorem map_description_makeArguments [NameStyle] (kept : List (String × Parameter)) :
    (makeArguments kept).map Argument.description =
      kept.map fun k => (parameterNode k.2).description? :=
  map_makeArguments kept fun _ _ => rfl

/-- The text of a compiled method has the lines that were written, and keeps them and its route
when it is indented, exactly when no text of the route has a line feed in it and no description
of a parameter that is kept has two carriage returns before its first line feed. -/
theorem keepsLines_compile_iff [NameStyle] (r : Resolver) (endpoint : Endpoint) :
    (compile r endpoint).1.method.KeepsLines ↔
      (∀ run, .text run ∈ (compile r endpoint).1.method.routeParts → '\n' ∉ run) ∧
        ∀ k ∈ keptParameters r endpoint.operation,
          ¬ DoublesReturn (parameterNode k.2).description? := by
  have hread := isReadable_compile r endpoint
  have hdescriptions : (∀ a ∈ (compile r endpoint).1.method.arguments,
      ¬ DoublesReturn a.description) ↔ ∀ k ∈ keptParameters r endpoint.operation,
        ¬ DoublesReturn (parameterNode k.2).description? := by
    have hmap := map_description_makeArguments (keptParameters r endpoint.operation)
    rw [compile_arguments, ← List.forall_mem_map (P := fun d => ¬ DoublesReturn d), hmap,
      List.forall_mem_map]
  rw [Method.keepsLines_iff hread, Method.isLine_route_iff hread, hdescriptions]

/-- An operation on a path with one parameter. -/
def searchEndpoint (path about : String) : Endpoint :=
  ⟨path, .get, ⟨"search", none, none, [⟨"term", some about, false, .query, none, none, none⟩],
    none, []⟩⟩

/-- A line feed in a path breaks the line of the route, and a return too many ends up at the end of
the line about the parameter. -/
theorem searchEndpoint_not_keepsLines :
    letI := usualStyle
    ¬ (compile (.new [] .persistent) (searchEndpoint "/a\nb" "What to find")).1.method.KeepsLines ∧
      ¬ (compile (.new [] .persistent)
        (searchEndpoint "/a" "What\r\r\nto find")).1.method.KeepsLines := by
  let : NameStyle := usualStyle
  constructor
  · rw [Method.keepsLines_iff (isReadable_compile _ _)]
    rintro ⟨hroute, -⟩
    exact absurd hroute (by decide)
  · rw [Method.keepsLines_iff (isReadable_compile _ _)]
    rintro ⟨-, hdescriptions⟩
    have habout : some "What\r\r\nto find" ∈ (compile (.new [] .persistent)
        (searchEndpoint "/a" "What\r\r\nto find")).1.method.arguments.map
          Argument.description := by
      rw [compile_arguments, map_description_makeArguments]
      decide
    obtain ⟨a, ha, hdescription⟩ := List.mem_map.mp habout
    apply hdescriptions a ha
    rw [hdescription]
    exact ⟨"What".toList, "to find".toList, by decide, by decide⟩

end TypedClient.Client
