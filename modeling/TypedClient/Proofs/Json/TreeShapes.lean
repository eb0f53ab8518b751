import TypedClient.Json.Shape.Read
import TypedClient.Proofs.Json.ReadDistinct
import TypedClient.Proofs.Json.TreeValues

/-!
# Shapes read trees

`Shape.decode` is what a tree holds as a value of a shape, without a look at places and
faults. `Shape.readsTrees` says that `Shape.read` reads a tree and gives what it holds, so that
what is read of a text is known from the tree that it is written as.
-/

namespace TypedClient.Json

/-! ### What trees hold -/

/-- What members add up to, one after the other; none if one of them adds nothing. -/
def foldMembers {σ : Type} (visit : String → Tree → σ → Option σ) (state : σ) :
    List (Option String × Tree) → Option σ
  | [] => some state
  | (name, value) :: rest =>
    name.bind fun name => (visit name value state).bind fun next => foldMembers visit next rest

/-- A member as an entry of a map. -/
def putEntry {α : Type} (decode : Tree → Option α) (name : String) (value : Tree)
    (read : List (String × α)) : Option (List (String × α)) :=
  (decode value).map fun v => insert name v read

/-- The text of a string. -/
def textOf? : Tree → Option String
  | .scalar (.string text) => text
  | _ => none

/-- A truth value. -/
def flagOf? : Tree → Option Bool
  | .scalar (.bool flag) => some flag
  | _ => none

/-- A value, or nothing where `null` stands. -/
def optionalOf? {α : Type} (decode : Tree → Option α) : Tree → Option (Option α)
  | .scalar .null => some none
  | tree => (decode tree).map some

/-- The values of an array. -/
def listOf? {α : Type} (decode : Tree → Option α) : Tree → Option (List α)
  | .array items => items.mapM decode
  | _ => none

/-- The entries of an object. -/
def mapOf? {α : Type} (decode : Tree → Option α) : Tree → Option (List (String × α))
  | .object members => foldMembers (putEntry decode) [] members
  | _ => none

/-- The word that a tree stands for among some. -/
def wordOf? (words : List String) : Tree → Option (Fin words.length)
  | .scalar (.string (some word)) => words.findFinIdx? (· == word)
  | .object [(some word, .scalar .null)] => words.findFinIdx? (· == word)
  | _ => none

mutual
/-- What a tree holds as a value of a shape. -/
def Shape.decode : (shape : Shape) → Tree → Option shape.Carrier
  | .text => textOf?
  | .flag => flagOf?
  | .any => Tree.value?
  | .optional inner => optionalOf? inner.decode
  | .list item => listOf? item.decode
  | .map value => mapOf? value.decode
  | .choice words _ => wordOf? words
  | .record _ fields => fun tree =>
    match tree with
    | .object members =>
      (foldMembers fields.put fields.noSlots members).bind fun slots =>
        (fields.fill slots).toOption
    | .array items => fields.decodeItems items
    | .scalar _ => none
/-- A member put into its place, which has to be empty. A member of another name is passed over. -/
def Fields.put : (fields : Fields) → String → Tree → fields.Slots → Option fields.Slots
  | .done, _, _, slots => some slots
  | .field key _ shape rest, name, value, (slot, slots) =>
    if key = name then
      match slot with
      | some _ => none
      | none => (shape.decode value).map fun v => (some v, slots)
    else (rest.put name value slots).map fun filled => (slot, filled)
/-- What the items of an array hold in place of members. -/
def Fields.decodeItems : (fields : Fields) → List Tree → Option fields.Carrier
  | .done, [] => some ()
  | .done, _ :: _ => none
  | .field _ required shape rest, [] =>
    if required then none else (rest.decodeItems []).map fun values => (shape.missing, values)
  | .field _ _ shape rest, item :: items =>
    (shape.decode item).bind fun value => (rest.decodeItems items).map fun values => (value, values)
end

theorem Shape.decode_object (name : String) (fields : Fields)
    (members : List (Option String × Tree)) :
    (Shape.record name fields).decode (.object members) =
      (foldMembers fields.put fields.noSlots members).bind fun slots =>
        ((fields.fill slots).toOption : Option fields.Carrier) := rfl

/-! ### Readers -/

/-- Whether a reader reads trees, and gives what they hold. -/
def ReadsTrees {α : Type} (reader : Reader α) (decode : Tree → Option α) : Prop :=
  ∀ place ts taken, reader place ts = .ok taken →
    ∃ tree : Tree, symbols ts = tree.symbols ++ symbols taken.rest ∧
      decode tree = some taken.value

theorem readsTrees_readAny : ReadsTrees readAny Tree.value? :=
  fun _ _ _ h => exists_tree_of_readAny h

/-- A reader of one token reads a scalar. -/
theorem readsTrees_readToken {α : Type} {wanted : String} {accept : Lexeme → Option α}
    {decode : Tree → Option α}
    (h : ∀ lexeme value, accept lexeme = some value →
      ∃ scalar, lexeme.symbol = .scalar scalar ∧ decode (.scalar scalar) = some value) :
    ReadsTrees (readToken wanted accept) decode := by
  intro place ts taken hread
  match ts with
  | [] => simp [readToken] at hread
  | token :: rest =>
    unfold readToken at hread
    dsimp only at hread
    split at hread
    · next value haccept =>
      cases hread
      obtain ⟨scalar, hsymbol, hdecode⟩ := h _ _ haccept
      exact ⟨.scalar scalar, by rw [symbols_cons, hsymbol]; rfl, hdecode⟩
    · simp at hread

theorem exists_of_readColon {place : Place} {ts : List Token} {taken : Taken Unit ts}
    (h : readColon place ts = .ok taken) : symbols ts = .colon :: symbols taken.rest := by
  match ts with
  | [] => simp [readColon] at h
  | token :: rest =>
    unfold readColon at h
    dsimp only at h
    split at h
    · next hl =>
      cases h
      rw [symbols_cons, hl]
      rfl
    · simp at h

/-- Only the word `null` is written as it is. -/
theorem eq_null_of_symbol {lexeme : Lexeme} (h : lexeme.symbol = .scalar .null) :
    lexeme = .null := by
  cases lexeme <;> simp [Lexeme.symbol] at h ⊢

section Readers

variable {α : Type} {reader : Reader α} {decode : Tree → Option α}
  (hreader : ReadsTrees reader decode)
include hreader

/-- The colon and the value of a member. -/
theorem exists_of_readMember {name : String} {place : Place} {ts : List Token} {taken : Taken α ts}
    (h : readMember reader name place ts = .ok taken) :
    ∃ tree : Tree, symbols ts = .colon :: tree.symbols ++ symbols taken.rest ∧
      decode tree = some taken.value := by
  unfold readMember at h
  split at h
  · simp at h
  · next colon hcolon =>
    split at h
    · simp at h
    · next inner hvalue =>
      cases h
      obtain ⟨tree, htree, hdecode⟩ := hreader _ _ inner hvalue
      refine ⟨tree, ?_, hdecode⟩
      rw [exists_of_readColon hcolon, htree]
      rfl

/-- The items of an array up to the bracket that ends it. -/
theorem exists_of_readItems {place : Place} {index : Nat} {read : List α} {ts : List Token}
    {taken : Taken (List α) ts} (h : readItems reader place index read ts = .ok taken) :
    ∃ (trees : List Tree) (values : List α),
      symbols ts = itemSymbols (index == 0) trees ++ symbols taken.rest ∧
      trees.mapM decode = some values ∧ taken.value = read.reverse ++ values := by
  fun_induction readItems reader place index read ts with
  | case2 index read token rest hclose =>
    cases h
    refine ⟨[], [], ?_, rfl, by simp [Taken.one]⟩
    rw [symbols_cons, hclose]
    rfl
  | case7 read token n hcomma first more item items hopen hitem hitems ih =>
    simp only [hitem, hitems] at h
    cases h
    obtain ⟨tree, htree, hdecode⟩ := hreader _ _ item hitem
    obtain ⟨trees, values, htrees, hvalues, hall⟩ := ih hitems
    refine ⟨tree :: trees, item.value :: values, ?_, by simp [hdecode, hvalues], ?_⟩
    · rw [symbols_cons, hcomma, htree, htrees]
      simp [Lexeme.symbol, itemSymbols, Taken.afterOne, Taken.after]
    · simp [Taken.afterOne, Taken.after, hall]
  | case10 read token rest item hitem items hitems hopen ih =>
    cases h
    obtain ⟨tree, htree, hdecode⟩ := hreader _ _ item hitem
    obtain ⟨trees, values, htrees, hvalues, hall⟩ := ih hitems
    refine ⟨tree :: trees, item.value :: values, ?_, by simp [hdecode, hvalues], ?_⟩
    · rw [htree, htrees]
      simp [itemSymbols, Taken.after]
    · simp [Taken.after, hall]
  | _ => simp_all

theorem readsTrees_readList : ReadsTrees (readList reader) (listOf? decode) := by
  intro place ts taken h
  match ts with
  | [] => simp [readList] at h
  | token :: rest =>
    unfold readList at h
    dsimp only at h
    split at h
    · next hl =>
      split at h
      · simp at h
      · obtain ⟨items, hitems, rfl⟩ := map_eq_ok_iff.mp h
        obtain ⟨trees, values, htrees, hvalues, hall⟩ := exists_of_readItems hreader hitems
        refine ⟨.array trees, ?_, ?_⟩
        · rw [symbols_cons, hl, htrees]
          rfl
        · simpa [listOf?, Taken.afterOne, hall] using hvalues
    · simp at h

theorem readsTrees_readOptional : ReadsTrees (readOptional reader) (optionalOf? decode) := by
  intro place ts taken h
  match ts with
  | [] =>
    obtain ⟨inner, hinner, rfl⟩ := map_eq_ok_iff.mp h
    obtain ⟨tree, htree, -⟩ := hreader place [] inner hinner
    obtain ⟨start, more, hstart, -⟩ := tree.head_symbols
    simp [hstart] at htree
  | token :: rest =>
    unfold readOptional at h
    dsimp only at h
    split at h
    · next hl =>
      cases h
      refine ⟨.scalar .null, ?_, rfl⟩
      rw [symbols_cons, hl]
      rfl
    · next hl =>
      obtain ⟨inner, hinner, rfl⟩ := map_eq_ok_iff.mp h
      obtain ⟨tree, htree, hdecode⟩ := hreader place _ inner hinner
      refine ⟨tree, htree, ?_⟩
      have hne : tree ≠ .scalar .null := by
        rintro rfl
        exact hl (eq_null_of_symbol (List.cons.inj htree).1)
      rw [optionalOf?, hdecode]
      · rfl
      · exact hne

end Readers

theorem symbol_of_readName {place : Place} {token : Token} {name : String}
    (h : readName place token = .ok name) : token.lexeme.symbol = .scalar (.string (some name)) := by
  unfold readName at h
  dsimp only at h
  split at h
  · next hl =>
    cases h
    rw [hl]
    rfl
  all_goals simp at h

/-- Whether a reader of members reads trees, and gives what they add. -/
def VisitsTrees {σ : Type} (visit : MemberReader σ) (put : String → Tree → σ → Option σ) : Prop :=
  ∀ name state place ts taken, visit name state place ts = .ok taken →
    ∃ tree : Tree, symbols ts = .colon :: tree.symbols ++ symbols taken.rest ∧
      put name tree state = some taken.value

/-- The members of an object up to the brace that ends it, where each is read as a tree. -/
theorem exists_of_readMembers {σ : Type} {visit : MemberReader σ}
    {put : String → Tree → σ → Option σ} (hvisit : VisitsTrees visit put) {place : Place} {first : Bool} {state : σ} {ts : List Token} {taken : Taken (σ × Nat) ts}
    (h : readMembers visit place first state ts = .ok taken) :
    ∃ members : List (Option String × Tree),
      symbols ts = memberSymbols first members ++ symbols taken.rest ∧
      foldMembers put state members = some taken.value.1 := by
  fun_induction readMembers visit place first state ts with
  | case2 first state token rest hclose =>
    cases h
    refine ⟨[], ?_, rfl⟩
    rw [symbols_cons, hclose]
    rfl
  | case8 state token hcomma next more name hname member hmember members hmembers hopen ih =>
    cases h
    obtain ⟨tree, htree, hput⟩ := hvisit _ _ _ _ member hmember
    obtain ⟨others, hothers, hfold⟩ := ih hmembers
    refine ⟨(some name, tree) :: others, ?_, ?_⟩
    · rw [symbols_cons, hcomma, symbols_cons, symbol_of_readName hname, htree, hothers]
      simp [Lexeme.symbol, memberSymbols, Taken.afterOne, Taken.after]
    · rw [foldMembers, Option.bind_some, hput, Option.bind_some, hfold]
      rfl
  | case12 state token rest name hname member hmember members hmembers hopen ih =>
    cases h
    obtain ⟨tree, htree, hput⟩ := hvisit _ _ _ _ member hmember
    obtain ⟨others, hothers, hfold⟩ := ih hmembers
    refine ⟨(some name, tree) :: others, ?_, ?_⟩
    · rw [symbols_cons, symbol_of_readName hname, htree, hothers]
      simp [memberSymbols, Taken.afterOne, Taken.after]
    · rw [foldMembers, Option.bind_some, hput, Option.bind_some, hfold]
      rfl
  | _ => simp at h

theorem readsTrees_readMap {α : Type} {reader : Reader α} {decode : Tree → Option α}
    (hreader : ReadsTrees reader decode) : ReadsTrees (readMap reader) (mapOf? decode) := by
  have hvisit : VisitsTrees (fun name (read : List (String × α)) place ts =>
      (readMember reader name place ts).map (·.map fun v => insert name v read))
      (putEntry decode) := by
    intro name read place ts taken hvisit
    obtain ⟨member, hmember, rfl⟩ := map_eq_ok_iff.mp hvisit
    obtain ⟨tree, htree, hdecode⟩ := exists_of_readMember hreader hmember
    exact ⟨tree, htree, by rw [putEntry, hdecode]; rfl⟩
  intro place ts taken h
  match ts with
  | [] => simp [readMap] at h
  | token :: rest =>
    unfold readMap at h
    dsimp only at h
    split at h
    · next hl =>
      split at h
      · simp at h
      · obtain ⟨members, hmembers, rfl⟩ := map_eq_ok_iff.mp h
        obtain ⟨trees, htrees, hfold⟩ := exists_of_readMembers hvisit hmembers
        refine ⟨.object trees, ?_, hfold⟩
        rw [symbols_cons, hl, htrees]
        rfl
    · simp at h

theorem findFinIdx?_of_findWord {words : List String} {word : String} {place : Place}
    {token : Token} {index : Fin words.length} (h : findWord words word place token = .ok index) :
    words.findFinIdx? (· == word) = some index := by
  unfold findWord at h
  split at h
  · next hfind => rw [hfind, Except.ok.inj h]
  · simp at h

/-- The word `null`. -/
def nullOf? : Tree → Option Unit
  | .scalar .null => some ()
  | _ => none

theorem readsTrees_readNull :
    ReadsTrees (readToken "unit" fun | .null => some () | _ => none) nullOf? := by
  refine readsTrees_readToken fun lexeme value h => ?_
  cases lexeme with
  | null => exact ⟨.null, rfl, rfl⟩
  | _ => simp at h

theorem eq_null_of_nullOf? {tree : Tree} {value : Unit} (h : nullOf? tree = some value) :
    tree = .scalar .null := by
  unfold nullOf? at h
  split at h
  · rfl
  · simp at h

theorem readsTrees_readChoice (words : List String) :
    ReadsTrees (readChoice words) (wordOf? words) := by
  intro place ts taken h
  match ts with
  | [] => simp [readChoice] at h
  | token :: rest =>
    unfold readChoice at h
    dsimp only at h
    split at h
    · next word hl =>
      split at h
      · simp at h
      · next index hfind =>
        cases h
        refine ⟨.scalar (.string (some word)), ?_, findFinIdx?_of_findWord hfind⟩
        rw [symbols_cons, hl]
        rfl
    · simp at h
    · simp at h
    · next hl =>
      split at h
      · simp at h
      · split at h
        · simp at h
        · next name more =>
          split at h
          · next word hname =>
            split at h
            · simp at h
            · next index hfind =>
              split at h
              · simp at h
              · next member hmember =>
                split at h
                · simp at h
                · next last left hrest =>
                  split at h
                  · next hclose =>
                    cases h
                    obtain ⟨tree, htree, hunit⟩ := exists_of_readMember readsTrees_readNull hmember
                    obtain rfl := eq_null_of_nullOf? hunit
                    rw [hrest, symbols_cons, hclose] at htree
                    refine ⟨.object [(some word, .scalar .null)], ?_, findFinIdx?_of_findWord hfind⟩
                    rw [symbols_cons, hl, symbols_cons, hname, htree]
                    rfl
                  · simp at h
          all_goals simp at h
    · simp at h

/-! ### Shapes -/

theorem readsTrees_readText : ReadsTrees readText textOf? := by
  refine readsTrees_readToken fun lexeme value h => ?_
  cases lexeme with
  | string text =>
    cases text with
    | ok text => exact ⟨.string (some text), rfl, h⟩
    | error => simp at h
  | _ => simp at h

theorem readsTrees_readFlag : ReadsTrees readFlag flagOf? := by
  refine readsTrees_readToken fun lexeme value h => ?_
  cases lexeme with
  | bool flag => exact ⟨.bool flag, rfl, h⟩
  | _ => simp at h

theorem readsTrees_skip :
    ReadsTrees (fun place ts => (skip place.textEnd ts).mapError place.carried)
      fun _ => some () := by
  intro place ts taken h
  cases hskip : skip place.textEnd ts with
  | error e => simp [hskip, Except.mapError] at h
  | ok passed =>
    simp only [hskip, Except.mapError, Except.ok.injEq] at h
    subst h
    obtain ⟨tree, htree⟩ := exists_tree_of_skip hskip
    exact ⟨tree, htree, rfl⟩

/-- The bracket at the end of an array in place of an object. -/
theorem symbols_of_readArrayEnd {place : Place} {ts : List Token} {taken : Taken Unit ts}
    (h : readArrayEnd place ts = .ok taken) : symbols ts = .arrayClose :: symbols taken.rest := by
  match ts with
  | [] => simp [readArrayEnd] at h
  | token :: rest =>
    unfold readArrayEnd at h
    dsimp only at h
    split at h
    · next hl =>
      cases h
      rw [symbols_cons, hl]
      rfl
    · split at h
      · simp at h
      · split at h <;> simp at h
    · simp at h

/-- Where no item follows the array ends. -/
theorem symbols_of_nextItem_close {place : Place} {index stop : Nat} {ts : List Token}
    (h : nextItem place index ts = .ok (.close stop)) : ∃ rest, symbols ts = .arrayClose :: rest := by
  match ts with
  | [] => simp [nextItem] at h
  | token :: rest =>
    unfold nextItem at h
    dsimp only at h
    split at h
    · next hl => exact ⟨symbols rest, by rw [symbols_cons, hl]; rfl⟩
    · split at h
      · simp at h
      · split at h <;> simp at h
    · simp at h
    · simp at h

/-- An item stands behind a comma, unless it is the first. -/
theorem symbols_of_nextItem_item {place : Place} {index : Nat} {ts items : List Token}
    {short : items.length ≤ ts.length} (h : nextItem place index ts = .ok (.item items short)) :
    symbols ts = (if index == 0 then [] else [.comma]) ++ symbols items := by
  match ts with
  | [] => simp [nextItem] at h
  | token :: rest =>
    unfold nextItem at h
    dsimp only at h
    split at h
    · simp at h
    · next hl =>
      split at h
      · simp at h
      · split at h
        · simp at h
        · cases h
          rw [symbols_cons, hl]
          rfl
    · cases h
      rfl
    · simp at h

mutual
/-- A shape reads trees, and gives what they hold. -/
theorem Shape.readsTrees (shape : Shape) : ReadsTrees shape.read shape.decode := by
  cases shape with
  | text => exact readsTrees_readText
  | flag => exact readsTrees_readFlag
  | any => exact readsTrees_readAny
  | optional inner => exact readsTrees_readOptional inner.readsTrees
  | list item => exact readsTrees_readList item.readsTrees
  | map value => exact readsTrees_readMap value.readsTrees
  | choice words default => exact readsTrees_readChoice words
  | record name fields =>
    intro place ts taken h
    match ts with
    | [] => simp [Shape.read] at h
    | token :: rest =>
      unfold Shape.read at h
      dsimp only at h
      split at h
      · next hl =>
        split at h
        · simp at h
        · split at h
          · simp at h
          · next members hmembers =>
            split at h
            · simp at h
            · next values hvalues =>
              cases h
              obtain ⟨trees, htrees, hfold⟩ := exists_of_readMembers fields.visitsTrees hmembers
              refine ⟨.object trees, ?_, ?_⟩
              · rw [symbols_cons, hl, htrees]
                rfl
              · rw [Shape.decode_object, hfold, Option.bind_some, hvalues]
                rfl
      · next hl =>
        split at h
        · simp at h
        · split at h
          · simp at h
          · next items hitems =>
            split at h
            · simp at h
            · next close hclose =>
              cases h
              obtain ⟨trees, htrees, hdecode⟩ := fields.exists_of_readItems hitems hclose
              refine ⟨.array trees, ?_, hdecode⟩
              rw [symbols_cons, hl, htrees]
              rfl
      · simp at h
/-- A member is read into its place as a tree, or passed over as one. -/
theorem Fields.visitsTrees (fields : Fields) : VisitsTrees fields.readInto fields.put := by
  intro name slots place ts taken h
  match fields, slots with
  | .done, slots =>
    obtain ⟨member, hmember, rfl⟩ := map_eq_ok_iff.mp h
    obtain ⟨tree, htree, -⟩ := exists_of_readMember readsTrees_skip hmember
    exact ⟨tree, htree, rfl⟩
  | .field key required shape rest, (slot, slots) =>
    simp only [Fields.readInto] at h
    split at h
    · next hkey =>
      split at h
      · simp at h
      · obtain ⟨member, hmember, rfl⟩ := map_eq_ok_iff.mp h
        obtain ⟨tree, htree, hdecode⟩ := exists_of_readMember shape.readsTrees hmember
        refine ⟨tree, htree, ?_⟩
        simp only [Fields.put, if_pos hkey, hdecode]
        rfl
    · next hkey =>
      obtain ⟨others, hothers, rfl⟩ := map_eq_ok_iff.mp h
      obtain ⟨tree, htree, hput⟩ := rest.visitsTrees name slots place ts others hothers
      refine ⟨tree, htree, ?_⟩
      simp only [Fields.put, if_neg hkey, hput]
      rfl
/-- The items of an array in place of members, and the bracket that ends it. -/
theorem Fields.exists_of_readItems (fields : Fields) {wanted : String} {index : Nat}
    {place : Place} {ts : List Token} {left : Left fields.Carrier ts} {close : Taken Unit left.rest}
    (h : fields.readItems wanted index place ts = .ok left)
    (hclose : readArrayEnd place left.rest = .ok close) :
    ∃ trees : List Tree, symbols ts = itemSymbols (index == 0) trees ++ symbols close.rest ∧
      fields.decodeItems trees = some left.value := by
  match fields with
  | .done =>
    cases h
    exact ⟨[], symbols_of_readArrayEnd hclose, rfl⟩
  | .field name required shape rest =>
    unfold Fields.readItems at h
    split at h
    · simp at h
    · next stop hnext =>
      split at h
      · simp at h
      · next hrequired =>
        split at h
        · simp at h
        · next others hothers =>
          cases h
          obtain ⟨trees, htrees, hdecode⟩ := rest.exists_of_readItems hothers hclose
          obtain ⟨after, hafter⟩ := symbols_of_nextItem_close hnext
          cases trees with
          | cons tree trees => simp [hafter, itemSymbols] at htrees
          | nil =>
            refine ⟨[], htrees, ?_⟩
            rw [Fields.decodeItems, if_neg hrequired, hdecode]
            rfl
    · next items short hnext =>
      split at h
      · simp at h
      · next item hitem =>
        split at h
        · simp at h
        · next others hothers =>
          cases h
          obtain ⟨tree, htree, hvalue⟩ := shape.readsTrees _ _ item hitem
          obtain ⟨trees, htrees, hdecode⟩ := rest.exists_of_readItems hothers hclose
          refine ⟨tree :: trees, ?_, ?_⟩
          · rw [symbols_of_nextItem_item hnext, htree, htrees]
            simp [itemSymbols]
          · rw [Fields.decodeItems, hvalue, Option.bind_some, hdecode]
            rfl
end

/-- A text from which a value is read is written as a tree that holds the value. -/
theorem Shape.exists_tree_of_readText {shape : Shape} {bytes : List UInt8} {value : shape.Carrier}
    (h : shape.readText bytes = .ok value) :
    ∃ tree, WrittenAs bytes tree ∧ shape.decode tree = some value := by
  obtain ⟨taken, htaken, rfl⟩ := map_eq_ok_iff.mp h
  obtain ⟨tree, htree, hdecode⟩ := shape.readsTrees _ _ _ htaken
  exact ⟨tree, ⟨_, htree⟩, hdecode⟩

/-- What is read of a text is what the tree holds that it is written as. -/
theorem WrittenAs.decode_eq {bytes : List UInt8} {tree : Tree} (hw : WrittenAs bytes tree)
    {shape : Shape} {value : shape.Carrier} (h : shape.readText bytes = .ok value) :
    shape.decode tree = some value := by
  obtain ⟨read, hread, hdecode⟩ := Shape.exists_tree_of_readText h
  rwa [hw.unique hread]

end TypedClient.Json
