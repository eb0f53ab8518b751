import TypedClient.Text.Emoji
import TypedClient.Text.Marks

/-!
# Clusters

What a reader takes for one sign may be several characters: a letter with its marks, a
syllable, a conjunct of consonants, a picture made of pictures, a flag. `clusters`
cuts a text into such signs. Where it cuts depends on the two characters around the
place and on what the characters before form together, which `Context` keeps.
Nothing is lost by cutting: `flatten_clusters`.
-/

namespace TypedClient.Text

/-! ### Classes -/

/-- The ranges of control and format characters and of separators of lines, which stand alone. -/
def controlRanges : Ranges := [
  (0x0, 0x9), (0xB, 0xC), (0xE, 0x1F), (0x7F, 0x9F), (0xAD, 0xAD), (0x61C, 0x61C), (0x180E, 0x180E),
  (0x200B, 0x200B), (0x200E, 0x200F), (0x2028, 0x202E), (0x2060, 0x206F), (0xFEFF, 0xFEFF),
  (0xFFF0, 0xFFFB), (0x13430, 0x1343F), (0x1BCA0, 0x1BCA3), (0x1D173, 0x1D17A), (0xE0000, 0xE001F),
  (0xE0080, 0xE00FF), (0xE01F0, 0xE0FFF)]

/-- The ranges of marks that take room of their own beside the character they attach to. -/
def spacingRanges : Ranges := [
  (0x903, 0x903), (0x93B, 0x93B), (0x93E, 0x940), (0x949, 0x94C), (0x94E, 0x94F), (0x982, 0x983),
  (0x9BF, 0x9C0), (0x9C7, 0x9C8), (0x9CB, 0x9CC), (0xA03, 0xA03), (0xA3E, 0xA40), (0xA83, 0xA83),
  (0xABE, 0xAC0), (0xAC9, 0xAC9), (0xACB, 0xACC), (0xB02, 0xB03), (0xB40, 0xB40), (0xB47, 0xB48),
  (0xB4B, 0xB4C), (0xBBF, 0xBBF), (0xBC1, 0xBC2), (0xBC6, 0xBC8), (0xBCA, 0xBCC), (0xC01, 0xC03),
  (0xC41, 0xC44), (0xC82, 0xC83), (0xCBE, 0xCBE), (0xCC1, 0xCC1), (0xCC3, 0xCC4), (0xCF3, 0xCF3),
  (0xD02, 0xD03), (0xD3F, 0xD40), (0xD46, 0xD48), (0xD4A, 0xD4C), (0xD82, 0xD83), (0xDD0, 0xDD1),
  (0xDD8, 0xDDE), (0xDF2, 0xDF3), (0xE33, 0xE33), (0xEB3, 0xEB3), (0xF3E, 0xF3F), (0xF7F, 0xF7F),
  (0x1031, 0x1031), (0x103B, 0x103C), (0x1056, 0x1057), (0x1084, 0x1084), (0x17B6, 0x17B6),
  (0x17BE, 0x17C5), (0x17C7, 0x17C8), (0x1923, 0x1926), (0x1929, 0x192B), (0x1930, 0x1931),
  (0x1933, 0x1938), (0x1A19, 0x1A1A), (0x1A55, 0x1A55), (0x1A57, 0x1A57), (0x1A6D, 0x1A72),
  (0x1B04, 0x1B04), (0x1B3E, 0x1B41), (0x1B82, 0x1B82), (0x1BA1, 0x1BA1), (0x1BA6, 0x1BA7),
  (0x1BE7, 0x1BE7), (0x1BEA, 0x1BEC), (0x1BEE, 0x1BEE), (0x1C24, 0x1C2B), (0x1C34, 0x1C35),
  (0x1CE1, 0x1CE1), (0x1CF7, 0x1CF7), (0xA823, 0xA824), (0xA827, 0xA827), (0xA880, 0xA881),
  (0xA8B4, 0xA8C3), (0xA952, 0xA952), (0xA983, 0xA983), (0xA9B4, 0xA9B5), (0xA9BA, 0xA9BB),
  (0xA9BE, 0xA9BF), (0xAA2F, 0xAA30), (0xAA33, 0xAA34), (0xAA4D, 0xAA4D), (0xAAEB, 0xAAEB),
  (0xAAEE, 0xAAEF), (0xAAF5, 0xAAF5), (0xABE3, 0xABE4), (0xABE6, 0xABE7), (0xABE9, 0xABEA),
  (0xABEC, 0xABEC), (0x11000, 0x11000), (0x11002, 0x11002), (0x11082, 0x11082), (0x110B0, 0x110B2),
  (0x110B7, 0x110B8), (0x1112C, 0x1112C), (0x11145, 0x11146), (0x11182, 0x11182),
  (0x111B3, 0x111B5), (0x111BF, 0x111BF), (0x111CE, 0x111CE), (0x1122C, 0x1122E),
  (0x11232, 0x11233), (0x112E0, 0x112E2), (0x11302, 0x11303), (0x1133F, 0x1133F),
  (0x11341, 0x11344), (0x11347, 0x11348), (0x1134B, 0x1134C), (0x11362, 0x11363),
  (0x113B9, 0x113BA), (0x113CA, 0x113CA), (0x113CC, 0x113CD), (0x11435, 0x11437),
  (0x11440, 0x11441), (0x11445, 0x11445), (0x114B1, 0x114B2), (0x114B9, 0x114B9),
  (0x114BB, 0x114BC), (0x114BE, 0x114BE), (0x114C1, 0x114C1), (0x115B0, 0x115B1),
  (0x115B8, 0x115BB), (0x115BE, 0x115BE), (0x11630, 0x11632), (0x1163B, 0x1163C),
  (0x1163E, 0x1163E), (0x116AC, 0x116AC), (0x116AE, 0x116AF), (0x1171E, 0x1171E),
  (0x11726, 0x11726), (0x1182C, 0x1182E), (0x11838, 0x11838), (0x11931, 0x11935),
  (0x11937, 0x11938), (0x11940, 0x11940), (0x11942, 0x11942), (0x119D1, 0x119D3),
  (0x119DC, 0x119DF), (0x119E4, 0x119E4), (0x11A39, 0x11A39), (0x11A57, 0x11A58),
  (0x11A97, 0x11A97), (0x11B61, 0x11B61), (0x11B65, 0x11B65), (0x11B67, 0x11B67),
  (0x11C2F, 0x11C2F), (0x11C3E, 0x11C3E), (0x11CA9, 0x11CA9), (0x11CB1, 0x11CB1),
  (0x11CB4, 0x11CB4), (0x11D8A, 0x11D8E), (0x11D93, 0x11D94), (0x11D96, 0x11D96),
  (0x11EF5, 0x11EF6), (0x11F03, 0x11F03), (0x11F34, 0x11F35), (0x11F3E, 0x11F3F),
  (0x1612A, 0x1612C), (0x16F51, 0x16F87)]

/-- The ranges of signs that belong to the character after them. -/
def prependedRanges : Ranges := [
  (0x600, 0x605), (0x6DD, 0x6DD), (0x70F, 0x70F), (0x890, 0x891), (0x8E2, 0x8E2), (0xD4E, 0xD4E),
  (0x110BD, 0x110BD), (0x110CD, 0x110CD), (0x111C2, 0x111C3), (0x113D1, 0x113D1),
  (0x1193F, 0x1193F), (0x11941, 0x11941), (0x11A84, 0x11A89), (0x11D46, 0x11D46),
  (0x11F02, 0x11F02)]

/-- The ranges of consonants that form a conjunct with the next one across a linker. -/
def consonantRanges : Ranges := [
  (0x915, 0x939), (0x958, 0x95F), (0x978, 0x97F), (0x995, 0x9A8), (0x9AA, 0x9B0), (0x9B2, 0x9B2),
  (0x9B6, 0x9B9), (0x9DC, 0x9DD), (0x9DF, 0x9DF), (0x9F0, 0x9F1), (0xA95, 0xAA8), (0xAAA, 0xAB0),
  (0xAB2, 0xAB3), (0xAB5, 0xAB9), (0xAF9, 0xAF9), (0xB15, 0xB28), (0xB2A, 0xB30), (0xB32, 0xB33),
  (0xB35, 0xB39), (0xB5C, 0xB5D), (0xB5F, 0xB5F), (0xB71, 0xB71), (0xC15, 0xC28), (0xC2A, 0xC39),
  (0xC58, 0xC5A), (0xD15, 0xD3A), (0x1000, 0x102A), (0x103F, 0x103F), (0x1050, 0x1055),
  (0x105A, 0x105D), (0x1061, 0x1061), (0x1065, 0x1066), (0x106E, 0x1070), (0x1075, 0x1081),
  (0x108E, 0x108E), (0x1780, 0x17B3), (0x1A20, 0x1A54), (0x1B0B, 0x1B0C), (0x1B13, 0x1B33),
  (0x1B45, 0x1B4C), (0x1B83, 0x1BA0), (0x1BAE, 0x1BAF), (0x1BBB, 0x1BBD), (0xA989, 0xA98B),
  (0xA98F, 0xA9B2), (0xA9E0, 0xA9E4), (0xA9E7, 0xA9EF), (0xA9FA, 0xA9FE), (0xAA60, 0xAA6F),
  (0xAA71, 0xAA73), (0xAA7A, 0xAA7A), (0xAA7E, 0xAA7F), (0xAAE0, 0xAAEA), (0xABC0, 0xABDA),
  (0x10A00, 0x10A00), (0x10A10, 0x10A13), (0x10A15, 0x10A17), (0x10A19, 0x10A35),
  (0x11103, 0x11126), (0x11144, 0x11144), (0x11147, 0x11147), (0x11380, 0x11389),
  (0x1138B, 0x1138B), (0x1138E, 0x1138E), (0x11390, 0x113B5), (0x11900, 0x11906),
  (0x11909, 0x11909), (0x1190C, 0x11913), (0x11915, 0x11916), (0x11918, 0x1192F),
  (0x11A00, 0x11A00), (0x11A0B, 0x11A32), (0x11A50, 0x11A50), (0x11A5C, 0x11A83),
  (0x11F04, 0x11F10), (0x11F12, 0x11F33)]

/-- The ranges of marks that link consonants. -/
def linkerRanges : Ranges := [
  (0x94D, 0x94D), (0x9CD, 0x9CD), (0xACD, 0xACD), (0xB4D, 0xB4D), (0xC4D, 0xC4D), (0xD4D, 0xD4D),
  (0x1039, 0x1039), (0x17D2, 0x17D2), (0x1A60, 0x1A60), (0x1B44, 0x1B44), (0x1BAB, 0x1BAB),
  (0xA9C0, 0xA9C0), (0xAAF6, 0xAAF6), (0x10A3F, 0x10A3F), (0x11133, 0x11133), (0x113D0, 0x113D0),
  (0x1193E, 0x1193E), (0x11A47, 0x11A47), (0x11A99, 0x11A99), (0x11F42, 0x11F42)]

/-- What a character is to those around it. -/
inductive ClusterClass where
  /-- A carriage return, which only a line feed stays with. -/
  | carriageReturn
  /-- A line feed. -/
  | lineFeed
  /-- Another character that stands alone. -/
  | control
  /-- A mark on the character before. -/
  | mark
  /-- A joiner of pictures. -/
  | joiner
  /-- A half of a flag. -/
  | regional
  /-- A sign that belongs to the character after it. -/
  | prepended
  /-- A mark with room of its own. -/
  | spacing
  /-- The first part of a syllable. -/
  | leading
  /-- The vowel of a syllable. -/
  | vowel
  /-- The last part of a syllable. -/
  | trailing
  /-- A syllable, which may have its last part already. -/
  | syllable (closed : Bool)
  /-- A consonant that forms conjuncts. -/
  | consonant
  /-- A picture. -/
  | pictograph
  /-- Any other character. -/
  | other
  deriving DecidableEq, Repr

/-- The first and the last whole syllable of Hangul. -/
def syllableRange : Nat × Nat := (0xAC00, 0xD7A3)

/-- The number of Hangul syllables that differ in their last part alone, the first of which has
none. -/
def lastParts : Nat := 28

/-- The class of a character beyond ASCII. -/
def wideClass (c : Char) : ClusterClass :=
  if inRanges extendingRanges c || isModifier c then .mark
  else if isJoiner c then .joiner
  else if inRanges controlRanges c then .control
  else if isRegional c then .regional
  else if inRanges prependedRanges c then .prepended
  else if inRanges spacingRanges c then .spacing
  else if inRanges [(0x1100, 0x115F), (0xA960, 0xA97C)] c then .leading
  else if inRanges
      [(0x1160, 0x11A7), (0xD7B0, 0xD7C6), (0x16D63, 0x16D63), (0x16D67, 0x16D6A)] c then .vowel
  else if inRanges [(0x11A8, 0x11FF), (0xD7CB, 0xD7FB)] c then .trailing
  else if inRanges [syllableRange] c then
    .syllable ((c.toNat - syllableRange.1) % lastParts != 0)
  else if inRanges consonantRanges c then .consonant
  else if inRanges pictographRanges c then .pictograph
  else .other

/-- The class of a character. -/
def clusterClass (c : Char) : ClusterClass :=
  if c = '\r' then .carriageReturn
  else if c = '\n' then .lineFeed
  else if c.toNat < 0x7F then (if c.toNat < 0x20 then .control else .other)
  else wideClass c

/-! ### Context -/

/-- A picture before a place. -/
inductive PictureContext where
  /-- There is none. -/
  | none
  /-- A picture and its marks. -/
  | picture
  /-- A picture, its marks and a joiner. -/
  | joined
  deriving DecidableEq, Repr

/-- A consonant before a place. -/
inductive ConjunctContext where
  /-- There is none. -/
  | none
  /-- A consonant and its marks. -/
  | consonant
  /-- A consonant and its marks, one of which is a linker. -/
  | linked
  deriving DecidableEq, Repr

/-- What is known of the characters before a place. -/
structure ClusterContext where
  /-- The class of the one before. -/
  last : ClusterClass
  /-- Whether the number of halves of flags directly before is odd. -/
  halfFlag : Bool
  /-- The picture before. -/
  picture : PictureContext
  /-- The consonant before. -/
  conjunct : ConjunctContext
  deriving DecidableEq, Repr

namespace ClusterContext

/-- The picture before the place after a character. -/
def nextPicture (before : PictureContext) : ClusterClass → PictureContext
  | .pictograph => .picture
  | .mark => if before = .picture then .picture else .none
  | .joiner => if before = .picture then .joined else .none
  | _ => .none

/-- The consonant before the place after a character. -/
def nextConjunct (before : ConjunctContext) (c : Char) : ClusterClass → ConjunctContext
  | .consonant => .consonant
  | .mark =>
    if isNonjoiner c || before = .none then .none
    else if inRanges linkerRanges c then .linked
    else before
  | .joiner => before
  | _ => .none

/-- What is known after a character of a class. -/
def next (x : ClusterContext) (c : Char) (d : ClusterClass) : ClusterContext where
  last := d
  halfFlag := d = .regional && !x.halfFlag
  picture := nextPicture x.picture d
  conjunct := nextConjunct x.conjunct c d

/-- What is known after the first character of a text. -/
def start (c : Char) : ClusterContext :=
  next ⟨.control, false, .none, .none⟩ c (clusterClass c)

/-- Whether a character of a class belongs to the sign before it. -/
def joins (x : ClusterContext) (d : ClusterClass) : Bool :=
  match x.last, d with
  | .carriageReturn, .lineFeed => true
  | .carriageReturn, _ | .lineFeed, _ | .control, _ => false
  | _, .carriageReturn | _, .lineFeed | _, .control => false
  | _, .mark | _, .joiner | _, .spacing => true
  | .prepended, _ => true
  | .leading, .leading | .leading, .vowel | .leading, .syllable _ => true
  | .vowel, .vowel | .vowel, .trailing => true
  | .syllable false, .vowel | .syllable _, .trailing => true
  | .trailing, .trailing => true
  | _, .consonant => x.conjunct = .linked
  | _, .pictograph => x.picture = .joined
  | _, .regional => x.halfFlag
  | _, _ => false

end ClusterContext

/-! ### Cutting -/

/-- The signs from here on. `sign` is the one that has begun, its last character first. -/
def clustersFrom (x : ClusterContext) (sign : List Char) : List Char → List (List Char)
  | [] => [sign.reverse]
  | c :: rest =>
    let d := clusterClass c
    if x.joins d then clustersFrom (x.next c d) (c :: sign) rest
    else sign.reverse :: clustersFrom (x.next c d) [c] rest

/-- The signs of a text. -/
def clusters : List Char → List (List Char)
  | [] => []
  | c :: rest => clustersFrom (.start c) [c] rest

/-- The signs from here on are what has begun and what follows. -/
theorem flatten_clustersFrom (x : ClusterContext) (sign text : List Char) :
    (clustersFrom x sign text).flatten = sign.reverse ++ text := by
  induction text generalizing x sign with
  | nil => simp [clustersFrom]
  | cons c rest ih =>
    simp only [clustersFrom]
    split <;> simp [ih]

/-- The signs of a text make up the text. -/
theorem flatten_clusters (text : List Char) : (clusters text).flatten = text := by
  cases text with
  | nil => rfl
  | cons c rest => simp [clusters, flatten_clustersFrom]

end TypedClient.Text
