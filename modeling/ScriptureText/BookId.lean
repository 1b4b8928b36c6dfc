/-
ScriptureText.BookId — the closed set of canonical books. A book has an OSIS
identifier (`Gen`, `1Cor`), under which it appears in messages and snapshots,
and a spelled-out name (`Genesis`, `FirstCorinthians`), under which it appears
in serialized data. Books are ordered as in the canon.
-/

namespace ScriptureText

/-- A canonical book, in canonical order. -/
inductive BookId where
  | genesis | exodus | leviticus | numbers | deuteronomy | joshua | judges | ruth
  | firstSamuel | secondSamuel | firstKings | secondKings | firstChronicles
  | secondChronicles | ezra | nehemiah | esther | job | psalms | proverbs | ecclesiastes
  | songOfSongs | isaiah | jeremiah | lamentations | ezekiel | daniel | hosea | joel | amos
  | obadiah | jonah | micah | nahum | habakkuk | zephaniah | haggai | zechariah | malachi
  | matthew | mark | luke | john | acts | romans | firstCorinthians | secondCorinthians
  | galatians | ephesians | philippians | colossians | firstThessalonians
  | secondThessalonians | firstTimothy | secondTimothy | titus | philemon | hebrews | james
  | firstPeter | secondPeter | firstJohn | secondJohn | thirdJohn | jude | revelation
  deriving DecidableEq, Repr, Inhabited

namespace BookId

/-- The OSIS identifier of a book. -/
def osisId : BookId → String
  | .genesis => "Gen"
  | .exodus => "Exod"
  | .leviticus => "Lev"
  | .numbers => "Num"
  | .deuteronomy => "Deut"
  | .joshua => "Josh"
  | .judges => "Judg"
  | .ruth => "Ruth"
  | .firstSamuel => "1Sam"
  | .secondSamuel => "2Sam"
  | .firstKings => "1Kgs"
  | .secondKings => "2Kgs"
  | .firstChronicles => "1Chr"
  | .secondChronicles => "2Chr"
  | .ezra => "Ezra"
  | .nehemiah => "Neh"
  | .esther => "Esth"
  | .job => "Job"
  | .psalms => "Ps"
  | .proverbs => "Prov"
  | .ecclesiastes => "Eccl"
  | .songOfSongs => "Song"
  | .isaiah => "Isa"
  | .jeremiah => "Jer"
  | .lamentations => "Lam"
  | .ezekiel => "Ezek"
  | .daniel => "Dan"
  | .hosea => "Hos"
  | .joel => "Joel"
  | .amos => "Amos"
  | .obadiah => "Obad"
  | .jonah => "Jonah"
  | .micah => "Mic"
  | .nahum => "Nah"
  | .habakkuk => "Hab"
  | .zephaniah => "Zeph"
  | .haggai => "Hag"
  | .zechariah => "Zech"
  | .malachi => "Mal"
  | .matthew => "Matt"
  | .mark => "Mark"
  | .luke => "Luke"
  | .john => "John"
  | .acts => "Acts"
  | .romans => "Rom"
  | .firstCorinthians => "1Cor"
  | .secondCorinthians => "2Cor"
  | .galatians => "Gal"
  | .ephesians => "Eph"
  | .philippians => "Phil"
  | .colossians => "Col"
  | .firstThessalonians => "1Thess"
  | .secondThessalonians => "2Thess"
  | .firstTimothy => "1Tim"
  | .secondTimothy => "2Tim"
  | .titus => "Titus"
  | .philemon => "Phlm"
  | .hebrews => "Heb"
  | .james => "Jas"
  | .firstPeter => "1Pet"
  | .secondPeter => "2Pet"
  | .firstJohn => "1John"
  | .secondJohn => "2John"
  | .thirdJohn => "3John"
  | .jude => "Jude"
  | .revelation => "Rev"

/-- The name of a book in serialized data. -/
def name : BookId → String
  | .genesis => "Genesis"
  | .exodus => "Exodus"
  | .leviticus => "Leviticus"
  | .numbers => "Numbers"
  | .deuteronomy => "Deuteronomy"
  | .joshua => "Joshua"
  | .judges => "Judges"
  | .ruth => "Ruth"
  | .firstSamuel => "FirstSamuel"
  | .secondSamuel => "SecondSamuel"
  | .firstKings => "FirstKings"
  | .secondKings => "SecondKings"
  | .firstChronicles => "FirstChronicles"
  | .secondChronicles => "SecondChronicles"
  | .ezra => "Ezra"
  | .nehemiah => "Nehemiah"
  | .esther => "Esther"
  | .job => "Job"
  | .psalms => "Psalms"
  | .proverbs => "Proverbs"
  | .ecclesiastes => "Ecclesiastes"
  | .songOfSongs => "SongOfSongs"
  | .isaiah => "Isaiah"
  | .jeremiah => "Jeremiah"
  | .lamentations => "Lamentations"
  | .ezekiel => "Ezekiel"
  | .daniel => "Daniel"
  | .hosea => "Hosea"
  | .joel => "Joel"
  | .amos => "Amos"
  | .obadiah => "Obadiah"
  | .jonah => "Jonah"
  | .micah => "Micah"
  | .nahum => "Nahum"
  | .habakkuk => "Habakkuk"
  | .zephaniah => "Zephaniah"
  | .haggai => "Haggai"
  | .zechariah => "Zechariah"
  | .malachi => "Malachi"
  | .matthew => "Matthew"
  | .mark => "Mark"
  | .luke => "Luke"
  | .john => "John"
  | .acts => "Acts"
  | .romans => "Romans"
  | .firstCorinthians => "FirstCorinthians"
  | .secondCorinthians => "SecondCorinthians"
  | .galatians => "Galatians"
  | .ephesians => "Ephesians"
  | .philippians => "Philippians"
  | .colossians => "Colossians"
  | .firstThessalonians => "FirstThessalonians"
  | .secondThessalonians => "SecondThessalonians"
  | .firstTimothy => "FirstTimothy"
  | .secondTimothy => "SecondTimothy"
  | .titus => "Titus"
  | .philemon => "Philemon"
  | .hebrews => "Hebrews"
  | .james => "James"
  | .firstPeter => "FirstPeter"
  | .secondPeter => "SecondPeter"
  | .firstJohn => "FirstJohn"
  | .secondJohn => "SecondJohn"
  | .thirdJohn => "ThirdJohn"
  | .jude => "Jude"
  | .revelation => "Revelation"

/-- All books in canonical order. -/
def all : List BookId :=
  [.genesis, .exodus, .leviticus, .numbers, .deuteronomy, .joshua, .judges, .ruth,
   .firstSamuel, .secondSamuel, .firstKings, .secondKings, .firstChronicles,
   .secondChronicles, .ezra, .nehemiah, .esther, .job, .psalms, .proverbs, .ecclesiastes,
   .songOfSongs, .isaiah, .jeremiah, .lamentations, .ezekiel, .daniel, .hosea, .joel,
   .amos, .obadiah, .jonah, .micah, .nahum, .habakkuk, .zephaniah, .haggai, .zechariah,
   .malachi, .matthew, .mark, .luke, .john, .acts, .romans, .firstCorinthians,
   .secondCorinthians, .galatians, .ephesians, .philippians, .colossians,
   .firstThessalonians, .secondThessalonians, .firstTimothy, .secondTimothy, .titus,
   .philemon, .hebrews, .james, .firstPeter, .secondPeter, .firstJohn, .secondJohn,
   .thirdJohn, .jude, .revelation]

/-- The book with the given serialized name. -/
def ofName? (s : String) : Option BookId := all.find? (·.name == s)

/-- Position in the canon, from 0 for Genesis. -/
def position (b : BookId) : Nat := b.ctorIdx

/-- Canonical order. -/
instance : Ord BookId := ⟨fun a b => compare a.position b.position⟩

end BookId

end ScriptureText
