import EntSchema.Naming.Pattern

/-!
# Inflection by rules

The plural and the singular of an English word by its ending. Some words have no plural, some pairs
are listed; every other word goes through a list of rules, of which a later one comes first. A rule
matches the end of a word and gives the part it keeps with a new ending. What stands in front of
the match is not part of the answer, which matters only for words with characters that are no word
characters.
-/

namespace EntSchema.Naming

/-- Words with one form only. -/
def massNouns : List String :=
  ["accommodation", "adulthood", "advertising", "advice", "aggression", "aid", "air", "aircraft",
    "alcohol", "anger", "applause", "arithmetic", "assistance", "athletics", "bacon", "baggage",
    "beef", "biology", "blood", "botany", "bread", "butter", "carbon", "cardboard", "cash",
    "chalk", "chaos", "chess", "crossroads", "countryside", "dancing", "deer", "dignity", "dirt",
    "dust", "economics", "education", "electricity", "engineering", "enjoyment", "envy",
    "equipment", "ethics", "evidence", "evolution", "fame", "fiction", "flour", "flu", "food",
    "fuel", "fun", "furniture", "gallows", "garbage", "garlic", "genetics", "gold", "golf",
    "gossip", "grammar", "gratitude", "grief", "guilt", "gymnastics", "happiness", "hardware",
    "harm", "hate", "hatred", "health", "heat", "help", "homework", "honesty", "honey",
    "hospitality", "housework", "humour", "hunger", "hydrogen", "ice", "importance", "inflation",
    "information", "innocence", "iron", "irony", "jam", "jewelry", "judo", "karate", "knowledge",
    "lack", "laughter", "lava", "leather", "leisure", "lightning", "linguine", "linguini",
    "linguistics", "literature", "litter", "livestock", "logic", "loneliness", "luck", "luggage",
    "macaroni", "machinery", "magic", "management", "mankind", "marble", "mathematics",
    "mayonnaise", "measles", "methane", "milk", "money", "mud", "music", "mumps", "nature",
    "news", "nitrogen", "nonsense", "nurture", "nutrition", "obedience", "obesity", "oxygen",
    "pasta", "patience", "physics", "poetry", "pollution", "poverty", "pride", "psychology",
    "publicity", "punctuation", "quartz", "racism", "relaxation", "reliability", "research",
    "respect", "revenge", "rice", "rubbish", "rum", "safety", "scenery", "seafood", "seaside",
    "series", "shame", "sheep", "shopping", "sleep", "smoke", "smoking", "snow", "soap",
    "software", "soil", "spaghetti", "species", "steam", "stuff", "stupidity", "sunshine",
    "symmetry", "tennis", "thirst", "thunder", "timber", "traffic", "transportation", "trust",
    "underwear", "unemployment", "unity", "validity", "veal", "vegetation", "vegetarianism",
    "vengeance", "violence", "vitality", "warmth", "wealth", "weather", "welfare", "wheat",
    "wildlife", "wisdom", "yoga", "zinc", "zoology"]

/-- Pairs of a singular and a plural that follow no rule. -/
def listedPairs : List (String × String) :=
  [("ox", "oxen"), ("man", "men"), ("woman", "women"), ("die", "dice"), ("yes", "yeses"),
    ("foot", "feet"), ("eave", "eaves"), ("goose", "geese"), ("tooth", "teeth"),
    ("quiz", "quizzes")]

/-- A plural that has two singulars; the second one counts only on the way back. -/
def listedSingulars : List (String × String) :=
  listedPairs.map (fun (singular, plural) => (plural, singular)) ++ [("boxes", "box")]

/-- A rule: a pattern for a word, and what takes its place. The first group of the pattern is kept
in front of the replacement. -/
structure InflectionRule where
  pattern : Pattern
  replacement : String

/-- The rule that keeps a word up to the end of `stem`, which any word characters may precede, and
replaces the `suffix` after it. -/
def InflectionRule.ofEnding (stem suffix : Pattern) (replacement : String) : InflectionRule where
  pattern := .group 1 (.anyWord ++ stem) ++ suffix ++ .wordEnd
  replacement := replacement

/-- The rule for whole words that keeps what `stem` matches. -/
def InflectionRule.ofStem (stem suffix : Pattern) (replacement : String) : InflectionRule where
  pattern := .group 1 stem ++ suffix ++ .wordEnd
  replacement := replacement

open Pattern InflectionRule

/-- A pattern that takes nothing. -/
def nothing : Pattern := .literal []

/-! ## Plurals -/

/-- The rules for plurals, the general ones in front. -/
def pluralRules : List InflectionRule :=
  [ ofEnding nothing (text "s") "s",
    ofEnding (except "aeiou" ++ text "ese") nothing "",
    ofEnding (oneOf ["ax", "test"]) (text "is") "es",
    ofEnding (choice [text "alias", except "aou" ++ text "us", text "tlas", text "gas", text "ris"])
      nothing "es",
    ofEnding (text "e" ++ among "mn" ++ text "u") (optional (text "s")) "s",
    ofEnding (choice [except "l" ++ text "ias", among "aeiou" ++ text "las",
      among "emjzr" ++ text "as", among "iu" ++ text "am"]) nothing "",
    ofEnding (oneOf ["alumn", "syllab", "octop", "vir", "radi", "nucle", "fung", "cact", "stimul",
      "termin", "bacill", "foc", "uter", "loc", "strat"]) (oneOf ["us", "i"]) "i",
    ofEnding (oneOf ["alumn", "alg", "vertebr"]) (oneOf ["a", "ae"]) "ae",
    ofEnding (oneOf ["seraph", "cherub"]) (optional (text "im")) "im",
    ofEnding (oneOf ["her", "at", "gr"]) (text "o") "oes",
    ofEnding (oneOf ["agend", "addend", "millenni", "dat", "extrem", "bacteri", "desiderat",
      "strat", "candelabr", "errat", "ov", "symposi", "curricul", "automat", "quor"])
      (oneOf ["a", "um"]) "a",
    ofEnding (oneOf ["apheli", "hyperbat", "periheli", "asyndet", "noumen", "phenomen", "criteri",
      "organ", "prolegomen", "hedr", "automat"]) (oneOf ["a", "on"]) "a",
    ofEnding nothing (text "sis") "ses",
    ofEnding (oneOf ["kni", "wi", "li"]) (text "fe") "ves",
    ofEnding (oneOf ["ar", "l", "ea", "eo", "oa", "hoo"]) (text "f") "ves",
    ofEnding (choice [except "aeiouy", text "qu"]) (text "y") "ies",
    ofEnding (except "ch" ++ among "ieo" ++ among "ln") (text "ey") "ies",
    ofEnding (oneOf ["x", "ch", "ss", "sh", "zz"] ++ text "es") nothing "",
    ofEnding (oneOf ["x", "ch", "ss", "sh", "zz"]) nothing "es",
    ofEnding (oneOf ["matr", "cod", "mur", "sil", "vert", "ind", "append"]) (oneOf ["ix", "ex"])
      "ices",
    ofEnding (oneOf ["m", "l"] ++ oneOf ["ice", "ouse"]) nothing "ice",
    ofEnding (text "pe" ++ oneOf ["rson", "ople"]) nothing "ople",
    ofEnding (text "child") (optional (text "ren")) "ren",
    ofEnding (text "eaux") nothing "" ]

/-! ## Singulars -/

/-- The words in `-sis` that have one of these beginnings. -/
def sisStems : List String :=
  ["analy", "ba", "diagno", "parenthe", "progno", "synop", "the"]

/-- The rules for singulars, the general ones in front. -/
def singularRules : List InflectionRule :=
  [ ofStem anyWord (text "s") "",
    ofStem anyWord (.group 2 (text "ss")) "$2",
    ofStem (text "n") (text "ews") "ews",
    ofStem anyWord (.group 2 (text "o") ++ text "es") "",
    ofStem anyWord (.group 2 (among "ti") ++ text "a") "um",
    ofStem (oneOf sisStems) (oneOf ["sis", "ses"]) "sis",
    ofStem (.wordStart ++ text "analy") (oneOf ["sis", "ses"]) "sis",
    ofStem anyWord (.group 2 (except "f") ++ text "ves") "fe",
    ofStem anyWord (.group 2 (text "hive") ++ text "s") "",
    ofStem anyWord (.group 2 (text "tive") ++ text "s") "",
    ofStem anyWord (.group 2 (among "lr") ++ text "ves") "f",
    ofEnding (choice [except "aeiouy", text "qu"]) (text "ies") "y",
    ofStem (text "s") (text "eries") "eries",
    ofStem (text "m") (text "ovies") "ovie",
    ofStem anyWord (.group 2 (oneOf ["x", "ch", "ss", "sh"]) ++ text "es") "$2",
    ofStem (oneOf ["m", "l"]) (text "ice") "ouse",
    ofStem (text "bus") (optional (text "es")) "",
    ofStem (text "shoe") (text "s") "",
    ofStem (oneOf ["cris", "test"]) (oneOf ["is", "es"]) "is",
    { pattern := .wordStart ++ .group 1 (text "a") ++ text "x" ++ among "ie" ++ text "s" ++ .wordEnd
      replacement := "xis" },
    ofStem (oneOf ["octop", "vir"]) (oneOf ["us", "i"]) "us",
    ofStem (oneOf ["alias", "status"]) (optional (text "es")) "",
    { pattern := .wordStart ++ .group 1 (text "ox") ++ text "en"
      replacement := "" },
    ofStem (oneOf ["vert", "ind"]) (text "ices") "ex",
    ofStem (text "matr") (text "ices") "ix",
    ofStem (text "quiz") (text "zes") "",
    ofStem (text "database") (text "s") "" ]

/-! ## Applying the rules -/

/-- The groups of the first rule that matches a word, the last rule first, and its replacement. -/
def firstRule? (rules : List InflectionRule) (word : List Char) : Option (Groups × List Char) :=
  rules.reverse.findSome? fun rule =>
    (rule.pattern.search? word).map fun groups => (groups, rule.replacement.toList)

/-- The plural of a word by the lists and rules; a word that no rule covers takes an `s`. -/
def rulePlural (word : String) : String :=
  if massNouns.contains word then word
  else match listedPairs.lookup word with
    | some plural => plural
    | none =>
      match firstRule? pluralRules word.toList with
      | some (groups, replacement) => String.ofList (groupNamed groups ['1'] ++ replacement)
      | none => word ++ "s"

/-- The singular of a word by the lists and rules; a word that no rule covers stays as it is. -/
def ruleSingular (word : String) : String :=
  if massNouns.contains word then word
  else match listedSingulars.lookup word with
    | some singular => singular
    | none =>
      match firstRule? singularRules word.toList with
      | some (groups, replacement) =>
        String.ofList (expand groups (groupNamed groups ['1'] ++ replacement))
      | none => word

end EntSchema.Naming
