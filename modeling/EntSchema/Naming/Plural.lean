import EntSchema.Naming.Inflection
import EntSchema.Naming.Word

/-!
# Plural and singular names

Only the last word of a name is inflected: what comes up to the last separator stays. A few words
are settled here, whatever their case, before the general rules are asked: irregular pairs, and
words that have one form only. The plural of a name is always another name; where inflection
changes nothing, a suffix does.
-/

namespace EntSchema.Naming

/-- The suffix of a plural that would else equal its singular. -/
def pluralSuffix : String := "Slice"

/-- Singulars and their plurals that no rule gives. -/
def irregularPairs : List (String × String) :=
  [("person", "people"), ("man", "men"), ("woman", "women"), ("child", "children"),
    ("mouse", "mice"), ("goose", "geese"), ("foot", "feet"), ("tooth", "teeth"), ("ox", "oxen")]

/-- Words whose singular and plural are the same. -/
def uncountableWords : List String :=
  ["data", "metadata", "equipment", "information", "news", "series", "species", "sheep", "fish"]

/-- A replacement that starts with a capital where the word that it replaces does. -/
def matchCase (word replacement : List Char) : List Char :=
  match word with
  | c :: _ => if Unicode.isUppercase c then capitalize replacement else replacement
  | [] => replacement

/-- A word in small letters, the form in which it is looked up. -/
def lookupForm (word : List Char) : String :=
  String.ofList (Unicode.smalls word)

/--
A word inflected from one column of a table of pairs to the other. An uncountable word and a word
that is in the target column already stay; a word in the source column becomes its partner; every
other word goes to `rule`.
-/
def inflectWord (pairs : List (String × String)) (rule : String → String) (word : List Char) :
    List Char :=
  let form := lookupForm word
  if uncountableWords.contains form || pairs.any (·.2 == form) then word
  else match pairs.lookup form with
    | some partner => matchCase word partner.toList
    | none => (rule (String.ofList word)).toList

/-- The plural of a word. -/
def pluralWord : List Char → List Char :=
  inflectWord irregularPairs rulePlural

/-- The singular of a word. -/
def singularWord : List Char → List Char :=
  inflectWord (irregularPairs.map fun (singular, plural) => (plural, singular)) ruleSingular

/-- A name with its last word inflected; a name without a last word stays. -/
def inflectName (inflect : List Char → List Char) (name : List Char) : List Char :=
  let (front, word) := splitLastWord name
  if word.isEmpty then name else front ++ inflect word

/-- The plural of a name, which is never the name itself. -/
def pluralize (name : String) : String :=
  let plural := String.ofList (inflectName pluralWord name.toList)
  if plural = name then name ++ pluralSuffix else plural

/-- The singular of a name. -/
def singularize (name : String) : String :=
  String.ofList (inflectName singularWord name.toList)

end EntSchema.Naming
