import EntSchema.Text.Numeral
import EntSchema.Unicode.Letter

/-!
# Patterns of word endings

Inflection rules are tables of patterns. A pattern is searched for in a word: of all places where
it matches the leftmost counts, and there the first way to match, where alternatives are tried in
order and a repetition takes as much as it can. The groups of a match are the parts of the word
that a rule keeps.
-/

namespace EntSchema.Naming

/-- A class of characters. -/
inductive CharClass where
  /-- The word characters. -/
  | word
  /-- The characters of a list. -/
  | among (members : List Char)
  /-- All characters that are not in a list. -/
  | except (members : List Char)

/-- Whether `c` belongs to the class. -/
def CharClass.holds : CharClass → Char → Bool
  | word, c => Unicode.isWordChar c
  | among members, c => members.contains c
  | except members, c => !members.contains c

/-- A pattern over the characters of a word. -/
inductive Pattern where
  /-- Some characters as they are. -/
  | literal (chars : List Char)
  /-- One character of a class. -/
  | one (members : CharClass)
  /-- As many characters of a class as possible, and fewer where that does not lead on. -/
  | many (members : CharClass)
  /-- One pattern and then another. -/
  | seq (first second : Pattern)
  /-- The first of two patterns, or where that does not lead on the second. -/
  | alt (first second : Pattern)
  /-- A pattern whose part of the word is kept under a number. -/
  | group (number : Nat) (inner : Pattern)
  /-- The place before the first character of the word. -/
  | wordStart
  /-- The place after the last character of the word. -/
  | wordEnd

/-- A part of the word that a group matched: the word from where it starts, and what follows it. -/
structure Capture where
  fromStart : List Char
  after : List Char

/-- The characters of a captured part. -/
def Capture.chars (capture : Capture) : List Char :=
  capture.fromStart.take (capture.fromStart.length - capture.after.length)

/-- The groups of a match, with the latest in front. -/
abbrev Groups := List (Nat × Capture)

/-- A place inside a word: the characters after it, and the groups that were matched before it. -/
structure Place where
  rest : List Char
  isStart : Bool
  groups : Groups

namespace Place

/-- The place after `n` more characters. -/
def advance (place : Place) (n : Nat) : Place :=
  { place with rest := place.rest.drop n, isStart := place.isStart && n == 0 }

end Place

/-- Takes characters of a class, as many as possible first, and tries `next` after them. -/
def takeMany {α : Type} (members : CharClass) (next : Bool → List Char → Option α)
    (isStart : Bool) : List Char → Option α
  | [] => next isStart []
  | c :: rest =>
    if members.holds c then (takeMany members next false rest).or (next isStart (c :: rest))
    else next isStart (c :: rest)

namespace Pattern

/-- The first result that `next` gives after a way to match the pattern at a place. -/
def run {α : Type} : Pattern → Place → (Place → Option α) → Option α
  | literal chars, place, next =>
    if chars.isPrefixOf place.rest then next (place.advance chars.length) else none
  | one members, place, next =>
    match place.rest with
    | c :: _ => if members.holds c then next (place.advance 1) else none
    | [] => none
  | many members, place, next =>
    takeMany members (fun isStart rest => next { place with rest, isStart })
      place.isStart place.rest
  | seq first second, place, next => first.run place fun after => second.run after next
  | alt first second, place, next => (first.run place next).or (second.run place next)
  | group number inner, place, next =>
    inner.run place fun after =>
      next { after with groups := (number, ⟨place.rest, after.rest⟩) :: after.groups }
  | wordStart, place, next => if place.isStart then next place else none
  | wordEnd, place, next => if place.rest.isEmpty then next place else none

/-- The class that a pattern begins with as many characters of as possible, if it does. -/
def leadingClass? : Pattern → Option CharClass
  | many members => some members
  | seq first _ => first.leadingClass?
  | group _ inner => inner.leadingClass?
  | _ => none

/--
Whether the leftmost match can start after the character `previous`. A pattern that begins with a
repetition cannot match first behind a character that the repetition takes: it would match one
place earlier.
-/
def canStartAfter (pattern : Pattern) (previous : Option Char) : Bool :=
  match pattern.leadingClass?, previous with
  | some members, some c => !members.holds c
  | _, _ => true

/-- The groups of the leftmost match in what follows the character `previous` of a word. -/
def searchAfter (pattern : Pattern) (previous : Option Char) (rest : List Char) : Option Groups :=
  let here :=
    if pattern.canStartAfter previous then
      pattern.run ⟨rest, previous.isNone, []⟩ (some ·.groups)
    else none
  match rest with
  | [] => here
  | c :: more => here.or (pattern.searchAfter (some c) more)

/-- The groups of the leftmost match in a word. -/
def search? (pattern : Pattern) (word : List Char) : Option Groups :=
  pattern.searchAfter none word

/-! ## Building patterns -/

instance : Append Pattern := ⟨seq⟩

/-- The characters of a text. -/
def text (s : String) : Pattern := literal s.toList

/-- One of several texts, tried in order. -/
def oneOf : List String → Pattern
  | [] => one (.among [])
  | [s] => text s
  | s :: rest => alt (text s) (oneOf rest)

/-- One of several patterns, tried in order. -/
def choice : List Pattern → Pattern
  | [] => one (.among [])
  | [p] => p
  | p :: rest => alt p (choice rest)

/-- A pattern that may be left out. -/
def optional (p : Pattern) : Pattern := alt p (literal [])

/-- Any word characters. -/
def anyWord : Pattern := many .word

/-- One of the characters of a text. -/
def among (s : String) : Pattern := one (.among s.toList)

/-- One character that is not in a text. -/
def except (s : String) : Pattern := one (.except s.toList)

end Pattern

/-! ## Replacements -/

/-- Whether `c` can stand in the name of a group. -/
def isGroupNameChar (c : Char) : Bool :=
  c.isAlphanum || c == '_'

/-- The group that a name in a replacement means; unknown names mean an empty text. -/
def groupNamed (groups : Groups) (name : List Char) : List Char :=
  match (Text.natural? 10 name).bind fun number => List.lookup number groups with
  | some capture => capture.chars
  | none => []

/-- A replacement with its group names filled in, where `name` holds, backwards, the name after a
dollar sign as far as it was read. -/
def expandAfter (groups : Groups) (name : Option (List Char)) : List Char → List Char
  | [] => match name with
    | none => []
    | some [] => ['$']
    | some seen => groupNamed groups seen.reverse
  | c :: rest =>
    match name with
    | none =>
      if c = '$' then expandAfter groups (some []) rest
      else c :: expandAfter groups none rest
    | some [] =>
      if c = '$' then '$' :: expandAfter groups none rest
      else if isGroupNameChar c then expandAfter groups (some [c]) rest
      else '$' :: c :: expandAfter groups none rest
    | some seen =>
      if isGroupNameChar c then expandAfter groups (some (c :: seen)) rest
      else if c = '$' then groupNamed groups seen.reverse ++ expandAfter groups (some []) rest
      else groupNamed groups seen.reverse ++ c :: expandAfter groups none rest

/-- A replacement in which a dollar sign and a name stand for a group, and two for a dollar sign. -/
def expand (groups : Groups) (replacement : List Char) : List Char :=
  expandAfter groups none replacement

end EntSchema.Naming
