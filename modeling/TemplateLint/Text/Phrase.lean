import TemplateLint.Text.Blank
import TemplateLint.Text.Digit

/-!
# Phrases

A phrase is a sequence of words, blanks and numbers that is looked for in a text.  Blanks and
numbers take as much as they can.  Main exports: `Phrase`, `Phrase.match?`, `Phrase.find?`.
-/

namespace TemplateLint.Text

/-- A part of a phrase. -/
inductive PhrasePart where
  | word (chars : List Char)
  /-- At least one blank. -/
  | blanks
  /-- Any number of blanks. -/
  | anyBlanks
  /-- At least one digit. -/
  | number
deriving DecidableEq, Repr

/-- A sequence of parts. -/
abbrev Phrase := List PhrasePart

namespace Phrase

/-- What follows a word, if the text starts with it. -/
def afterWord? : List Char → List Char → Option (List Char)
  | [], text => some text
  | _ :: _, [] => none
  | w :: word, c :: text => if w = c then afterWord? word text else none

/-- What follows a part, if the text starts with it. -/
def afterPart? (text : List Char) : PhrasePart → Option (List Char)
  | .word word => afterWord? word text
  | .blanks =>
      match text with
      | [] => none
      | c :: rest => if isBlank c then some (skipBlanks rest) else none
  | .anyBlanks => some (skipBlanks text)
  | .number =>
      match text with
      | [] => none
      | c :: rest => if isDecimal c then some (rest.dropWhile isDecimal) else none

/-- What follows the phrase, if the text starts with it. -/
def match? (phrase : Phrase) (text : List Char) : Option (List Char) :=
  phrase.foldlM afterPart? text

/-- What follows the first place where the phrase stands. -/
def find? (phrase : Phrase) : List Char → Option (List Char)
  | [] => phrase.match? []
  | c :: rest =>
      match phrase.match? (c :: rest) with
      | some after => some after
      | none => find? phrase rest

/-- The phrase stands somewhere in the text. -/
def occursIn (phrase : Phrase) (text : List Char) : Bool :=
  (find? phrase text).isSome

/-- A phrase of words with blanks between them. -/
def ofWords : List String → Phrase
  | [] => []
  | [word] => [.word word.toList]
  | word :: next :: rest => .word word.toList :: .blanks :: ofWords (next :: rest)

end Phrase

end TemplateLint.Text
