import LecturePlan.Voice.Registry
import LecturePlan.Text.Decimal
/-!
# Warnings

A tag that cannot be used, or not as it was meant, is reported and does not fail the script.  A
warning names the tag and the problem; every problem has one wording.
-/

namespace LecturePlan

open LecturePlan.Text

/-- What is wrong with a tag. -/
inductive Problem where
  /- Declarations. -/
  | noAttributes
  | deckWithoutId
  | deckRepeated (id : String)
  | deckWithoutSource (id : String)
  | deckNotPdf (id source : String)
  | deckMissing (id source path : String)
  | deckWithoutPages (id source : String)
  | deckUnreadable (id source reason : String)
  | lexiconWithoutId
  | lexiconRepeated (id : String)
  | lexiconEmpty (id : String)
  | lexemeInvalid (lexicon : String)
  | lexemePartCount
  | lexemePartUnknown
  | lexemePartNotText
  /- Settings and lookups. -/
  | pauseNotNumber (key value : String)
  | lookupWithoutLexicon
  | lookupUnknown (id : String)
  /- Content. -/
  | markWithoutName
  | markRepeated (name : String)
  | voiceWithoutName
  | voiceUnknown (name : String)
  | voiceNotLookedUp (name : String) (error : RegistryError)
  | imageWithoutSource
  | imageMissing (source path : String)
  | fitUnknown (value : String)
  | deckUndeclared (id : String)
  | pageInvalid (value : String)
  | slideWithoutPage
  | slideDeckUndeclared (id : String)
  | clipWithoutSource (tag : String)
  | clipMissing (tag source path : String)
  | clipEmpty (tag source beginning ending : String)
  | boundInvalid (key value : String)
  | playbackInvalid (key value expected : String)
  | keepFrameInvalid (value : String)
  /- Lengths. -/
  | lengthUnknownVoice (number : Nat) (voice : String)
  | lengthNotChecked (number : Nat) (error : RegistryError)
deriving DecidableEq, Repr

/-- A tag, by name, and what is wrong with it. -/
structure Warning where
  tag : String
  problem : Problem
deriving DecidableEq, Repr

/-- A text in double quotes. -/
def quoted (s : String) : String := "\"" ++ s ++ "\""

/-- The wording of a problem. -/
def Problem.message : Problem → String
  | .noAttributes => "ignored tag with no attributes"
  | .deckWithoutId => "ignored a <deck id=\"\"> tag with no defined id"
  | .deckRepeated id =>
    "ignored <deck id=" ++ quoted id ++ "> because a deck with the same id already exists"
  | .deckWithoutSource id =>
    "ignored <deck id=" ++ quoted id ++ " src=\"\"> with no defined source file"
  | .deckNotPdf id source => deck id source ++ " with a non-PDF file as source"
  | .deckMissing id source path =>
    deck id source ++ " as the file does not exist at " ++ quoted path
  | .deckWithoutPages id source => deck id source ++ " with no pages"
  | .deckUnreadable id source reason =>
    deck id source ++ ", could not count its pages: " ++ reason
  | .lexiconWithoutId => "ignored a <lexicon xml:id=\"\"> tag with no defined id"
  | .lexiconRepeated id =>
    "ignored <lexicon xml:id=" ++ quoted id ++
      "> because a lexicon with the same id already exists"
  | .lexiconEmpty id => "ignored <lexicon xml:id=" ++ quoted id ++ "> with no valid lexemes"
  | .lexemeInvalid lexicon =>
    "ignored a <lexeme> in lexicon " ++ quoted lexicon ++ " because its content is not valid"
  | .lexemePartCount => "a <lexeme> must contain exactly two child tags"
  | .lexemePartUnknown => "ignored tag inside <lexeme> as it is not a valid lexicon element"
  | .lexemePartNotText => "ignored tag inside <lexeme> because it must contain only text"
  | .pauseNotNumber key value =>
    "ignored " ++ key ++ "=" ++ quoted value ++ " as it is not a non-negative integer"
  | .lookupWithoutLexicon => "removed a <lookup ref=\"\"> tag with no lexicon reference"
  | .lookupUnknown id =>
    "removed <lookup ref=" ++ quoted id ++ "> because no lexicon " ++ quoted id ++ " exists"
  | .markWithoutName => "ignored a <mark name=\"\"> tag with no defined name"
  | .markRepeated name =>
    "ignored <mark name=" ++ quoted name ++ "> because a mark with the same name already exists"
  | .voiceWithoutName => "ignored a <voice name=\"\"> tag with no defined voice name"
  | .voiceUnknown name =>
    "ignored <voice name=" ++ quoted name ++ "> because the voice does not exist"
  | .voiceNotLookedUp name error =>
    "ignored <voice name=" ++ quoted name ++ "> as the voice could not be looked up: " ++
      error.message
  | .imageWithoutSource => "ignored an <image src=\"\"> tag with no defined image file"
  | .imageMissing source path =>
    "ignored <image src=" ++ quoted source ++ "> because the file does not exist at " ++ quoted path
  | .fitUnknown value =>
    "ignored fit=" ++ quoted value ++ ", expected contain, cover or fill"
  | .deckUndeclared id =>
    "ignored change to slide deck " ++ quoted id ++ " as it was not declared inside <lecture>"
  | .pageInvalid value =>
    "ignored <slide page=" ++ quoted value ++ "> as the page value is not valid"
  | .slideWithoutPage => "ignored a <slide> tag without a defined page"
  | .slideDeckUndeclared id =>
    "ignored slide change as deck " ++ quoted id ++ " was not declared"
  | .clipWithoutSource tag => "ignored a <" ++ tag ++ " src=\"\"> tag with no defined file"
  | .clipMissing tag source path =>
    "ignored <" ++ tag ++ " src=" ++ quoted source ++ "> as the file does not exist at " ++
      quoted path
  | .clipEmpty tag source beginning ending =>
    "ignored <" ++ tag ++ " src=" ++ quoted source ++ ">: clipBegin " ++ beginning ++
      " is equal to or later than clipEnd " ++ ending
  | .boundInvalid key value =>
    "ignored " ++ key ++ "=" ++ quoted value ++ " as it is not a valid timestamp"
  | .playbackInvalid key value expected =>
    "ignored " ++ key ++ "=" ++ quoted value ++ ", expected " ++ expected
  | .keepFrameInvalid value =>
    "ignored keepFrame=" ++ quoted value ++ ", expected true or false"
  | .lengthUnknownVoice n voice =>
    "section " ++ Decimal.ofNat n ++ " uses unknown voice " ++ quoted voice ++
      ", its length was not checked"
  | .lengthNotChecked n error =>
    "section " ++ Decimal.ofNat n ++ ": length not checked: " ++ error.message
where
  deck (id source : String) : String :=
    "ignored <deck id=" ++ quoted id ++ " src=" ++ quoted source ++ ">"

/-- The wording of a warning's problem. -/
def Warning.message (w : Warning) : String := w.problem.message

end LecturePlan
