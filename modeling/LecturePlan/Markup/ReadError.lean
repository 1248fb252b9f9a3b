import LecturePlan.Markup.Reference
/-!
# What can be wrong with a script

A script is refused either because its characters do not form markup (`XmlFault`) or because its
markup does not form one tree of known characters (`ScriptFault`).  Every fault has one wording.
Positions are byte offsets in the tag, counted from just after its `<`.
-/

namespace LecturePlan.Markup

open LecturePlan.Text

/-- A construct that does not end before the script does. -/
inductive Unclosed where
  | instruction
  | declaration
  | comment
  | doctype
  | cdata
  | tag
  | value (quote : Char)
deriving DecidableEq, Repr

/-- Characters that do not form markup. -/
inductive XmlFault where
  | unclosed (what : Unclosed)
  | unknownMarkup
  | wrongEnd (expected found : String)
  | unmatchedEnd (name : String)
  | namelessDoctype
  | unclosedReference
  | keyAlone (position : Nat)
  | valueMissing (position : Nat)
  | valueUnquoted (position : Nat)
  | valueUnclosed (position : Nat) (quote : Char)
  | repeatedKey (position previous : Nat)
deriving DecidableEq, Repr

/-- Markup that is not one tree of known characters. -/
inductive ScriptFault where
  | invalidValue (key tag : String) (fault : ValueFault)
  | unknownReference (body : String)
  | unclosedElement (name : String)
  | noRoot
  | secondRoot (name : String)
deriving DecidableEq, Repr

/-- Why a script is refused. -/
inductive ReadError where
  | xml (fault : XmlFault)
  | script (fault : ScriptFault)
deriving DecidableEq, Repr

/-- What was not closed, and the text that would have closed it. -/
def Unclosed.message : Unclosed → String
  | .instruction => closing "processing instruction" "?>"
  | .declaration => closing "XML declaration" "?>"
  | .comment => closing "comment" "-->"
  | .doctype => closing "DOCTYPE" ">"
  | .cdata => closing "CDATA" "]]>"
  | .tag => closing "tag" ">"
  | .value quote => closing "attribute value" (String.singleton quote)
where
  closing (what mark : String) : String :=
    what ++ " not closed: `" ++ mark ++ "` not found before end of input"

/-- The wording of a fault in the characters of a script. -/
def XmlFault.message : XmlFault → String
  | .unclosed what => "syntax error: " ++ what.message
  | .unknownMarkup => "syntax error: unknown or missed symbol in markup"
  | .wrongEnd expected found =>
    "ill-formed document: expected `</" ++ expected ++ ">`, but `</" ++ found ++ ">` was found"
  | .unmatchedEnd name =>
    "ill-formed document: close tag `</" ++ name ++ ">` does not match any open tag"
  | .namelessDoctype =>
    "ill-formed document: `<!DOCTYPE>` declaration does not contain a name of a document type"
  | .unclosedReference =>
    "ill-formed document: entity or character reference not closed: `;` not found before end of input"
  | .keyAlone p => atPosition p "attribute key must be directly followed by `=` or space"
  | .valueMissing p => atPosition p "`=` must be followed by an attribute value"
  | .valueUnquoted p => atPosition p "attribute value must be enclosed in `\"` or `'`"
  | .valueUnclosed p quote =>
    atPosition p ("missing closing quote `" ++ String.singleton quote ++ "` in attribute value")
  | .repeatedKey p previous =>
    atPosition p ("duplicated attribute, previous declaration at position " ++
      Decimal.ofNat previous)
where
  atPosition (p : Nat) (problem : String) : String :=
    "error while parsing attribute: position " ++ Decimal.ofNat p ++ ": " ++ problem

/-- The wording of a fault in the tree of a script. -/
def ScriptFault.message : ScriptFault → String
  | .invalidValue key tag fault =>
    "invalid value for attribute " ++ key ++ " on <" ++ tag ++ ">: " ++ fault.message
  | .unknownReference body => "unknown entity reference &" ++ body ++ ";"
  | .unclosedElement name => "unclosed element <" ++ name ++ ">"
  | .noRoot => "document has no root element"
  | .secondRoot name => "multiple root elements: <" ++ name ++ "> follows the document root"

/-- The wording of a refusal. -/
def ReadError.message : ReadError → String
  | .xml fault => "XML parsing error: " ++ fault.message
  | .script fault => "Invalid script: " ++ fault.message

end LecturePlan.Markup
