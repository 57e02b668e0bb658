import Groupwise.Unicode.Age
import Groupwise.Unicode.Script
import Groupwise.Unicode.Segmentation

/-!
# Properties by name

A set of characters is asked for by the name of a property that holds of them, or by the name of a
property together with one of its values. Names are compared loosely: case, blanks, hyphens and
underscores do not matter, nor does a word "is" in front.
-/
namespace Groupwise.Unicode

open Text (CodePointSet)

/-- A name in the form in which names are compared. -/
def looseName (name : List Char) : String :=
  let significant (cs : List Char) : List Char :=
    (cs.filter fun c => c != ' ' && c != '_' && c != '-' && c.toNat < 0x80).map Char.toLower
  match name with
  | i :: s :: rest =>
    if i.toLower == 'i' && s.toLower == 's' then
      -- The name "isc" is one of its own and does not mean "c".
      if significant rest == ['c'] then "isc" else String.ofList (significant rest)
    else String.ofList (significant name)
  | _ => String.ofList (significant name)

def binary? : String → Option CodePointSet
  | "ahex" | "asciihexdigit" => some asciiHexDigit
  | "alpha" | "alphabetic" => some alphabetic
  | "bidic" | "bidicontrol" => some bidiControl
  | "cased" => some cased
  | "ci" | "caseignorable" => some caseIgnorable
  | "cwcf" | "changeswhencasefolded" => some changesWhenCasefolded
  | "cwcm" | "changeswhencasemapped" => some changesWhenCasemapped
  | "cwl" | "changeswhenlowercased" => some changesWhenLowercased
  | "cwt" | "changeswhentitlecased" => some changesWhenTitlecased
  | "cwu" | "changeswhenuppercased" => some changesWhenUppercased
  | "dash" => some dash
  | "dep" | "deprecated" => some deprecated
  | "di" | "defaultignorablecodepoint" => some defaultIgnorable
  | "dia" | "diacritic" => some diacritic
  | "ebase" | "emojimodifierbase" => some emojiModifierBase
  | "ecomp" | "emojicomponent" => some emojiComponent
  | "emod" | "emojimodifier" => some emojiModifier
  | "emoji" => some emoji
  | "epres" | "emojipresentation" => some emojiPresentation
  | "ext" | "extender" => some extender
  | "extpict" | "extendedpictographic" => some extendedPictographic
  | "grbase" | "graphemebase" => some graphemeBase
  | "grext" | "graphemeextend" => some graphemeExtend
  | "grlink" | "graphemelink" => some graphemeLink
  | "hex" | "hexdigit" => some hexDigit
  | "hyphen" => some hyphen
  | "idc" | "idcontinue" => some idContinue
  | "idcompatmathcontinue" => some idCompatMathContinue
  | "idcompatmathstart" => some idCompatMathStart
  | "ideo" | "ideographic" => some ideographic
  | "ids" | "idstart" => some idStart
  | "idsb" | "idsbinaryoperator" => some idsBinaryOperator
  | "idst" | "idstrinaryoperator" => some idsTrinaryOperator
  | "idsu" | "idsunaryoperator" => some idsUnaryOperator
  | "joinc" | "joincontrol" => some joinControl
  | "loe" | "logicalorderexception" => some logicalOrderException
  | "lower" | "lowercase" => some lowercase
  | "math" => some math
  | "mcm" | "modifiercombiningmark" => some modifierCombiningMark
  | "nchar" | "noncharactercodepoint" => some noncharacter
  | "oalpha" | "otheralphabetic" => some otherAlphabetic
  | "odi" | "otherdefaultignorablecodepoint" => some otherDefaultIgnorable
  | "ogrext" | "othergraphemeextend" => some otherGraphemeExtend
  | "oidc" | "otheridcontinue" => some otherIdContinue
  | "oids" | "otheridstart" => some otherIdStart
  | "olower" | "otherlowercase" => some otherLowercase
  | "omath" | "othermath" => some otherMath
  | "oupper" | "otheruppercase" => some otherUppercase
  | "patsyn" | "patternsyntax" => some patternSyntax
  | "patws" | "patternwhitespace" => some patternWhiteSpace
  | "pcm" | "prependedconcatenationmark" => some prependedConcatenationMark
  | "qmark" | "quotationmark" => some quotationMark
  | "radical" => some radical
  | "ri" | "regionalindicator" => some regionalIndicator
  | "sd" | "softdotted" => some softDotted
  | "space" | "whitespace" | "wspace" => some whiteSpace
  | "sterm" | "sentenceterminal" => some sentenceTerminal
  | "term" | "terminalpunctuation" => some terminalPunctuation
  | "uideo" | "unifiedideograph" => some unifiedIdeograph
  | "upper" | "uppercase" => some uppercase
  | "vs" | "variationselector" => some variationSelector
  | "xidc" | "xidcontinue" => some xidContinue
  | "xids" | "xidstart" => some xidStart
  | _ => none

def category? : String → Option CodePointSet
  | "any" => some .all
  | "ascii" => some (.range 0 0x7f)
  | "assigned" => some (ofCategories [.unassigned]).complement
  | name => (Category.named? name).map ofCategories

def script? (name : String) : Option CodePointSet := (Script.code? name).map Script.set

inductive ValuedProperty where
  | generalCategory | script | scriptExtensions | age | graphemeBreak | wordBreak | sentenceBreak
  deriving Repr, DecidableEq

namespace ValuedProperty

def named? : String → Option ValuedProperty
  | "gc" | "generalcategory" => some .generalCategory
  | "sc" | "script" => some .script
  | "scx" | "scriptextensions" => some .scriptExtensions
  | "age" => some .age
  | "gcb" | "graphemeclusterbreak" => some .graphemeBreak
  | "wb" | "wordbreak" => some .wordBreak
  | "sb" | "sentencebreak" => some .sentenceBreak
  | _ => none

/-- The characters that have the value with a given name. An age counts all earlier ones too. -/
def set? (name : String) : ValuedProperty → Option CodePointSet
  | .generalCategory => category? name
  | .script => script? name
  | .scriptExtensions => (Script.code? name).map Script.extendedSet
  | .age => (Age.upTo? name).map Age.setOf
  | .graphemeBreak => GraphemeBreak.named? name
  | .wordBreak => WordBreak.named? name
  | .sentenceBreak => SentenceBreak.named? name

end ValuedProperty

/-- Names of general categories and scripts that no character can have. -/
def isVacant (name : String) : Bool :=
  ["cs", "surrogate", "zzzz", "unknown", "hrkt", "katakanaorhiragana"].contains name

/-- Names of properties whose values cannot be asked for. -/
def isClosed (name : String) : Bool :=
  (binary? name).isSome ||
    ["bc", "bidiclass", "blk", "block", "ccc", "canonicalcombiningclass", "dt",
      "decompositiontype", "ea", "eastasianwidth", "hst", "hangulsyllabletype", "inpc",
      "indicpositionalcategory", "insc", "indicsyllabiccategory", "jg", "joininggroup", "jt",
      "joiningtype", "lb", "linebreak", "nt", "numerictype", "nv", "numericvalue", "vo",
      "verticalorientation", "na", "name", "bidim", "bidimirrored"].contains name

inductive PropertyQuery where
  | named (name : List Char)
  | valued (name value : List Char)
  deriving Repr, DecidableEq

inductive PropertyError where
  | unknownProperty
  | unknownValue
  deriving Repr, DecidableEq

/-- The set that is asked for. A plain name is that of a property, of a general category or of a
script, in this order. -/
def PropertyQuery.set : PropertyQuery → Except PropertyError CodePointSet
  | .named name =>
    let name := looseName name
    match (binary? name <|> category? name) <|> script? name with
    | some set => .ok set
    | none => .error (if isVacant name then .unknownValue else .unknownProperty)
  | .valued name value =>
    match ValuedProperty.named? (looseName name) with
    | none => .error (if isClosed (looseName name) then .unknownValue else .unknownProperty)
    | some property =>
      match property.set? (looseName value) with
      | some set => .ok set
      | none => .error .unknownValue

end Groupwise.Unicode
