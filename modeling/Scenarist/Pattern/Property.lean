import Scenarist.Pattern.Ast
import Scenarist.Pattern.CharSet
import Scenarist.Unicode.Age
import Scenarist.Unicode.BinaryProperty
import Scenarist.Unicode.Boundary
import Scenarist.Unicode.Category
import Scenarist.Unicode.Script

/-! # Sets by properties

A name alone is that of a property that holds or not, of a general category or of a script. A
name with a value says which property it is: the category, the script, the scripts in which a
character is written, the version that first had it, or what it is at a boundary. Names are compared
without case and separators.
-/

namespace Scenarist.Pattern

/-- The letters of a name, small and without separators. Characters outside ASCII are dropped. -/
def nameLetters (t : Text) : Text :=
  (t.filter fun c => c.toNat < 128 && c != ' ' && c != '_' && c != '-').map Char.toLower

/-- The name in its plain form. A beginning `is` is dropped, except where nothing but the
abbreviation `isc` would be meant. -/
def plainName (t : Text) : Text :=
  match t with
  | a :: b :: r =>
    if a.toLower = 'i' ∧ b.toLower = 's' then
      if nameLetters r = ['c'] then "isc" else nameLetters r
    else nameLetters t
  | _ => nameLetters t

/-- Categories, and three sets that have names beside them. -/
def categorySet? (name : Text) : Option CharSet :=
  if name = "any" then some .all
  else if name = "assigned" then (Unicode.category? "cn").map fun r => .complement (.listed r)
  else if name = "ascii" then some (.range '\x00' '\x7f')
  else (Unicode.category? name).map .listed

/-- The set of a name that stands alone. -/
def namedSet? (name : Text) : Option CharSet :=
  if name = "isc" then none
  else
    ((Unicode.binaryProperty? name).map .listed).or
      ((categorySet? name).or ((Unicode.script? name).map .listed))

/-! ## Properties with values -/

/-- A property under its names, each in small letters without separators, with the characters of a
value. -/
structure ValuedProperty where
  names : List Text
  set? : Text → Option CharSet

/-- The characters that a list of properties gives to a value. -/
def listedSet? (values : List Unicode.Property) (value : Text) : Option CharSet :=
  (values.find? (·.names.contains value)).map fun found => .listed found.ranges

/-- The properties whose values name sets. -/
def valuedProperties : List ValuedProperty := [
  ⟨["gc", "generalcategory"], categorySet?⟩,
  ⟨["sc", "script"], fun value => (Unicode.script? value).map .listed⟩,
  ⟨["scx", "scriptextensions"], fun value => (Unicode.scriptExtension? value).map .listed⟩,
  ⟨["age"], fun value => (Unicode.age? value).map .listed⟩,
  ⟨["gcb", "graphemeclusterbreak"], listedSet? Unicode.graphemeParts⟩,
  ⟨["wb", "wordbreak"], listedSet? Unicode.wordParts⟩,
  ⟨["sb", "sentencebreak"], listedSet? Unicode.sentenceParts⟩]

/-- Properties whose values name no sets. -/
def otherProperties : List Text :=
  ["bc", "bidiclass", "bidim", "bidimirrored", "blk", "block", "bmg", "bidimirroringglyph", "bpb",
    "bidipairedbracket", "bpt", "bidipairedbrackettype", "ccc", "canonicalcombiningclass", "ce",
    "compositionexclusion", "cf", "casefolding", "compex", "fullcompositionexclusion", "cwkcf",
    "changeswhennfkccasefolded", "dm", "decompositionmapping", "dt", "decompositiontype", "ea",
    "eastasianwidth", "equideo", "equivalentunifiedideograph", "fcnfkc", "fcnfkcclosure", "hst",
    "hangulsyllabletype", "incb", "indicconjunctbreak", "inpc", "indicpositionalcategory", "insc",
    "indicsyllabiccategory", "isc", "isocomment", "jg", "joininggroup", "jsn", "jamoshortname",
    "jt", "joiningtype", "lb", "linebreak", "lc", "lowercasemapping", "na", "name", "na1",
    "unicode1name", "namealias", "nfcqc", "nfcquickcheck", "nfdqc", "nfdquickcheck", "nfkccf",
    "nfkccasefold", "nfkcqc", "nfkcquickcheck", "nfkcscf", "nfkcsimplecasefold", "nfkdqc",
    "nfkdquickcheck", "nt", "numerictype", "nv", "numericvalue", "scf", "sfc",
    "simplecasefolding", "slc", "simplelowercasemapping", "stc", "simpletitlecasemapping", "suc",
    "simpleuppercasemapping", "tc", "titlecasemapping", "uc", "uppercasemapping", "vo",
    "verticalorientation", "xonfc", "expandsonnfc", "xonfd", "expandsonnfd", "xonfkc",
    "expandsonnfkc", "xonfkd", "expandsonnfkd"].map String.toList

def PropertyName.set : PropertyName → Except Cause CharSet
  | .letter c => named [c]
  | .named name => named name
  | .valued name value =>
    let name := plainName name
    match valuedProperties.find? (·.names.contains name) with
    | some property =>
      match property.set? (plainName value) with
      | some s => .ok s
      | none => .error .propertyValueUnknown
    | none =>
      if Text.isOneOf name otherProperties ∨ (Unicode.binaryProperty? name).isSome then
        .error .propertyValueUnknown
      else .error .propertyUnknown
where
  named (name : Text) : Except Cause CharSet :=
    match namedSet? (plainName name) with
    | some s => .ok s
    | none => .error .propertyUnknown

end Scenarist.Pattern
