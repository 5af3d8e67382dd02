import FilterQuery.Regex.Node
import FilterQuery.Unicode.Age
import FilterQuery.Unicode.Segmentation

/-!
# Unicode properties in patterns

The properties that a pattern may ask for, by their names without case,
blanks, hyphens and underscores.  `Property.codes` answers a question with a
set of characters, or says why there is none.
-/

namespace FilterQuery.Regex.Property

open Unicode

/-! ## Names -/

/-- A name without case, blanks, hyphens and underscores, and without an `is`
in front of it. -/
def normalize (name : List Char) : String :=
  let lower := name.map Char.toLower
  let (hasIs, body) :=
    match lower with
    | 'i' :: 's' :: rest => (true, rest)
    | rest => (false, rest)
  let kept := body.filter fun c =>
    decide (c.toNat < 128) && c != ' ' && c != '-' && c != '_'
  if hasIs && kept == ['c'] then "isc" else String.ofList kept

/-- Names of categories and scripts that no character of a text has. -/
def emptyNames : List String :=
  ["cs", "surrogate", "unknown", "zzzz", "katakanaorhiragana", "hrkt"]

/-- Properties of ideographs, each of which has a name that begins with `cjk`
and one that begins with `k`. -/
def ideographNames : List String :=
  ["accountingnumeric", "compatibilityvariant", "iicore", "irggsource", "irghsource", "irgjsource",
    "irgkpsource", "irgksource", "irgmsource", "irgssource", "irgtsource", "irguksource",
    "irgusource", "irgvsource", "othernumeric", "primarynumeric", "rsunicode"]

/-- Other properties that exist and that a pattern cannot ask for. -/
def otherNames : List String :=
  ["bidiclass", "bc", "bidimirroringglyph", "bmg", "bidipairedbracket", "bpb",
    "bidipairedbrackettype", "bpt", "block", "blk", "canonicalcombiningclass", "ccc", "casefolding",
    "cf", "changeswhennfkccasefolded", "cwkcf", "compositionexclusion", "ce",
    "decompositionmapping", "dm", "decompositiontype", "dt", "eastasianwidth", "ea",
    "equivalentunifiedideograph", "equideo", "expandsonnfc", "xonfc", "expandsonnfd", "xonfd",
    "expandsonnfkc", "xonfkc", "expandsonnfkd", "xonfkd", "fcnfkcclosure", "fcnfkc",
    "fullcompositionexclusion", "compex", "hangulsyllabletype", "hst", "indicconjunctbreak", "incb",
    "indicpositionalcategory", "inpc", "indicsyllabiccategory", "insc", "ocomment", "isc",
    "jamoshortname", "jsn", "joininggroup", "jg", "joiningtype", "jt", "linebreak", "lb",
    "lowercasemapping", "lc", "name", "na", "namealias", "nfcquickcheck", "nfcqc", "nfdquickcheck",
    "nfdqc", "nfkccasefold", "nfkccf", "nfkcquickcheck", "nfkcqc", "nfkcsimplecasefold", "nfkcscf",
    "nfkdquickcheck", "nfkdqc", "numerictype", "nt", "numericvalue", "nv", "simplecasefolding",
    "scf", "sfc", "simplelowercasemapping", "slc", "simpletitlecasemapping", "stc",
    "simpleuppercasemapping", "suc", "titlecasemapping", "tc", "unicode1name", "na1",
    "unicoderadicalstroke", "urs", "uppercasemapping", "uc", "verticalorientation", "vo", "kehcat",
    "kehdesc", "kehhg", "kehifao", "kehjsesh", "kehnomirror", "kehnorotate"]

/-- Whether a property exists that a pattern cannot ask for. -/
def isOther (name : String) : Bool :=
  otherNames.contains name ||
    ideographNames.any fun stem => name == "cjk" ++ stem || name == "k" ++ stem

/-! ## Questions -/

/-- The characters of each value of a property. -/
def values? (name : String) : Option (String → Option CodeSet) :=
  if ["generalcategory", "gc"].contains name then some (NamedSet.find? Category.table)
  else if ["script", "sc"].contains name then some Script.codes?
  else if ["scriptextensions", "scx"].contains name then some Script.extension?
  else if name == "age" then some Age.codes?
  else if ["graphemeclusterbreak", "gcb"].contains name then
    some (NamedSet.find? Grapheme.table)
  else if ["wordbreak", "wb"].contains name then some (NamedSet.find? Word.table)
  else if ["sentencebreak", "sb"].contains name then some (NamedSet.find? Sentence.table)
  else none

/-- Whether a property exists, whatever a pattern may do with it. -/
def isKnown (name : String) : Bool :=
  (values? name).isSome || (NamedSet.find? Binary.table name).isSome || isOther name

/-- The characters that a name alone stands for: those with a property, of a
general category or of a script. -/
def named? (name : String) : Option CodeSet :=
  NamedSet.find? Binary.table name <|> NamedSet.find? Category.table name <|>
    Script.codes? name

/-- The characters that a question asks for. -/
def codes : PropertyQuery → Except Fault CodeSet
  | .named name =>
    let name := normalize name
    match named? name with
    | some codes => .ok codes
    | none =>
      if emptyNames.contains name then .error .propertyValueUnknown
      else .error .propertyUnknown
  | .valued name value =>
    let name := normalize name
    match (values? name).bind fun values => values (normalize value) with
    | some codes => .ok codes
    | none =>
      if isKnown name then .error .propertyValueUnknown else .error .propertyUnknown

end FilterQuery.Regex.Property
