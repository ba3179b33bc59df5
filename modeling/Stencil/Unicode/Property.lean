import Stencil.Unicode.Age
import Stencil.Unicode.LetterTable
import Stencil.Unicode.PropertyNames
import Stencil.Unicode.ScriptTable
import Stencil.Unicode.Segmentation

/-!
# Properties by name

Sets of characters that patterns name: general categories, scripts, ages, classes of text segmentation and
binary properties, as edition 16.0 of the standard has them. Names are compared loosely, so that `Greek`,
`is_greek` and `GREEK` are one name.
-/
namespace Stencil.Unicode

inductive PropertyFault where
  | property
  | value
  deriving DecidableEq, Repr

/-- A name in lower case without blanks, hyphens, underscores, characters outside ASCII and `is` in front.
The name `isc` keeps its first letters, which make it another name than `c`. -/
def looseName (name : String) : String :=
  let letters (s : List Char) : List Char :=
    (s.filter fun c => c.toNat < 128 && c != ' ' && c != '_' && c != '-').map Char.toLower
  match name.toList with
  | i :: s :: rest =>
    if i.toLower = 'i' ∧ s.toLower = 's' then
      let short := letters rest
      String.ofList (if short = ['c'] then ['i', 's', 'c'] else short)
    else String.ofList (letters (i :: s :: rest))
  | short => String.ofList (letters short)

def categoryNames : List (List String × List Category) :=
  [(["c", "other"], [.cc, .cf, .cn, .co, .cs]),
   (["cc", "control", "cntrl"], [.cc]),
   (["cf", "format"], [.cf]),
   (["cn", "unassigned"], [.cn]),
   (["co", "privateuse"], [.co]),
   (["l", "letter"], [.lu, .ll, .lt, .lm, .lo]),
   (["lc", "casedletter"], [.lu, .ll, .lt]),
   (["ll", "lowercaseletter"], [.ll]),
   (["lm", "modifierletter"], [.lm]),
   (["lo", "otherletter"], [.lo]),
   (["lt", "titlecaseletter"], [.lt]),
   (["lu", "uppercaseletter"], [.lu]),
   (["m", "mark", "combiningmark"], [.mc, .me, .mn]),
   (["mc", "spacingmark"], [.mc]),
   (["me", "enclosingmark"], [.me]),
   (["mn", "nonspacingmark"], [.mn]),
   (["n", "number"], [.nd, .nl, .no]),
   (["nd", "decimalnumber", "digit"], [.nd]),
   (["nl", "letternumber"], [.nl]),
   (["no", "othernumber"], [.no]),
   (["p", "punctuation", "punct"], [.pc, .pd, .pe, .pf, .pi, .po, .ps]),
   (["pc", "connectorpunctuation"], [.pc]),
   (["pd", "dashpunctuation"], [.pd]),
   (["pe", "closepunctuation"], [.pe]),
   (["pf", "finalpunctuation"], [.pf]),
   (["pi", "initialpunctuation"], [.pi]),
   (["po", "otherpunctuation"], [.po]),
   (["ps", "openpunctuation"], [.ps]),
   (["s", "symbol"], [.sc, .sk, .sm, .so]),
   (["sc", "currencysymbol"], [.sc]),
   (["sk", "modifiersymbol"], [.sk]),
   (["sm", "mathsymbol"], [.sm]),
   (["so", "othersymbol"], [.so]),
   (["z", "separator"], [.zl, .zp, .zs]),
   (["zl", "lineseparator"], [.zl]),
   (["zp", "paragraphseparator"], [.zp]),
   (["zs", "spaceseparator"], [.zs])]

/-- The characters of a general category. Surrogates are no characters. -/
def categorySet? (name : String) : Option (Except PropertyFault CharSet) :=
  if name = "any" then some (.ok .full)
  else if name = "assigned" then some (.ok (Category.set [.cn]).negate)
  else if name = "ascii" then some (.ok (.ofRanges [(0, 127)]))
  else if name = "cs" ∨ name = "surrogate" then some (.error .value)
  else (categoryNames.find? fun (names, _) => name ∈ names).map fun (_, cs) => .ok (Category.set cs)

def scriptCode? (name : String) : Option String :=
  ((CharSet.pairs scriptNameTable).find? fun (code, long) =>
    long == name || String.ofList (code.toList.map Char.toLower) == name).map (·.1)

/-- The runs of the table: first code point and code of the script. -/
def scriptRuns : List (Nat × String) :=
  (CharSet.words scriptTable).map fun word =>
    let code := word.drop (word.length - 4)
    (Text.ofHex (word.take (word.length - 4)), String.ofList code)

def scriptRanges (code : String) : List (Nat × Nat) :=
  (scriptRuns.zip ((scriptRuns.drop 1).map (·.1) ++ [maxCode + 1])).filterMap
    fun ((start, script), stop) => if script = code then some (start, stop - 1) else none

def scriptSet (code : String) : CharSet := .ofRanges (scriptRanges code)

/-- The characters used with a script: its own, less those that are listed with other scripts, and those
that are listed with it. -/
def scriptExtensionSet (code : String) : CharSet :=
  let listed := CharSet.pairs scriptExtensionTable
  let others := listed.filter fun (_, codes) => !(codes.splitOn ",").contains code
  let mine := listed.filter fun (_, codes) => (codes.splitOn ",").contains code
  ((scriptSet code).diff (.unions (others.map fun (range, _) => .ofTable range))).union
    (.unions (mine.map fun (range, _) => .ofTable range))

/-- Scripts that have names and no characters. -/
def isVacantScript (name : String) : Bool :=
  name ∈ ["zzzz", "unknown", "hrkt", "katakanaorhiragana"]

def namedScript? (set : String → CharSet) (name : String) : Option (Except PropertyFault CharSet) :=
  if isVacantScript name then some (.error .value)
  else (scriptCode? name).map fun code => .ok (set code)

def white : CharSet :=
  .ofTable "9-d 20 85 a0 1680 2000-200a 2028-2029 202f 205f 3000"

def binarySet? (name : String) : Option CharSet :=
  if name ∈ ["alphabetic", "alpha"] then
    some ((Category.set [.lu, .ll, .lt, .lm, .lo, .nl]).union otherAlphabetic)
  else if name ∈ ["lowercase", "lower"] then some ((Category.set [.ll]).union otherLowercase)
  else if name ∈ ["uppercase", "upper"] then some ((Category.set [.lu]).union otherUppercase)
  else if name ∈ ["otherlowercase", "olower"] then some otherLowercase
  else if name ∈ ["otheruppercase", "oupper"] then some otherUppercase
  else if name = "cased" then
    some (.unions [Category.set [.lu, .ll, .lt], otherLowercase, otherUppercase])
  else if name ∈ ["caseignorable", "ci"] then
    some ((Category.set [.mn, .me, .cf, .lm, .sk]).union otherCaseIgnorable)
  else if name ∈ ["whitespace", "wspace", "space"] then some white
  else entrySet? propertyEntries name

/-- The set that a single name stands for. The short names of three categories are also short names of
properties, which patterns do not know. -/
def namedSet (name : String) : Except PropertyFault CharSet :=
  let loose := looseName name
  match binarySet? loose with
  | some s => .ok s
  | none =>
    match (categorySet? loose).or (namedScript? scriptSet loose) with
    | some found => found
    | none => .error .property

def isPropertyName (name : String) : Bool :=
  (binarySet? name).isSome || (CharSet.words otherPropertyNames).contains name.toList

/-- The set that a property and one of its values stand for. Binary properties have no values here. -/
def valueSet (name value : String) : Except PropertyFault CharSet :=
  let loose := looseName name
  let looseValue := looseName value
  let known (found : Option (Except PropertyFault CharSet)) : Except PropertyFault CharSet :=
    found.getD (.error .value)
  if loose ∈ ["generalcategory", "gc"] then known (categorySet? looseValue)
  else if loose ∈ ["script", "sc"] then known (namedScript? scriptSet looseValue)
  else if loose ∈ ["scriptextensions", "scx"] then known (namedScript? scriptExtensionSet looseValue)
  else if loose = "age" then known ((ageSet? looseValue).map .ok)
  else if loose ∈ ["graphemeclusterbreak", "gcb"] then known ((graphemeSet? looseValue).map .ok)
  else if loose ∈ ["wordbreak", "wb"] then known ((wordClassSet? looseValue).map .ok)
  else if loose ∈ ["sentencebreak", "sb"] then known ((sentenceSet? looseValue).map .ok)
  else if isPropertyName loose then .error .value
  else .error .property

end Stencil.Unicode
