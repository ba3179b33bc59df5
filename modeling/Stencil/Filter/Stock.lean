import Stencil.Table

/-!
# Stock filters

The filters that every engine has, with their names.
-/
namespace Stencil

inductive Stock where
  | substitute | onMatch | slice | reverse | join | get | split | length | sort
  | trim | quote | upper | lower | capitalize | indent | defang
  | selected | checked | alternate | ordinal | onDefined | default | type
  | xmlEscape | xmlUnescape | sprintf | quickCalculate | calculate
  | base64 | base64Decode | md5 | md5Base64 | sha1 | sha1Base64 | urlEncode | urlDecode
  deriving DecidableEq, Repr

namespace Stock

def all : List Stock :=
  [substitute, onMatch, slice, reverse, join, get, split, length, sort, trim, quote, upper, lower,
    capitalize, indent, defang, selected, checked, alternate, ordinal, onDefined, default, type,
    xmlEscape, xmlUnescape, sprintf, quickCalculate, calculate, base64, base64Decode, md5, md5Base64,
    sha1, sha1Base64, urlEncode, urlDecode]

/-- The names of a filter. A substitution may do without its letter, and then has the empty name. -/
def names : Stock → List String
  | substitute => ["s", ""]
  | onMatch => ["onmatch"]
  | slice => ["slice"]
  | reverse => ["reverse"]
  | join => ["join"]
  | get => ["get"]
  | split => ["split"]
  | length => ["length", "len", "size"]
  | sort => ["sort"]
  | trim => ["trim"]
  | quote => ["qs", "quoted", "escapequotes"]
  | upper => ["upper", "uc"]
  | lower => ["lower", "lc"]
  | capitalize => ["capitalize", "cap"]
  | indent => ["indent"]
  | defang => ["defang", "noxss"]
  | selected => ["selected"]
  | checked => ["checked"]
  | alternate => ["alternate", "evenodd"]
  | ordinal => ["th", "ord"]
  | onDefined => ["ondefined"]
  | default => ["default"]
  | type => ["type"]
  | xmlEscape => ["xmlescape", "escapexml", "html"]
  | xmlUnescape => ["unescapexml"]
  | sprintf => ["sprintf"]
  | quickCalculate => ["qcalc"]
  | calculate => ["calc"]
  | base64 => ["base64"]
  | base64Decode => ["base64decode"]
  | md5 => ["md5"]
  | md5Base64 => ["md5base64"]
  | sha1 => ["sha1"]
  | sha1Base64 => ["sha1base64"]
  | urlEncode => ["urlencode"]
  | urlDecode => ["urldecode"]

/-- The filter with a name, which is in lower case. -/
def ofName? (name : String) : Option Stock := all.find? fun f => name ∈ f.names

def sortedNames : List String :=
  ((all.flatMap names).filter (· ≠ "")).mergeSort (· ≤ ·)

end Stock

end Stencil
