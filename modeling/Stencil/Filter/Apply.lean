import Stencil.Filter.Matches
import Stencil.Filter.Numbers
import Stencil.Filter.Stock
import Stencil.Value.Slice

/-!
# Applying stock filters

What each stock filter does to a value that may be absent.
-/
namespace Stencil.Stock

open Stencil.Filter Stencil.Tag

/-- Applies a filter. Most leave an absent value absent. `settle` turns references into text. -/
def apply (settle : Value → Run Value) (f : Stock) (input : Option Value) (call : Invocation) :
    Run (Option Value) :=
  match f with
  | substitute => return input.map fun v => Filter.substitute v call
  | onMatch => some <$> Filter.onMatch input call
  | slice => return input.map (Value.slice (.parse call.callArguments))
  | reverse => return input.map (Value.slice .reverse)
  | join => return input.map (Filter.join ((call.argument? 0).getD ""))
  | get => return input.bind (Filter.get ((call.argument? 0).getD ""))
  | split => input.mapM fun v => Filter.split v call
  | length => return some (.text (toString (Filter.length input)))
  | sort => return input.map Filter.sort
  | trim => return onText Text.trim input
  | quote => return onText Text.quote input
  | upper => return onText Unicode.upper input
  | lower => return onText Unicode.lower input
  | capitalize => return onText Filter.capitalize input
  | indent => indentBy input call
  | defang => return onText Text.harmless input
  | selected => return some (mark "selected" input call)
  | checked => return some (mark "checked" input call)
  | alternate => return input.map fun v => Filter.alternate v call
  | ordinal => return input.map Filter.ordinal
  | onDefined => return (filled? input).map fun _ => firstArgument call
  | default => return some ((filled? input).getD (firstArgument call))
  | type => return some (.text (Value.kindOr input))
  | xmlEscape => return onText Codec.Entity.escape input
  | xmlUnescape => return onText Codec.Entity.unescape input
  | sprintf => return Filter.sprintf input call
  | quickCalculate => return input.map fun v => Filter.quickCalculate v call
  | calculate => input.mapM fun v => Filter.calculate settle v call
  | base64 => return onText Codec.Base64.encodeText input
  | base64Decode => input.mapM Filter.base64Decode
  | md5 => return onText (ofHex Codec.Digest.md5) input
  | md5Base64 => return onText (ofBase64 Codec.Digest.md5) input
  | sha1 => return onText (ofHex Codec.Digest.sha1) input
  | sha1Base64 => return onText (ofBase64 Codec.Digest.sha1) input
  | urlEncode => return onText Codec.Form.encode input
  | urlDecode => return onText Codec.Form.decode input

end Stencil.Stock
