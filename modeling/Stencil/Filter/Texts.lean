import Stencil.Codec.Base64
import Stencil.Codec.Digest
import Stencil.Codec.Entity
import Stencil.Codec.Form
import Stencil.Decimal.Numeral
import Stencil.Engine.Run
import Stencil.Tag.Invocation
import Stencil.Tag.Reference
import Stencil.Text.Guard
import Stencil.Text.Lines
import Stencil.Text.Ordinal
import Stencil.Unicode.Case

/-!
# Filters on text

Filters that change the text of a value, or choose a text by it.
-/
namespace Stencil.Filter

open Stencil.Text Stencil.Tag

/-- The text of a value, changed; no value stays none. -/
def onText (change : List Char → List Char) (input : Option Value) : Option Value :=
  input.map fun v => .text (String.ofList (change v.display.toList))

def capitalize : List Char → List Char
  | [] => []
  | c :: rest => Unicode.upperChar c ++ rest

/-- How often the pad of an indentation is repeated, and the pad: once and a blank where the arguments do not
tell. -/
def padding (call : Invocation) : Nat × String :=
  let count := (call.argument? 0).bind fun a => Decimal.unsigned? 64 (trim a.toList)
  let pad := match call.argument? 1 with
    | some "" | none => " "
    | some pad => pad
  (count.getD 1, pad)

/-- Puts the padding in front of every line. It must fit into memory even where there is nothing to indent. -/
def indentBy (input : Option Value) (call : Invocation) : Run (Option Value) :=
  let (count, pad) := padding call
  if Nat.pow 2 63 ≤ byteLength pad.toList * count then .abort .capacityOverflow
  else
    return onText (fun s => indent (List.replicate count pad.toList).flatten s) input

/-- A mark for an attribute if the input is the first argument, blanks around them aside. -/
def mark (name : String) (input : Option Value) (call : Invocation) : Value :=
  let expected := trimmed ((call.argument? 0).getD "")
  let token := (call.argument? 1).getD (" " ++ name ++ "=\"" ++ name ++ "\"")
  .text (if trimmed (Value.displayOr input) = expected then token else "")

def wholeNumber? (v : Value) : Option Int := Decimal.signed? 64 (trim v.display.toList)

/-- One of the arguments, taken in turn by a whole number. Other values stay as they are. -/
def alternate (v : Value) (call : Invocation) : Value :=
  match wholeNumber? v with
  | none => v
  | some n =>
    let choices := match call.callArguments with
      | [] => ["even", "odd"]
      | choices => choices
    referenced (choices.getD (n % choices.length).toNat "")

def ordinal (v : Value) : Value :=
  match wholeNumber? v with
  | none => v
  | some n => .text (ordinalSuffix n)

def filled? (input : Option Value) : Option Value := input.filter (!·.isEmpty)

def firstArgument (call : Invocation) : Value := referenced ((call.argument? 0).getD "")

def ofHex (digest : List UInt8 → List UInt8) (s : List Char) : List Char :=
  Codec.Digest.hex (digest (utf8 s))

def ofBase64 (digest : List UInt8 → List UInt8) (s : List Char) : List Char :=
  Codec.Base64.encode (digest (utf8 s))

def base64Decode (v : Value) : Run Value :=
  match Codec.Base64.decodeText? v.display.toList with
  | some s => return .text (String.ofList s)
  | none => do
    .notice .notBase64
    return v

end Stencil.Filter
