import Stencil.Proofs.AliasLevel
import Stencil.Proofs.FormEncoding
import Stencil.Proofs.StockCall

/-!
# Encoders and their decoders

What base 64 writes for a group of bytes is read as that group, whatever follows, and the padding tells how short the
last group is. So both encodings are undone by their decoders, on all text, and so are the filters.
-/
namespace Stencil.Codec.Base64

open Stencil.Text

theorem value?_digit {n : Nat} (h : n < 64) : value? (digit n) = some n := by
  have hall : ∀ n : Fin 64, value? (digit n) = some n.val := by decide
  exact hall ⟨n, h⟩

theorem digit_ne_pad {n : Nat} (h : n < 64) : digit n ≠ '=' := by
  intro hpad
  have hvalue := value?_digit h
  rw [hpad] at hvalue
  exact absurd hvalue (by simp [value?])

theorem isBlank_digit {n : Nat} (h : n < 64) : isBlank (digit n) = false := by
  have hall : ∀ n : Fin 64, isBlank (digit n) = false := by decide
  exact hall ⟨n, h⟩

theorem decode?_digits {p q r s : Nat} (hp : p < 64) (hq : q < 64) (hr : r < 64) (hs : s < 64) (t : List Char) :
    decode? (digit p :: digit q :: digit r :: digit s :: t) =
      (decode? t).map fun bytes => (4 * p + q / 16).toUInt8 :: (q % 16 * 16 + r / 4).toUInt8 ::
        (r % 4 * 64 + s).toUInt8 :: bytes := by
  have hpad := digit_ne_pad hs
  rw [decode?]
  · rw [value?_digit hp, value?_digit hq, value?_digit hr, value?_digit hs]
    cases decode? t <;> rfl
  · intro _ hs' _
    exact hpad hs'
  · intro hs' _
    exact hpad hs'

theorem decode?_digits_pad {p q r : Nat} (hp : p < 64) (hq : q < 64) (hr : r < 64) (hrest : r % 4 = 0) :
    decode? [digit p, digit q, digit r, '='] =
      some [(4 * p + q / 16).toUInt8, (q % 16 * 16 + r / 4).toUInt8] := by
  rw [decode?]
  · rw [value?_digit hp, value?_digit hq, value?_digit hr]
    exact if_pos hrest
  · exact digit_ne_pad hr

theorem decode?_digits_pads {p q : Nat} (hp : p < 64) (hq : q < 64) (hrest : q % 16 = 0) :
    decode? [digit p, digit q, '=', '='] = some [(4 * p + q / 16).toUInt8] := by
  rw [decode?, value?_digit hp, value?_digit hq]
  exact if_pos hrest

theorem eq_toUInt8 {b : UInt8} {n : Nat} (h : n = b.toNat) : n.toUInt8 = b := by
  simp [h]

theorem decode?_encode (bytes : List UInt8) : decode? (encode bytes) = some bytes := by
  fun_induction encode bytes with
  | case1 a b c rest ih =>
    have ha : a.toNat < 256 := a.toNat_lt
    have hb : b.toNat < 256 := b.toNat_lt
    have hc : c.toNat < 256 := c.toNat_lt
    rw [decode?_digits (by omega) (by omega) (by omega) (by omega), ih, Option.map_some,
      eq_toUInt8 (b := a) (by omega), eq_toUInt8 (b := b) (by omega), eq_toUInt8 (b := c) (by omega)]
  | case2 a b =>
    have ha : a.toNat < 256 := a.toNat_lt
    have hb : b.toNat < 256 := b.toNat_lt
    rw [decode?_digits_pad (by omega) (by omega) (by omega) (by omega), eq_toUInt8 (b := a) (by omega),
      eq_toUInt8 (b := b) (by omega)]
  | case3 a =>
    have ha : a.toNat < 256 := a.toNat_lt
    rw [decode?_digits_pads (by omega) (by omega) (by omega), eq_toUInt8 (b := a) (by omega)]
  | case4 => rfl

theorem isBlank_of_mem_encode (bytes : List UInt8) : ∀ c ∈ encode bytes, isBlank c = false := by
  fun_induction encode bytes with
  | case1 a b c rest ih =>
    have ha : a.toNat < 256 := a.toNat_lt
    have hb : b.toNat < 256 := b.toNat_lt
    have hc : c.toNat < 256 := c.toNat_lt
    simp only [List.forall_mem_cons]
    exact ⟨isBlank_digit (by omega), isBlank_digit (by omega), isBlank_digit (by omega), isBlank_digit (by omega), ih⟩
  | case2 a b =>
    have ha : a.toNat < 256 := a.toNat_lt
    have hb : b.toNat < 256 := b.toNat_lt
    simp only [List.forall_mem_cons]
    exact ⟨isBlank_digit (by omega), isBlank_digit (by omega), isBlank_digit (by omega), rfl, List.forall_mem_nil _⟩
  | case3 a =>
    have ha : a.toNat < 256 := a.toNat_lt
    simp only [List.forall_mem_cons]
    exact ⟨isBlank_digit (by omega), isBlank_digit (by omega), rfl, rfl, List.forall_mem_nil _⟩
  | case4 => exact List.forall_mem_nil _

theorem decodeText?_encodeText (s : List Char) : decodeText? (encodeText s) = some s := by
  have htrim : trim (encodeText s) = encodeText s :=
    trim_of_ends (fun c hc => isBlank_of_mem_encode _ c (List.mem_of_mem_head? hc))
      (fun c hc => isBlank_of_mem_encode _ c (List.mem_of_getLast? hc))
  rw [decodeText?, htrim, encodeText, decode?_encode, Option.bind_some, ofUtf8?_utf8]

end Stencil.Codec.Base64

namespace Stencil.Filter

theorem onText_text (change : List Char → List Char) (s : String) :
    onText change (some (.text s)) = some (.text (String.ofList (change s.toList))) := rfl

theorem base64Decode_text (s : String) :
    base64Decode (.text s) =
      match Codec.Base64.decodeText? s.toList with
      | some t => pure (.text (String.ofList t))
      | none => Run.notice .notBase64 >>= fun _ => pure (.text s) := rfl

end Stencil.Filter

namespace Stencil.Engine

open Stencil.Text Stencil.Tag Stencil.Codec Stencil.Filter

/-- A call gives what its stock filter gives, if that is no snippet. -/
theorem filterStep_stock {e : Engine} (deeper : Unit → Level) {u : StockCall}
    (h : e.LeavesStock (Unicode.lowercase (String.ofList u.name.chars))) {v w : Option Value} (hw : Settled w)
    (happly : u.stock.apply (settle deeper) v (Invocation.parse u.text) = pure w) :
    e.filterStep deeper v u.text = pure w := by
  rw [filterStep, applyFilter_stock deeper h, happly, pure_bind]
  exact settleOption_of_settled deeper hw

theorem evaluateChain_call {e : Engine} (r : Resolver) {u : StockCall}
    (h : e.LeavesStock (Unicode.lowercase (String.ofList u.name.chars))) {v w : Option Value} (hw : Settled w)
    (happly : u.stock.apply (settle (e.deeper r)) v (Invocation.parse u.text) = pure w) :
    e.evaluateChain r u.text v = pure w := by
  have hfilters : filters u.text = [u.text] := by
    have hchain := filters_chain (List.cons_ne_nil u [])
    rwa [StockCall.chain, List.map_singleton, bars_singleton] at hchain
  rw [evaluateChain_single e r hfilters u.text_ne_empty]
  exact filterStep_stock (e.deeper r) h hw happly

/-- The second of two calls is applied to what the first one gives. -/
theorem evaluateChain_pair {e : Engine} (r : Resolver) {u u' : StockCall}
    (hu : e.LeavesStock (Unicode.lowercase (String.ofList u.name.chars)))
    (hu' : e.LeavesStock (Unicode.lowercase (String.ofList u'.name.chars))) {v w x : Option Value}
    (hv : Settled v) (hw : Settled w) (hx : Settled x)
    (hfirst : u.stock.apply (settle (e.deeper r)) v (Invocation.parse u.text) = pure w)
    (hsecond : u'.stock.apply (settle (e.deeper r)) w (Invocation.parse u'.text) = pure x) :
    e.evaluateChain r (StockCall.chain [u, u']) v = pure x := by
  have htexts : ∀ f ∈ [u, u'].map StockCall.text, f ≠ "" := by
    simp [u.text_ne_empty, u'.text_ne_empty]
  rw [evaluateChain_of_settled hv, applyChain_of_filters e _ (filters_chain (by simp)) htexts,
    List.map_cons, List.foldlM_cons, filterStep_stock _ hu hw hfirst, pure_bind, List.map_singleton,
    List.foldlM_cons, filterStep_stock _ hu' hx hsecond, pure_bind]
  rfl

theorem settled_text (s : String) : Settled (some (.text s)) := by simp [Settled]

/-- Where the second of two calls undoes what the first one does to a text, their chain leaves the text as it is. -/
theorem evaluateChain_undone {e : Engine} (r : Resolver) {u u' : StockCall} {name name' : String}
    (hname : Unicode.lowercase (String.ofList u.name.chars) = name)
    (hname' : Unicode.lowercase (String.ofList u'.name.chars) = name')
    (hu : e.LeavesStock name) (hu' : e.LeavesStock name') {s t : String}
    (hdo : u.stock.apply (settle (e.deeper r)) (some (.text s)) (Invocation.parse u.text) =
      pure (some (.text t)))
    (hundo : u'.stock.apply (settle (e.deeper r)) (some (.text t)) (Invocation.parse u'.text) =
      pure (some (.text s))) :
    e.evaluateChain r (StockCall.chain [u, u']) (some (.text s)) = pure (some (.text s)) :=
  evaluateChain_pair r (hname ▸ hu) (hname' ▸ hu') (settled_text s) (settled_text t) (settled_text s) hdo hundo

def bareCall (name : String) (stock : Stock) (nonempty : name.toList ≠ [] := by decide)
    (valid : name.toList.all isNameChar = true := by decide)
    (known : Stock.ofName? (Unicode.lowercase (String.ofList name.toList)) = some stock := by decide) :
    StockCall where
  name := ⟨name.toList, nonempty, List.all_eq_true.mp valid⟩
  stock := stock
  known := known
  arguments := none

/-- A filter under one of its names, which is in lower case, and without arguments. -/
theorem evaluateChain_named {e : Engine} (r : Resolver) {u : StockCall} {name : String} (htext : u.text = name)
    (hname : Unicode.lowercase (String.ofList u.name.chars) = name) (h : e.LeavesStock name) {v w : Option Value}
    (hw : Settled w) (happly : ∀ call, u.stock.apply (settle (e.deeper r)) v call = pure w) :
    e.evaluateChain r name v = pure w := by
  rw [← htext]
  exact evaluateChain_call r (hname ▸ h) hw (happly _)

/-- Form encoding and base 64 are undone by their decoders, and so are the filters. Form-encoded text consists of
letters and digits of ASCII and the six marks of the encoding. The encodings and decodings are those of the filters. -/
theorem evaluateChain_decoded (e : Engine) (r : Resolver) (s : String) :
    (Form.decode (Form.encode s.toList) = s.toList ∧
      ∀ c ∈ Form.encode s.toList, c.isAlphanum = true ∨ c ∈ ['*', '-', '.', '_', '+', '%']) ∧
    Base64.decodeText? (Base64.encodeText s.toList) = some s.toList ∧
    (e.LeavesStock "urlencode" → e.LeavesStock "urldecode" →
      e.evaluateChain r "urlencode|urldecode" (some (.text s)) = pure (some (.text s))) ∧
    (e.LeavesStock "base64" → e.LeavesStock "base64decode" →
      e.evaluateChain r "base64|base64decode" (some (.text s)) = pure (some (.text s))) ∧
    (e.LeavesStock "urlencode" → e.evaluateChain r "urlencode" (some (.text s)) =
      pure (some (.text (String.ofList (Form.encode s.toList))))) ∧
    (e.LeavesStock "urldecode" → e.evaluateChain r "urldecode" (some (.text s)) =
      pure (some (.text (String.ofList (Form.decode s.toList))))) ∧
    (e.LeavesStock "base64" → e.evaluateChain r "base64" (some (.text s)) =
      pure (some (.text (String.ofList (Base64.encodeText s.toList))))) ∧
    (e.LeavesStock "base64decode" → ∀ t, Base64.decodeText? s.toList = some t →
      e.evaluateChain r "base64decode" (some (.text s)) = pure (some (.text (String.ofList t)))) := by
  have hform : Form.decode (Form.encode s.toList) = s.toList := Form.decode_encode s.toList
  have hbase64 : Base64.decodeText? (Base64.encodeText s.toList) = some s.toList :=
    Base64.decodeText?_encodeText s.toList
  have hdecoded (s : String) (t : List Char) (ht : Base64.decodeText? s.toList = some t) :
      (some (Value.text s)).mapM Filter.base64Decode = pure (some (.text (String.ofList t))) := by
    rw [Option.mapM_some, base64Decode_text, ht]
    rfl
  refine ⟨⟨hform, fun c hc => ?_⟩, hbase64, fun hencode hdecode => ?_, fun hencode hdecode => ?_, fun h => ?_,
    fun h => ?_, fun h => ?_, fun h t ht => ?_⟩
  · simpa [Form.isWritten, Form.isPlain, or_assoc] using Form.isWritten_of_mem_encode hc
  · have hchain : StockCall.chain [bareCall "urlencode" .urlEncode, bareCall "urldecode" .urlDecode] =
        "urlencode|urldecode" := by decide
    have hundo : onText Form.decode (some (.text (String.ofList (Form.encode s.toList)))) = some (.text s) := by
      rw [onText_text, String.toList_ofList, hform, String.ofList_toList]
    rw [← hchain]
    exact evaluateChain_undone r (by decide) (by decide) hencode hdecode rfl (congrArg pure hundo)
  · have hchain : StockCall.chain [bareCall "base64" .base64, bareCall "base64decode" .base64Decode] =
        "base64|base64decode" := by decide
    have hundo := hdecoded (String.ofList (Base64.encodeText s.toList)) s.toList (by rwa [String.toList_ofList])
    rw [String.ofList_toList] at hundo
    rw [← hchain]
    exact evaluateChain_undone r (by decide) (by decide) hencode hdecode rfl hundo
  · have hname : (bareCall "urlencode" .urlEncode).text = "urlencode" := by decide
    exact evaluateChain_named r hname (by decide) h (settled_text _) fun _ => rfl
  · have hname : (bareCall "urldecode" .urlDecode).text = "urldecode" := by decide
    exact evaluateChain_named r hname (by decide) h (settled_text _) fun _ => rfl
  · have hname : (bareCall "base64" .base64).text = "base64" := by decide
    exact evaluateChain_named r hname (by decide) h (settled_text _) fun _ => rfl
  · have hname : (bareCall "base64decode" .base64Decode).text = "base64decode" := by decide
    exact evaluateChain_named r hname (by decide) h (settled_text _) fun _ => hdecoded s t ht

/-- A text with both signs of the encoding, blanks and a character of three bytes. -/
theorem evaluateChain_decoded_signs :
    standard.LeavesStock "urlencode" ∧ standard.LeavesStock "urldecode" ∧
    standard.LeavesStock "base64" ∧ standard.LeavesStock "base64decode" ∧
    Form.encode " +%  €".toList = "+%2B%25++%E2%82%AC".toList ∧
    Base64.encodeText " +%  €".toList = "ICslICDigqw=".toList ∧
    standard.evaluateChain silent "urlencode|urldecode" (some (.text " +%  €")) = pure (some (.text " +%  €")) ∧
    standard.evaluateChain silent "base64|base64decode" (some (.text " +%  €")) = pure (some (.text " +%  €")) ∧
    standard.evaluateChain silent "urlencode" (some (.text " +%  €")) = pure (some (.text "+%2B%25++%E2%82%AC")) ∧
    standard.evaluateChain silent "base64decode" (some (.text "ICslICDigqw=")) = pure (some (.text " +%  €")) := by
  have hleaves (name : String) : standard.LeavesStock name := ⟨rfl, rfl⟩
  have hform : Form.encode " +%  €".toList = "+%2B%25++%E2%82%AC".toList := by decide +kernel
  have hbase64 : Base64.encodeText " +%  €".toList = "ICslICDigqw=".toList := by decide +kernel
  obtain ⟨-, hundone, hforms, hbase64s, hencode, -⟩ := evaluateChain_decoded standard silent " +%  €"
  obtain ⟨-, -, -, -, -, -, -, hdecode⟩ := evaluateChain_decoded standard silent "ICslICDigqw="
  refine ⟨hleaves _, hleaves _, hleaves _, hleaves _, hform, hbase64, hforms (hleaves _) (hleaves _),
    hbase64s (hleaves _) (hleaves _), ?_, ?_⟩
  · rw [hencode (hleaves _), hform, String.ofList_toList]
  · rw [hbase64] at hundone
    rw [hdecode (hleaves _) _ hundone, String.ofList_toList]

end Stencil.Engine
