import Stencil.Proofs.Parallel

/-!
# Segments that are sub-references

A sub-reference between two plain segments of a path is one segment, whatever stands between its backticks: what
follows the path is read as if it followed any other, and the resolver is asked for the text that the
sub-reference renders to, as one segment.
-/
namespace Stencil.Tag

open Stencil.Text Expression

def isSegmentChar (c : Char) : Bool := c.isAlphanum || c == '_' || c == '-'

theorem isInert_of_isSegmentChar {c : Char} (h : isSegmentChar c = true) : isInert c = true ∧ c ≠ ':' := by
  refine ⟨?_, ne_of_class h (by decide)⟩
  have hne : c ∉ ['\\', '\x60', '(', '|'] := not_mem_of_class h (by decide)
  simpa [isInert] using hne

theorem isBlank_of_isSegmentChar {c : Char} (h : isSegmentChar c = true) : isBlank c = false := by
  apply Grammar.isBlank_of_isNameChar
  simp only [isSegmentChar, isNameChar, Bool.or_eq_true] at h ⊢
  tauto

theorem ne_separator_of_isSegmentChar {c : Char} (h : isSegmentChar c = true) : c ≠ '.' ∧ c ≠ '\x60' :=
  ⟨ne_of_class h (by decide), ne_of_class h (by decide)⟩

def backticked (q : List Char) : List Char := '\x60' :: (q ++ ['\x60'])

def referencePath (a q c : List Char) : List Char := a ++ '.' :: (backticked q ++ '.' :: c)

theorem backticked_append (q t : List Char) : backticked q ++ t = '\x60' :: (q ++ '\x60' :: t) := by
  simp [backticked]

theorem breakPath_backticked {stop : Char → Bool} (hstop : stop '\x60' = false) {q : List Char}
    (hq : Guarded '\x60' q) (t : List Char) :
    breakPath stop (backticked q ++ t) = (backticked q ++ (breakPath stop t).1, (breakPath stop t).2) := by
  have hspan : pathSpan '\x60' (q ++ '\x60' :: t) = (q ++ ['\x60'], t) := by
    rw [pathSpan, if_neg (by decide), if_pos rfl, hq.through?]
    rfl
  rw [backticked_append, breakPath, if_neg (by simp [hstop]), hspan]
  rfl

theorem splitDots_backticked {q : List Char} (hq : Guarded '\x60' q) (t : List Char) :
    splitDots (backticked q ++ t) = (backticked q ++ (splitDots t).1, (splitDots t).2) := by
  rw [backticked_append, splitDots, if_neg (by decide)]
  simp [hq.through?, backticked]

section Path

variable {a q c : List Char} (hne : a ≠ []) (ha : ∀ x ∈ a, isSegmentChar x = true)
  (hc : ∀ x ∈ c, isSegmentChar x = true) (hq : Guarded '\x60' q)
include ha hc hq

theorem breakPath_referencePath {t : List Char} (ht : Stops t) :
    breakPath (fun x => x == ':' || x == '|') (referencePath a q c ++ t) = (referencePath a q c, t) := by
  have hinert {s : List Char} (hs : ∀ x ∈ s, isSegmentChar x = true) {x : Char} (hx : x ∈ s) :
      isInert x = true ∧ (x == ':' || x == '|') = false := by
    obtain ⟨hx, hcolon⟩ := isInert_of_isSegmentChar (hs x hx)
    exact ⟨hx, by simp [hcolon, isInert_ne hx (d := '|') (by simp)]⟩
  have hdot : isInert '.' = true ∧ ('.' == ':' || '.' == '|') = false := by decide
  have hbefore : ∀ x ∈ a ++ ['.'], isInert x = true ∧ (x == ':' || x == '|') = false := by
    intro x hx
    rcases List.mem_append.mp hx with hx | hx
    · exact hinert ha hx
    · exact List.mem_singleton.mp hx ▸ hdot
  have hafter : ∀ x ∈ '.' :: c, isInert x = true ∧ (x == ':' || x == '|') = false :=
    List.forall_mem_cons.mpr ⟨hdot, fun x hx => hinert hc hx⟩
  have htail : breakPath (fun x => x == ':' || x == '|') ('.' :: c ++ t) = ('.' :: c, t) :=
    breakPath_inert hafter ht fun x hx => by rcases ht x hx with rfl | rfl <;> rfl
  have hsplit : referencePath a q c ++ t = a ++ ['.'] ++ (backticked q ++ ('.' :: c ++ t)) := by
    simp [referencePath]
  rw [hsplit, breakPath_inert_append hbefore (by simp [backticked]), breakPath_backticked (by decide) hq, htail]
  simp [referencePath]

include hne

omit hq in
theorem trim_referencePath : trim (referencePath a q c) = referencePath a q c := by
  obtain ⟨x, a, rfl⟩ := List.exists_cons_of_ne_nil hne
  apply trim_of_ends
  · simpa [referencePath] using isBlank_of_isSegmentChar (ha x (by simp))
  · intro y hy
    have hsplit : referencePath (x :: a) q c = x :: a ++ '.' :: backticked q ++ '.' :: c := by
      simp [referencePath]
    rw [hsplit, List.getLast?_append_of_ne_nil _ (List.cons_ne_nil _ _)] at hy
    rcases List.mem_cons.mp (List.mem_of_getLast? hy) with rfl | hmem
    · decide
    · exact isBlank_of_isSegmentChar (hc y hmem)

theorem segmentsOf_referencePath :
    segmentsOf (referencePath a q c) =
      [String.ofList a, String.ofList (backticked q), String.ofList c] := by
  have hplain {s : List Char} (hs : ∀ x ∈ s, isSegmentChar x = true) : ∀ x ∈ s, x ≠ '.' ∧ x ≠ '\x60' :=
    fun x hx => ne_separator_of_isSegmentChar (hs x hx)
  have hdot : splitDots ('.' :: c) = ([], [c]) := by
    rw [splitDots, if_pos rfl, splitDots_plain (hplain hc)]
  have hsplit : splitDots (referencePath a q c) = (a, [backticked q, c]) := by
    rw [referencePath, splitDots_append_dot (hplain ha), splitDots_backticked hq, hdot, List.append_nil]
  unfold segmentsOf
  split
  · next rest h =>
    rw [h, splitDots, if_pos rfl] at hsplit
    exact absurd (Prod.mk.inj hsplit).1.symm hne
  · rw [hsplit]
    rfl

theorem ofChars_referencePath {t : List Char} (ht : Stops t) :
    ofChars (referencePath a q c ++ t) =
      { ofChars t with path := [String.ofList a, String.ofList (backticked q), String.ofList c] } := by
  have hnothing : breakPath (fun x => x == ':' || x == '|') t = ([], t) :=
    breakPath_stop fun x hx => by rcases ht x hx with rfl | rfl <;> rfl
  have hread := breakPath_referencePath ha hc hq ht
  unfold ofChars
  rw [hread, hnothing]
  dsimp only
  rw [trim_referencePath hne ha hc, segmentsOf_referencePath hne ha hc hq]
  split
  · split <;> rfl
  · rfl
  · rfl

end Path

theorem inner?_backticked (q : List Char) : inner? (backticked q) = some q := by
  simp [inner?, backticked]

end Stencil.Tag

namespace Stencil.Engine

open Stencil.Text Stencil.Tag

section Question

variable (e : Engine) (r : Resolver) (deeper : Unit → Level)

def braced (s : List Char) : String := String.ofList ('\x7b' :: (s ++ ['\x7d']))

theorem expandPath_reference {a q c : List Char} (ha : '\x60' ∉ a) (hc : '\x60' ∉ c) :
    expandPath deeper [String.ofList a, String.ofList (backticked q), String.ofList c] =
      (deeper ()).renderTag (braced q) >>= fun t => pure [String.ofList a, t, String.ofList c] := by
  have hbraced : "\x7b" ++ String.ofList q ++ "\x7d" = braced q := by
    rw [← String.toList_inj]
    simp [braced]
  rw [expandPath_eq]
  simp [String.toList_ofList, inner?_eq_none ha, inner?_eq_none hc, inner?_backticked, hbraced]

theorem evaluate_value (depth : Nat) (s : List Char) :
    e.evaluate r depth deeper (String.ofList ('~' :: s)) =
      Run.event (.tag (String.ofList ('~' :: s))) >>= fun _ =>
        e.evaluateExpression r depth deeper '~' (.ofChars s) := by
  have hconditional : isConditional '~' s = false := rfl
  rw [evaluate, String.toList_ofList]
  refine bind_congr fun _ => ?_
  dsimp only
  rw [hconditional, if_neg (by decide), evaluatePlain, String.toList_ofList]
  dsimp only
  rw [if_neg (by decide), if_neg (by decide)]

/-- A tag whose path has a sub-reference first renders this, one level deeper, and then asks the resolver for
the three segments. -/
theorem evaluate_reference (depth : Nat) {a q c t : List Char} (hne : a ≠ [])
    (ha : ∀ x ∈ a, isSegmentChar x = true) (hc : ∀ x ∈ c, isSegmentChar x = true)
    (hq : Guarded '\x60' q) (ht : Stops t) :
    e.evaluate r depth deeper (String.ofList ('~' :: (referencePath a q c ++ t))) =
      (do
        Run.event (.tag (String.ofList ('~' :: (referencePath a q c ++ t))))
        let text ← (deeper ()).renderTag (braced q)
        let found ← ask r [String.ofList a, text, String.ofList c] depth
        let value ← settleOption deeper found
        let output ← e.outputOf deeper (.ofChars t) value
        settleOption deeper output) := by
  have hback {s : List Char} (hs : ∀ x ∈ s, isSegmentChar x = true) : '\x60' ∉ s :=
    fun hmem => (ne_separator_of_isSegmentChar (hs _ hmem)).2 rfl
  rw [evaluate_value, evaluateExpression_eq, ofChars_referencePath hne ha hc hq ht]
  refine bind_congr fun _ => ?_
  rw [expandPath_reference deeper (hback ha) (hback hc), bind_assoc]
  refine bind_congr fun text => ?_
  rw [pure_bind, question, if_neg (by decide)]
  rfl

/-- Where a sub-reference between two plain segments renders to a text, the next question is for the path of
three segments that has this text in the middle. What follows the path, a chain or a default or both, is read as
it is read behind any path. -/
theorem evaluateTag_reference {a q c t : List Char} (hne : a ≠ [])
    (ha : ∀ x ∈ a, isSegmentChar x = true) (hc : ∀ x ∈ c, isSegmentChar x = true)
    (hq : '\x60' ∉ q ∧ '\\' ∉ q) (ht : Stops t) :
    (∀ depth deeper, e.evaluate r depth deeper (String.ofList ('~' :: (referencePath a q c ++ t))) =
      (do
        Run.event (.tag (String.ofList ('~' :: (referencePath a q c ++ t))))
        let text ← (deeper ()).renderTag (braced q)
        let found ← ask r [String.ofList a, text, String.ofList c] depth
        let value ← settleOption deeper found
        let output ← e.outputOf deeper (.ofChars t) value
        settleOption deeper output)) ∧
    ∀ text, ((e.deeper r ()).renderTag (braced q)).outcome = .ok text →
      ∃ later, (e.evaluateTag r (braced ('~' :: (referencePath a q c ++ t)))).events =
        .tag (String.ofList ('~' :: (referencePath a q c ++ t))) ::
          (((e.deeper r ()).renderTag (braced q)).events ++
            .resolve [String.ofList a, text, String.ofList c] 0 :: later) := by
  have hguarded : Guarded '\x60' q := guarded_of_not_mem hq.1 hq.2
  refine ⟨fun depth deeper => evaluate_reference e r deeper depth hne ha hc hguarded ht, ?_⟩
  intro text htext
  rw [evaluateTag, braced, tagBody_braces, evaluate_reference e r (e.deeper r) 0 hne ha hc hguarded ht,
    Run.events_bind, Run.events_bind, htext]
  exact ⟨_, rfl⟩

end Question

def separators : Resolver where
  resolve path _ := if path = ["who", "name"] then some (.text "x.y|z:\x60") else none
  template _ _ := none

theorem evaluateTag_reference_separators :
    "users".toList ≠ [] ∧ (∀ x ∈ "users".toList, isSegmentChar x = true) ∧
    (∀ x ∈ "age".toList, isSegmentChar x = true) ∧
    ('\x60' ∉ "~who.name|upper:(a.b)".toList ∧ '\\' ∉ "~who.name|upper:(a.b)".toList) ∧
    Stops "|length:none".toList ∧
    ((standard.deeper separators ()).renderTag "\x7b~who.name|upper:(a.b)\x7d").outcome =
      .ok "X.Y|Z:\x60" ∧
    ∃ later, (standard.evaluateTag separators
        "\x7b~users.\x60~who.name|upper:(a.b)\x60.age|length:none\x7d").events =
      [.tag "~users.\x60~who.name|upper:(a.b)\x60.age|length:none", .tag "~who.name|upper:(a.b)",
        .resolve ["who", "name"] 1, .resolve ["users", "X.Y|Z:\x60", "age"] 0] ++ later := by
  have hne : "users".toList ≠ [] := by decide
  have ha : ∀ x ∈ "users".toList, isSegmentChar x = true := List.all_eq_true.mp (by decide)
  have hc : ∀ x ∈ "age".toList, isSegmentChar x = true := List.all_eq_true.mp (by decide)
  have hq : '\x60' ∉ "~who.name|upper:(a.b)".toList ∧ '\\' ∉ "~who.name|upper:(a.b)".toList := by decide
  have ht : Stops "|length:none".toList := stops_pipe _
  have hinner : braced "~who.name|upper:(a.b)".toList = "\x7b~who.name|upper:(a.b)\x7d" := by decide
  have htag : String.ofList ('~' :: (referencePath "users".toList "~who.name|upper:(a.b)".toList "age".toList ++
      "|length:none".toList)) = "~users.\x60~who.name|upper:(a.b)\x60.age|length:none" := by decide
  have houter : braced ('~' :: (referencePath "users".toList "~who.name|upper:(a.b)".toList "age".toList ++
      "|length:none".toList)) = "\x7b~users.\x60~who.name|upper:(a.b)\x60.age|length:none\x7d" := by decide
  have htext : ((standard.deeper separators ()).renderTag "\x7b~who.name|upper:(a.b)\x7d").outcome =
      .ok "X.Y|Z:\x60" := by decide +kernel
  have hevents : ((standard.deeper separators ()).renderTag "\x7b~who.name|upper:(a.b)\x7d").events =
      [.tag "~who.name|upper:(a.b)", .resolve ["who", "name"] 1] := by decide +kernel
  have hquestion := (evaluateTag_reference standard separators hne ha hc hq ht).2
  rw [hinner, htag, houter, hevents] at hquestion
  exact ⟨hne, ha, hc, hq, ht, htext, hquestion _ htext⟩

/-- Behind the sigil a dot begins the name of a command, so that a path whose first segment is empty is not
split: the resolver is asked for it in one piece, with the reference as it is written. -/
theorem reference_behind_nothing :
    ((standard.deeper separators ()).renderTag "\x7b~who.name\x7d").outcome = .ok "x.y|z:\x60" ∧
    (standard.evaluateTag separators "\x7b~.\x60~who.name\x60.age\x7d").events =
      [.tag "~.\x60~who.name\x60.age", .resolve [".\x60~who.name\x60.age"] 0] ∧
    Event.resolve ["", "x.y|z:\x60", "age"] 0 ∉
      (standard.evaluateTag separators "\x7b~.\x60~who.name\x60.age\x7d").events := by
  decide +kernel

end Stencil.Engine
