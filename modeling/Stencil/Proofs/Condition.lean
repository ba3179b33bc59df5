import Stencil.Proofs.Invocation
import Stencil.Proofs.LiteralPattern
import Stencil.Proofs.TagText

/-!
# Written conditions

A conditional include that compares a name with a quoted text, or with another name, is read as these. The
tag that stands for it is a written filter behind the name.
-/
namespace Stencil.Tag

open Stencil.Text Stencil.Unicode Grammar

def isPathChar (c : Char) : Bool := isAlphanumeric c || c == '_' || c == '.' || c == '-'

def Accepted (name : String) : Prop := nameOf? name.toList = some name

instance (name : String) : Decidable (Accepted name) :=
  inferInstanceAs (Decidable (nameOf? name.toList = some name))

namespace Accepted

variable {name : String} (h : Accepted name)
include h

theorem facts : trim (dropSigil name.toList) = name.toList ∧ name.toList ≠ [] ∧
    ∀ c ∈ name.toList, isPathChar c = true := by
  rw [Accepted, nameOf?] at h
  split at h
  · next hvalid =>
    have hname := congrArg String.toList (Option.some.inj h)
    rw [String.toList_ofList] at hname
    rw [hname] at hvalid
    exact ⟨hname, hvalid.1, List.all_eq_true.mp hvalid.2⟩
  · simp at h

theorem ne_nil : name.toList ≠ [] := h.facts.2.1

theorem isPathChar : ∀ c ∈ name.toList, isPathChar c = true := h.facts.2.2

theorem ne {d : Char} (hd : Tag.isPathChar d = false) : ∀ c ∈ name.toList, c ≠ d :=
  fun c hc => ne_of_class (h.isPathChar c hc) hd

theorem dropSigil_eq : dropSigil name.toList = name.toList := by
  have hfirst : ∀ c ∈ name.toList.head?, c ≠ '~' ∧ c ≠ '$' := by
    intro c hc
    have hmem := List.mem_of_mem_head? hc
    exact ⟨h.ne (by decide) c hmem, h.ne (by decide) c hmem⟩
  unfold dropSigil
  split
  · next rest hs => exact absurd rfl (hfirst '~' (by simp [hs])).1
  · next rest hs => exact absurd rfl (hfirst '$' (by simp [hs])).2
  · rfl

theorem trim_eq : trim name.toList = name.toList := by
  have htrim := h.facts.1
  rwa [h.dropSigil_eq] at htrim

theorem trimEnd_eq : trimEnd name.toList = name.toList := trimEnd_of_trim h.trim_eq

theorem isPlain : ∀ c ∈ name.toList, isPlain c = true := by
  intro c hc
  have hne : c ∉ ['\\', '"', '(', ')', '[', ']', '\x7b', '\x7d', ','] :=
    not_mem_of_class (h.isPathChar c hc) (by decide)
  simpa [Text.isPlain] using hne

theorem isInert : ∀ c ∈ name.toList, isInert c = true ∧ c ≠ ':' := by
  intro c hc
  refine ⟨?_, h.ne (by decide) c hc⟩
  have hne : c ∉ ['\\', '\x60', '(', '|'] := not_mem_of_class (h.isPathChar c hc) (by decide)
  simpa [Tag.isInert] using hne

/-- A name is read behind its sigil. -/
theorem nameOf?_sigil : nameOf? ('~' :: name.toList) = some name := by
  have haccepted := h
  rw [Accepted, nameOf?, h.dropSigil_eq] at haccepted
  exact haccepted

end Accepted

/-- A name that a condition accepts and that is no command. -/
structure PathName where
  text : String
  accepted : nameOf? text.toList = some text
  noCommand : text.toList.head? ≠ some '.'

theorem PathName.isAccepted (n : PathName) : Accepted n.text := n.accepted

theorem isPlain_plus {s : List Char} (h : ∀ c ∈ s, isPlain c = true) :
    ∀ c ∈ '+' :: s, isPlain c = true :=
  List.forall_mem_cons.mpr ⟨by decide, h⟩

theorem trimStart_plus (s : List Char) : (trimStart ('+' :: s)).head? ≠ some '/' := by
  rw [trimStart_of_head (by simp [isBlank])]
  simp

/-- What a conditional include includes: the name of a template, with what else may stand behind a plus. -/
structure Target where
  chars : List Char
  nonempty : chars ≠ []
  trimmed : trim chars = chars
  plain : ∀ c ∈ chars, isPlain c = true
  noDot : chars.head? ≠ some '.'

namespace Target

variable (t : Target)

def text : String := String.ofList t.chars

def output : Plain := ⟨'+' :: t.chars, isPlain_plus t.plain, trimStart_plus _⟩

end Target

def Segment.target (s : Segment) : Target where
  chars := s.chars
  nonempty := s.nonempty
  trimmed := trim_nameChars fun c hc => (s.isNameChar c hc).1
  plain c hc := by
    have hne : c ∉ ['\\', '"', '(', ')', '[', ']', '\x7b', '\x7d', ','] :=
      not_mem_of_class (s.isNameChar c hc).1 (by decide)
    simpa [isPlain] using hne
  noDot hdot := (s.isNameChar '.' (List.mem_of_mem_head? (Option.mem_def.mpr hdot))).2 rfl

structure TemplateName extends Segment where
  start : ∀ c ∈ chars.head?, (c.isAlpha || c == '_') = true

namespace TemplateName

variable (t : TemplateName)

theorem isReference : isReference ('+' :: t.chars) = true := by
  obtain ⟨c, rest, h⟩ := List.exists_cons_of_ne_nil t.nonempty
  have hstart := t.start c (by simp [h])
  have hc : (isAlphabetic c || c == '_') = true := by
    rcases Bool.or_eq_true_iff.mp hstart with hletter | hline
    · have halnum : c.isAlphanum = true := Bool.or_eq_true_iff.mpr (.inl hletter)
      have hascii : c.toNat < 128 := by
        have hrange := range_of_isAlphanum halnum
        omega
      rw [isAlphabetic, if_pos hascii, hletter, Bool.true_or]
    · rw [hline, Bool.or_true]
  rw [h, Tag.isReference, hc, Bool.and_true]
  exact Bool.or_true _

def output : Plain where
  chars := '+' :: t.chars
  plain := isPlain_plus t.target.plain
  start := trimStart_plus _

end TemplateName

theorem ofStart?_eq_none {c : Char} (hc : c ≠ '=' ∧ c ≠ '!') (rest : List Char) :
    Comparison.ofStart? (c :: rest) = none := by
  unfold Comparison.ofStart?
  split
  · next hs => exact absurd (List.cons.inj hs).1 hc.1
  · next hs => exact absurd (List.cons.inj hs).1 hc.2
  · next hs => exact absurd (List.cons.inj hs).1 hc.1
  · next hs => exact absurd (List.cons.inj hs).1 hc.2
  · rfl

theorem find?_symbol {before : List Char} (h : ∀ c ∈ before, c ≠ '=' ∧ c ≠ '!') (op : Comparison)
    (rest : List Char) :
    Comparison.find? (before ++ (op.symbol.toList ++ rest)) = some (before, op, rest) := by
  induction before with
  | nil => cases op <;> rfl
  | cons c before ih =>
    have hstart := ofStart?_eq_none (h c (by simp)) (before ++ (op.symbol.toList ++ rest))
    rw [List.cons_append, Comparison.find?, hstart, ih fun d hd => h d (by simp [hd])]
    rfl

theorem find?_eq_none {s : List Char} (h : ∀ c ∈ s, c ≠ '=' ∧ c ≠ '!') : Comparison.find? s = none := by
  induction s with
  | nil => rfl
  | cons c s ih =>
    rw [Comparison.find?, ofStart?_eq_none (h c (by simp)), ih fun d hd => h d (by simp [hd])]
    rfl

def equality (negated : Bool) : Comparison := if negated then .notEqual else .equal

def search (negated : Bool) : Comparison := if negated then .notRegex else .regex

def compared (op : Comparison) (n : PathName) (right : List Char) : List Char :=
  '~' :: n.text.toList ++ ' ' :: (op.symbol.toList ++ ' ' :: right)

def comparison (n : PathName) (right : List Char) : List Char :=
  '~' :: n.text.toList ++ ' ' :: '=' :: '=' :: ' ' :: right

theorem comparison_eq (n : PathName) (right : List Char) :
    comparison n right = compared (equality false) n right := rfl

theorem Accepted.ne_operator {name : String} (h : Accepted name) :
    ∀ c ∈ name.toList, c ≠ '=' ∧ c ≠ '!' :=
  fun c hc => ⟨h.ne (by decide) c hc, h.ne (by decide) c hc⟩

theorem Accepted.sigil_ne_operator {name : String} (h : Accepted name) :
    ∀ c ∈ '~' :: name.toList, c ≠ '=' ∧ c ≠ '!' :=
  List.forall_mem_cons.mpr ⟨by decide, h.ne_operator⟩

theorem find?_compared (op : Comparison) (n : PathName) (right : List Char) :
    Comparison.find? (compared op n right) =
      some ('~' :: n.text.toList ++ [' '], op, ' ' :: right) := by
  have hbefore : ∀ c ∈ '~' :: n.text.toList ++ [' '], c ≠ '=' ∧ c ≠ '!' := by
    intro c hc
    rcases List.mem_append.mp hc with hc | hc
    · exact n.isAccepted.sigil_ne_operator c hc
    · obtain rfl := List.mem_singleton.mp hc
      decide
  have h := find?_symbol hbefore op (' ' :: right)
  rwa [List.append_assoc] at h

/-- What is read of a comparison depends on the operator and on whether a name stands on the right. -/
theorem parse_compared (op : Comparison) (n : PathName) (right : List Char) :
    Condition.parse (compared op n right) =
      match op with
      | .regex | .notRegex =>
        match trim right with
        | '/' :: rest =>
          if (cut '/' false rest).isSome then
            .ok (.matchesRegex op.isNegated n.text (String.ofList (trim right)))
          else .error (.expectedRegex op.symbol (String.ofList (compared op n right)))
        | _ => .error (.expectedRegex op.symbol (String.ofList (compared op n right)))
      | .equal | .notEqual =>
        if startsReference (trim right) then
          match nameOf? (trim right) with
          | some m => .ok (.same op.isNegated n.text m)
          | none => .error (.malformedCondition (String.ofList (compared op n right)))
        else if trim right = [] then
          .error (.malformedCondition (String.ofList (compared op n right)))
        else .ok (.equals op.isNegated n.text (String.ofList (unquote (trim right)))) := by
  have hleft : trim ('~' :: n.text.toList ++ [' ']) = '~' :: n.text.toList := by
    rw [List.cons_append, trim_cons (by decide), trimEnd_append_blank (by decide), n.isAccepted.trimEnd_eq]
  have hright : trim (' ' :: right) = trim right := by
    rw [trim, trimStart_blank (by decide), ← trim]
  unfold Condition.parse
  rw [find?_compared]
  split
  · next h _ => exact absurd (List.cons.inj h).1 (by decide)
  · next h _ => simp at h
  · next before op' after h _ =>
    simp only [Option.some.injEq, Prod.mk.injEq] at h
    obtain ⟨rfl, rfl, rfl⟩ := h
    have hsigil : startsReference ('~' :: n.text.toList) = true := rfl
    rw [hleft, hright]
    dsimp only
    rw [n.isAccepted.nameOf?_sigil, hsigil, if_neg (by decide)]
    dsimp only [bind, Except.bind]
    generalize trim right = s
    cases op with
    | regex | notRegex =>
      cases s with
      | nil => rfl
      | cons c rest =>
        by_cases hc : c = '/'
        · subst hc
          by_cases hcut : (cut '/' false rest).isSome = true <;> simp only [hcut] <;> rfl
        · rfl
    | equal | notEqual =>
      dsimp only
      split
      · cases nameOf? s <;> rfl
      · split <;> rfl

theorem startsReference_sigil (s : List Char) : startsReference ('~' :: s) = true := rfl

/-- A quoted text loses its quotes. -/
theorem unquote_quoted (q : Quoted) : unquote ('"' :: (q.chars ++ ['"'])) = q.chars := by
  obtain ⟨d, rest, h⟩ : ∃ d rest, q.chars ++ ['"'] = d :: rest :=
    List.exists_cons_of_ne_nil (by simp)
  have hlast : (d :: rest).getLast? = some '"' := by rw [← h, List.getLast?_concat]
  have hinside : (d :: rest).dropLast = q.chars := by rw [← h, List.dropLast_concat]
  rw [h, unquote]
  dsimp only
  rw [if_pos ⟨rfl, hlast⟩]
  exact hinside

theorem parse_quoted (negated : Bool) (n : PathName) (q : Quoted) :
    Condition.parse (compared (equality negated) n ('"' :: (q.chars ++ ['"']))) =
      .ok (.equals negated n.text (String.ofList q.chars)) := by
  have htrim : trim ('"' :: (q.chars ++ ['"'])) = '"' :: (q.chars ++ ['"']) := by
    apply trim_of_ends
    · simp [isBlank]
    · rw [← List.cons_append, List.getLast?_concat]
      simp [isBlank]
  rw [parse_compared, htrim, unquote_quoted]
  cases negated <;> rfl

theorem parse_names (negated : Bool) (n m : PathName) :
    Condition.parse (compared (equality negated) n ('~' :: m.text.toList)) =
      .ok (.same negated n.text m.text) := by
  have htrim : trim ('~' :: m.text.toList) = '~' :: m.text.toList := by
    rw [trim_cons (by decide), m.isAccepted.trimEnd_eq]
  rw [parse_compared, htrim, startsReference_sigil, if_pos rfl, m.isAccepted.nameOf?_sigil]
  cases negated <;> rfl

/-- A name alone asks whether it has a value. -/
theorem parse_defined {name : String} (h : Accepted name) :
    Condition.parse ('~' :: name.toList) = .ok (.defined name) := by
  unfold Condition.parse
  rw [find?_eq_none h.sigil_ne_operator]
  dsimp only
  split
  · next heq _ => exact absurd (List.cons.inj heq).1 (by decide)
  · rw [h.nameOf?_sigil]
    rfl
  · next heq _ => nomatch heq

theorem parse_undefined {name : String} (h : Accepted name) :
    Condition.parse ('!' :: name.toList) = .ok (.undefined name) := by
  unfold Condition.parse
  rw [List.drop_one, List.tail_cons, find?_eq_none h.ne_operator]
  dsimp only
  split
  · next rest heq _ =>
    obtain ⟨-, rfl⟩ := List.cons.inj heq
    have haccepted := h
    rw [Accepted] at haccepted
    rw [h.trim_eq, haccepted]
    rfl
  · next hnot => exact absurd rfl (hnot name.toList rfl)
  · next hnot => exact absurd rfl (hnot name.toList rfl)

/-- The condition that a name has a value, or that it has none. -/
def presence (negated : Bool) (name : String) : List Char :=
  (if negated then '!' else '~') :: name.toList

theorem parse_presence {name : String} (h : Accepted name) (negated : Bool) :
    Condition.parse (presence negated name) = .ok (if negated then .undefined name else .defined name) := by
  cases negated with
  | false => exact parse_defined h
  | true => exact parse_undefined h

theorem trim_presence {name : String} (h : Accepted name) (negated : Bool) :
    trim (presence negated name) = presence negated name := by
  have hsigil : isBlank (if negated then '!' else '~') = false := by cases negated <;> decide
  rw [presence, trim_cons hsigil, h.trimEnd_eq]

theorem closingParen_presence {name : String} (h : Accepted name) (negated : Bool) (rest : List Char) :
    closingParen true (presence negated name ++ ')' :: rest) = some (presence negated name, rest) := by
  have hplain : ∀ c ∈ presence negated name, isPlain c = true :=
    List.forall_mem_cons.mpr ⟨by cases negated <;> decide, h.isPlain⟩
  have hstart : (trimStart (presence negated name)).head? ≠ some '/' := by
    cases negated <;> simp [presence, trimStart, isBlank]
  obtain ⟨argStart, hclosing⟩ := closingParen_plain hplain hstart (')' :: rest)
  rw [hclosing, closingParen_end]
  simp

inductive Spelling where
  | plus
  | dot
  | caret

namespace Spelling

def sigil : Spelling → Char
  | plus => '+'
  | dot => '.'
  | caret => '^'

def word : Spelling → String
  | plus => ""
  | dot | caret => "includeIf"

def gap : Spelling → List Char
  | plus => []
  | dot | caret => ['.']

def body (w : Spelling) (condition : List Char) (t : Target) : List Char :=
  w.word.toList ++ '(' :: (condition ++ ')' :: (w.gap ++ t.chars))

theorem isConditional_body (w : Spelling) (condition : List Char) (t : Target) :
    isConditional w.sigil (w.body condition t) = true := by
  cases w with
  | plus => rfl
  | dot | caret => simp [isConditional, sigil, body, word, dropStart?]

theorem trim_body (w : Spelling) (condition : List Char) (t : Target) :
    trim (w.body condition t) = w.body condition t := by
  have hshape : w.body condition t =
      (w.word.toList ++ '(' :: (condition ++ ')' :: w.gap)) ++ t.chars := by simp [body]
  apply trim_of_ends
  · cases w <;> simp [body, word, isBlank]
  · rw [hshape, List.getLast?_append_of_ne_nil _ t.nonempty]
    exact getLast_of_trimEnd (trimEnd_of_trim t.trimmed)

theorem trim_gap (w : Spelling) (t : Target) : trim (w.gap ++ t.chars) = w.gap ++ t.chars := by
  cases w with
  | plus => exact t.trimmed
  | dot | caret =>
    rw [gap, List.singleton_append, trim_cons (by decide), trimEnd_of_trim t.trimmed]

/-- What is read of a conditional include where its parenthesis is found. -/
theorem parse_body (w : Spelling) {s : List Char} {c : Condition} (t : Target) (htrim : trim s = s)
    (hclosing : closingParen true (s ++ ')' :: (w.gap ++ t.chars)) = some (s, w.gap ++ t.chars))
    (hcondition : Condition.parse s = .ok c) :
    ConditionalInclude.parse (String.ofList (w.body s t)) = .ok ⟨c, t.text⟩ := by
  have hword : (dropStart? "includeIf".toList (w.body s t)).getD (w.body s t) =
      '(' :: (s ++ ')' :: (w.gap ++ t.chars)) := by cases w <;> rfl
  unfold ConditionalInclude.parse
  rw [String.toList_ofList, w.trim_body]
  dsimp only
  rw [hword]
  split
  · next rest h =>
    obtain ⟨-, rfl⟩ := List.cons.inj h
    rw [← closingParen, hclosing]
    dsimp only
    rw [w.trim_gap t, htrim, hcondition]
    -- the dot of a gap is no part of the target, and a target itself begins with none
    cases w with
    | plus =>
      split
      · next name hdot => exact absurd (congrArg List.head? hdot) t.noDot
      · rw [if_neg (show Spelling.plus.gap ++ t.chars ≠ [] from t.nonempty)]
        rfl
    | dot | caret =>
      split
      · next name hdot =>
        obtain rfl : name = t.chars := (List.cons.inj hdot).2.symm
        rw [t.trimmed, if_neg t.nonempty]
        rfl
      · next hdot => exact absurd rfl (hdot _)
  · next h => exact absurd rfl (h _)

end Spelling

def written (condition : List Char) (t : TemplateName) : List Char :=
  '(' :: (condition ++ ')' :: t.chars)

/-- What is read of a written condition, where its parenthesis is found. -/
theorem parse_written_condition {s : List Char} {c : Condition} (t : TemplateName) (htrim : trim s = s)
    (hclosing : closingParen true (s ++ ')' :: t.chars) = some (s, t.chars))
    (hcondition : Condition.parse s = .ok c) :
    ConditionalInclude.parse (String.ofList (written s t)) = .ok ⟨c, t.text⟩ :=
  Spelling.plus.parse_body t.target htrim hclosing hcondition

/-- Behind its sigil a comparison is plain up to what stands on the right. -/
theorem closingParen_compared (op : Comparison) (n : PathName) (right : List Char) :
    closingParen true (compared op n right) =
      (closingParen false right).map fun (i, a) => (compared op n i, a) := by
  have hplain : ∀ c ∈ n.text.toList ++ ' ' :: (op.symbol.toList ++ [' ']), isPlain c = true := by
    intro c hc
    rcases List.mem_append.mp hc with hc | hc
    · exact n.isAccepted.isPlain c hc
    · have hsymbol : (' ' :: (op.symbol.toList ++ [' '])).all isPlain = true := by
        cases op <;> decide
      exact List.all_eq_true.mp hsymbol c hc
  have hshape : compared op n right =
      '~' :: ((n.text.toList ++ ' ' :: (op.symbol.toList ++ [' '])) ++ right) := by
    simp [compared]
  have hleap : leap true '~' ((n.text.toList ++ ' ' :: (op.symbol.toList ++ [' '])) ++ right) = .step :=
    leap_of_ne _ (by decide) (by decide) (.inl (by decide))
  have hsigil : closingParen true ('~' :: ((n.text.toList ++ ' ' :: (op.symbol.toList ++ [' '])) ++ right)) =
      (closingParen false ((n.text.toList ++ ' ' :: (op.symbol.toList ++ [' '])) ++ right)).map
        fun (i, a) => ('~' :: i, a) := closing_of_step hleap (by decide) (by decide)
  rw [hshape, hsigil, closingParen_plain_inside hplain, Option.map_map]
  simp [Function.comp_def, compared]

theorem compared_append (op : Comparison) (n : PathName) (right t : List Char) :
    compared op n right ++ t = compared op n (right ++ t) := by
  simp [compared]

theorem trim_compared (op : Comparison) (n : PathName) {right : List Char} (h : right ≠ [])
    (hlast : ∀ c ∈ right.getLast?, isBlank c = false) :
    trim (compared op n right) = compared op n right := by
  have hshape : compared op n right =
      ('~' :: n.text.toList ++ ' ' :: (op.symbol.toList ++ [' '])) ++ right := by
    simp [compared]
  apply trim_of_ends
  · simp [compared, isBlank]
  · rw [hshape, List.getLast?_append_of_ne_nil _ h]
    exact hlast

theorem isPlain_sigil (n : PathName) : ∀ c ∈ '~' :: n.text.toList, isPlain c = true :=
  List.forall_mem_cons.mpr ⟨by decide, n.isAccepted.isPlain⟩

theorem closingParen_quoted_end (q : Quoted) (t : List Char) :
    closingParen false ('"' :: (q.chars ++ ['"']) ++ ')' :: t) = some ('"' :: (q.chars ++ ['"']), t) := by
  have h : closingParen false ('"' :: q.chars ++ '"' :: ')' :: t) = _ :=
    closingParen_quoted q.guarded (')' :: t)
  rw [closingParen_end] at h
  simpa using h

theorem closingParen_sigil_end (n : PathName) (t : List Char) :
    closingParen false ('~' :: n.text.toList ++ ')' :: t) = some ('~' :: n.text.toList, t) := by
  rw [closingParen_plain_inside (isPlain_sigil n), closingParen_end]
  simp

def textCondition (n : PathName) (q : Quoted) (t : TemplateName) : List Char :=
  written (comparison n ('"' :: (q.chars ++ ['"']))) t

def nameCondition (n m : PathName) (t : TemplateName) : List Char :=
  written (comparison n ('~' :: m.text.toList)) t

theorem trim_compared_quoted (op : Comparison) (n : PathName) (q : Quoted) :
    trim (compared op n ('"' :: (q.chars ++ ['"']))) = compared op n ('"' :: (q.chars ++ ['"'])) := by
  apply trim_compared op n (by simp)
  rw [← List.cons_append, List.getLast?_concat]
  simp [isBlank]

theorem trim_compared_sigil (op : Comparison) (n m : PathName) :
    trim (compared op n ('~' :: m.text.toList)) = compared op n ('~' :: m.text.toList) := by
  apply trim_compared op n (by simp)
  rw [← List.singleton_append, List.getLast?_append_of_ne_nil _ m.isAccepted.ne_nil]
  exact getLast_of_trimEnd m.isAccepted.trimEnd_eq

theorem parse_textCondition (n : PathName) (q : Quoted) (t : TemplateName) :
    ConditionalInclude.parse (String.ofList (textCondition n q t)) =
      .ok ⟨.equals false n.text (String.ofList q.chars), t.text⟩ := by
  rw [textCondition, comparison_eq]
  refine parse_written_condition t (trim_compared_quoted _ n q) ?_ (parse_quoted false n q)
  rw [compared_append, closingParen_compared, closingParen_quoted_end]
  rfl

theorem parse_nameCondition (n m : PathName) (t : TemplateName) :
    ConditionalInclude.parse (String.ofList (nameCondition n m t)) =
      .ok ⟨.same false n.text m.text, t.text⟩ := by
  rw [nameCondition, comparison_eq]
  refine parse_written_condition t (trim_compared_sigil _ n m) ?_ (parse_names false n m)
  rw [compared_append, closingParen_compared, closingParen_sigil_end]
  rfl

theorem cut_escapeLiteral (w : List Char) : cut '/' false (escapeLiteral w) = none ∧
    escapedPast false (escapeLiteral w) = false := by
  induction w with
  | nil => exact ⟨rfl, rfl⟩
  | cons c w ih =>
    have hpiece : cut '/' false (if Pattern.isSafe c then [c] else ['\\', c]) = none ∧
        escapedPast false (if Pattern.isSafe c then [c] else ['\\', c]) = false := by
      cases hc : Pattern.isSafe c with
      | true =>
        have hslash : c ≠ '/' := ne_of_class hc (by decide)
        have hback : c ≠ '\\' := ne_of_class hc (by decide)
        simp [cut, escapes, hslash, hback]
      | false => simp [cut, escapes]
    rw [Pattern.escapeLiteral_cons, cut_append_of_none hpiece.1, hpiece.2, ih.1]
    refine ⟨rfl, ?_⟩
    rw [escapedPast, List.foldl_append, ← escapedPast, ← escapedPast, hpiece.2, ih.2]

theorem guarded_anchored (w : List Char) : Guarded '/' ('^' :: (escapeLiteral w ++ ['$'])) := by
  obtain ⟨hcut, hpast⟩ := cut_escapeLiteral w
  rw [guarded_iff, ← escapedPast_false]
  constructor
  · rw [cut, if_neg (by simp)]
    have hstart : escapes '^' false = false := by decide
    rw [hstart, cut_append_of_none hcut, hpast]
    rfl
  · rw [escapedPast_cons, escapedPast_append_singleton]
    have hstart : escapes '^' false = false := by decide
    rw [hstart, hpast]
    rfl

/-- The test that finds a match in one text and in no other. -/
def exactTest (w : List Char) : Test where
  pattern := ⟨'^' :: (escapeLiteral w ++ ['$']), guarded_anchored w⟩
  flags := .none

def nothing : Plain := ⟨[], by simp, by simp [trimStart]⟩

def exactBranch (w : List Char) (t : TemplateName) : Branch := ⟨exactTest w, t.output⟩

def exactFilter (w : List Char) (t : TemplateName) : Filter :=
  .onMatch [exactBranch w t] (by simp) (some nothing)

def TemplateName.outputWhen (t : TemplateName) (included : Bool) : Plain :=
  if included then t.output else nothing

/-- The filter that includes a template when a test finds a match, or when it finds none. -/
def testFilter (negated : Bool) (test : Test) (t : TemplateName) : Filter :=
  .onMatch [⟨test, t.outputWhen !negated⟩] (by simp) (some (t.outputWhen negated))

theorem toList_testTag (negated : Bool) (subject : String) {literal : String} {test : Test}
    (h : literal.toList = test.print) (t : TemplateName) :
    (ConditionalInclude.matchTag negated subject literal ("+" ++ t.text)).toList =
      '~' :: (subject.toList ++ '|' :: (testFilter negated test t).print) := by
  rw [testFilter, print_onMatch, printFallback_some]
  cases negated <;>
    simp [ConditionalInclude.matchTag, h, nothing, Branch.print, TemplateName.outputWhen,
      TemplateName.output, Segment.text]

theorem toList_exactly (w : String) : (exactly w).toList = (exactTest w.toList).print := by
  simp [exactly, exactTest, Flags.none, Test.print]

theorem toList_matchTag (subject : String) (w : String) (t : TemplateName) :
    (ConditionalInclude.matchTag false subject (exactly w) ("+" ++ t.text)).toList =
      '~' :: (subject.toList ++ '|' :: (exactFilter w.toList t).print) :=
  toList_testTag false subject (toList_exactly w) t

end Stencil.Tag
