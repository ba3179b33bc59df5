import Stencil.Proofs.Arguments
import Stencil.Proofs.Invocation

/-!
# Quoted arguments

Any text without backslashes can be passed to a filter: in double quotes, with a backslash before each double
quote in it. The first two arguments of such a call are read up to their closing quotes and the others are
separated as bare ones; either way each is read back as it was.
-/
namespace Stencil.Tag

open Stencil.Text Grammar

def escapeQuotes (s : String) : List Char := escapeMarks (· == '"') s.toList

def quoteArgument (s : String) : List Char := '"' :: escapeQuotes s ++ ['"']

def quotedCall (name : String) (args : List String) : String :=
  String.ofList (name.toList ++ '(' :: (commas (args.map quoteArgument) ++ [')']))

section

variable {s : String}

theorem guarded_escapeQuotes (h : '\\' ∉ s.toList) : Guarded '"' (escapeQuotes s) :=
  guarded_escapeMarks (by decide) (by decide) h

theorem unescape_escapeQuotes (h : '\\' ∉ s.toList) : String.ofList (unescape '"' (escapeQuotes s)) = s := by
  have hnone : ∀ c ∈ s.toList, (c == '"' && c != '"') = false := by simp
  rw [escapeQuotes, unescape_escapeMarks '"' h, escapeMarks_of_not_mem hnone, String.ofList_toList]

theorem quoteArgument_append (s : String) (t : List Char) :
    quoteArgument s ++ t = '"' :: (escapeQuotes s ++ '"' :: t) := by
  rw [quoteArgument, List.append_assoc, List.singleton_append, List.cons_append]

theorem delimited_quoteArgument (h : '\\' ∉ s.toList) : Delimited (quoteArgument s) := by
  intro room t _
  have hspan : argumentSpan true '"' (escapeQuotes s ++ '"' :: t) = (escapeQuotes s ++ ['"'], t) := by
    rw [argumentSpan, if_neg (by decide), if_neg (by decide), if_pos rfl, (guarded_escapeQuotes h).through?]
    rfl
  refine ⟨false, ?_⟩
  rw [quoteArgument_append, bareArguments, if_neg (by simp), hspan, quoteArgument]
  simp [isBlank]

theorem bareArgument_quoteArgument (h : '\\' ∉ s.toList) : bareArgument (quoteArgument s) = s := by
  have htrim : trim (quoteArgument s) = quoteArgument s :=
    trim_of_ends (by simp [quoteArgument, isBlank]) (getLast_append (by simp) (by simp [isBlank]))
  have hquoted : quoted? (quoteArgument s) = some (escapeQuotes s) := by
    rw [quoteArgument, List.cons_append, quoted?, (guarded_escapeQuotes h).cut]
  rw [bareArgument, htrim, if_neg (by simp [quoteArgument]), hquoted]
  exact unescape_escapeQuotes h

end

theorem splitBare_quoted {args : List String} (h : ∀ s ∈ args, '\\' ∉ s.toList) (hne : args ≠ [])
    (hlen : args.length ≤ maxArguments) : splitBare (commas (args.map quoteArgument)) = args := by
  have hdelimited : ∀ x ∈ args.map quoteArgument, Delimited x := by
    intro x hx
    obtain ⟨s, hs, rfl⟩ := List.mem_map.mp hx
    exact delimited_quoteArgument (h s hs)
  have hread : (args.map quoteArgument).map bareArgument = args := by
    rw [List.map_map]
    exact (List.map_congr_left fun s hs => bareArgument_quoteArgument (h s hs)).trans (List.map_id args)
  rw [splitBare_commas hdelimited (by simpa using hne), if_pos (by simpa using hlen), hread]

theorem arguments_quote (s : List Char) : arguments ('"' :: s) = quotedArguments s := rfl

theorem arguments_single {a : String} (ha : '\\' ∉ a.toList) : arguments (quoteArgument a) = [a] := by
  rw [← List.append_nil (quoteArgument a), quoteArgument_append, arguments_quote]
  unfold quotedArguments
  dsimp only
  rw [(guarded_escapeQuotes ha).cut]
  dsimp only
  rw [unescape_escapeQuotes ha]
  rfl

theorem quotedArguments_second {s first t : List Char} (h : cut '"' false s = some (first, ',' :: '"' :: t)) :
    quotedArguments s = String.ofList (unescape '"' first) ::
      match cut '"' false t with
      | none => [String.ofList (unescape '"' t)]
      | some (second, rest) => String.ofList (unescape '"' second) ::
        match trimStart rest with
        | ',' :: others => splitBare others
        | _ => [] := by
  unfold quotedArguments
  dsimp only
  rw [h]
  rfl

/-- Behind two quoted arguments bare ones are separated. -/
theorem arguments_pair {a b : String} (ha : '\\' ∉ a.toList) (hb : '\\' ∉ b.toList) (t : List Char) :
    arguments (quoteArgument a ++ ',' :: (quoteArgument b ++ t)) =
      a :: b :: match trimStart t with
        | ',' :: others => splitBare others
        | _ => [] := by
  have hfirst := (guarded_escapeQuotes ha).cut (',' :: '"' :: (escapeQuotes b ++ '"' :: t))
  rw [quoteArgument_append, quoteArgument_append, arguments_quote, quotedArguments_second hfirst,
    (guarded_escapeQuotes hb).cut]
  dsimp only
  rw [unescape_escapeQuotes ha, unescape_escapeQuotes hb]

/-- Up to two more arguments can be quoted than bare ones are separated. -/
theorem arguments_quoted {args : List String} (h : ∀ s ∈ args, '\\' ∉ s.toList) (hne : args ≠ [])
    (hlen : args.length ≤ maxArguments + 2) : arguments (commas (args.map quoteArgument)) = args := by
  match args with
  | [] => exact absurd rfl hne
  | [a] =>
    rw [List.map_singleton, commas_singleton]
    exact arguments_single (h a (by simp))
  | [a, b] =>
    have hpair := arguments_pair (h a (by simp)) (h b (by simp)) []
    rw [List.append_nil] at hpair
    rw [List.map_cons, List.map_singleton, commas_cons_cons, commas_singleton]
    exact hpair
  -- behind the first two arguments, quotes are only what keeps a bare argument together
  | a :: b :: c :: rest =>
    have hothers : splitBare (commas ((c :: rest).map quoteArgument)) = c :: rest := by
      refine splitBare_quoted (fun s hs => h s (by simp [List.mem_cons.mp hs])) (List.cons_ne_nil c rest) ?_
      simp only [List.length_cons] at hlen ⊢
      omega
    rw [List.map_cons] at hothers
    rw [List.map_cons, List.map_cons, List.map_cons, commas_cons_cons, commas_cons_cons,
      arguments_pair (h a (by simp)) (h b (by simp))]
    exact congrArg (fun others => a :: b :: others) hothers

theorem passed_quoted {args : List String} (h : ∀ s ∈ args, '\\' ∉ s.toList) :
    Passed (args.map quoteArgument) := by
  intro x hx t
  obtain ⟨s, hs, rfl⟩ := List.mem_map.mp hx
  exact closingParen_inQuotes (guarded_escapeQuotes (h s hs)) t

theorem callArguments_quoted {args : List String} (h : ∀ s ∈ args, '\\' ∉ s.toList) (hne : args ≠ [])
    (hlen : args.length ≤ maxArguments + 2) :
    callArguments ('(' :: (commas (args.map quoteArgument) ++ [')'])) = args := by
  have hclosing : closing '(' ')' 0 true (commas (args.map quoteArgument) ++ [')']) =
      some (commas (args.map quoteArgument), []) := closingParen_commas (passed_quoted h) []
  have hfallback : fallback? [] = none := rfl
  rw [callArguments, hclosing]
  dsimp only
  rw [arguments_quoted h hne hlen, hfallback, List.append_nil]

theorem trim_quotedCall {name : String} (hname : ∀ c ∈ name.toList, isNameChar c = true) (args : List String) :
    trim (quotedCall name args).toList =
      name.toList ++ '(' :: (commas (args.map quoteArgument) ++ [')']) := by
  rw [quotedCall, String.toList_ofList]
  refine trim_of_ends (fun c hc => ?_) ?_
  · cases hnil : name.toList with
    | nil =>
      obtain rfl : '(' = c := by simpa [hnil] using hc
      decide
    | cons d rest =>
      obtain rfl : d = c := by simpa [hnil] using hc
      exact isBlank_of_isNameChar (hname d (by simp [hnil]))
  · rw [← List.cons_append, ← List.append_assoc]
    exact getLast_append (by simp) (by simp [isBlank])

namespace Invocation

/-- What is passed in quotes arrives as it was: no argument is lost, split, merged, trimmed or left escaped. -/
theorem parse_quotedCall {name : String} {args : List String} (hname : ∀ c ∈ name.toList, isNameChar c = true)
    (hargs : ∀ s ∈ args, '\\' ∉ s.toList) (hne : args ≠ []) (hlen : args.length ≤ maxArguments + 2) :
    (parse (quotedCall name args)).form = .call ∧ (parse (quotedCall name args)).name = name ∧
      (parse (quotedCall name args)).callArguments = args := by
  have htrim := trim_quotedCall hname args
  obtain ⟨hn, ha⟩ := ofChars_call htrim hname
  refine ⟨form_call htrim hname, ?_, ?_⟩
  · rw [parse, hn, String.ofList_toList]
  · rw [parse, ha, callArguments_quoted hargs hne hlen]

theorem parse_quotedCall_marks :
    quotedCall "f-1" ["a\"b,", "/(", " ü|"] = "f-1(\"a\\\"b,\",\"/(\",\" ü|\")" ∧
      (parse (quotedCall "f-1" ["a\"b,", "/(", " ü|"])).callArguments = ["a\"b,", "/(", " ü|"] :=
  ⟨by decide, (parse_quotedCall (List.all_eq_true.mp (by decide)) (by decide) (by decide) (by decide)).2.2⟩

end Invocation

end Stencil.Tag
