import Stencil.Engine.Piece
import Stencil.Proofs.Condition

/-!
# Sub-references

The sub-references in the path of a tag are cut out of the tag, and each leaves two backticks behind. So they
nest at most as deep as the tag has pairs of backticks.
-/
namespace Stencil.Tag

open Stencil.Text

open Expression

theorem breakPath_append (stop : Char → Bool) (s : List Char) :
    (breakPath stop s).1 ++ (breakPath stop s).2 = s := by
  fun_induction breakPath stop s with
  | case1 => rfl
  | case2 c rest hstop => rfl
  | case3 c rest hstop before after hbreak ih =>
    rw [hbreak] at ih
    have hspan := pathSpan_append c rest
    rw [← ih] at hspan
    simpa using hspan

theorem breakPath_sublist (stop : Char → Bool) (s : List Char) : (breakPath stop s).1.Sublist s := by
  have h := breakPath_append stop s
  conv_rhs => rw [← h]
  exact List.sublist_append_left _ _

theorem sublist_of_mem_splitDots {s segment : List Char}
    (h : segment ∈ (splitDots s).1 :: (splitDots s).2) : segment.Sublist s := by
  fun_induction splitDots s generalizing segment with
  | case1 => simp_all
  | case2 rest first others hsplit ih =>
    rw [hsplit] at ih
    rcases List.mem_cons.mp h with rfl | hrest
    · exact List.nil_sublist _
    · exact (ih hrest).cons _
  | case3 c rest hc span first others hsplit =>
    rename_i ih
    have hspan : span.1 ++ span.2 = rest := by
      by_cases hback : c = '\x60'
      · have heq : span = (through? '\x60' rest).getD ([], rest) := dif_pos hback
        cases hthrough : through? '\x60' rest with
        | none => simp [heq, hthrough]
        | some p => simp [heq, hthrough, ← eq_of_through? hthrough]
      · have heq : span = ([], rest) := dif_neg hback
        simp [heq]
    rw [hsplit] at ih
    rcases List.mem_cons.mp h with rfl | hrest
    · have hfirst := ih List.mem_cons_self
      rw [← hspan]
      exact (hfirst.append_left span.1).cons_cons c
    · have hothers := ih (List.mem_cons_of_mem first hrest)
      rw [← hspan]
      exact (hothers.trans (List.sublist_append_right _ _)).cons c

theorem sublist_of_mem_segmentsOf {path : List Char} {segment : String}
    (h : segment ∈ segmentsOf path) : segment.toList.Sublist path := by
  unfold segmentsOf at h
  split at h
  · obtain rfl := List.mem_singleton.mp h
    simp
  · obtain ⟨chars, hchars, rfl⟩ := List.mem_map.mp h
    rw [String.toList_ofList]
    exact sublist_of_mem_splitDots hchars

theorem path_ofChars (raw : List Char) :
    ∃ p : List Char, p.Sublist raw ∧ (ofChars raw).path = segmentsOf (trim p) := by
  refine ⟨_, breakPath_sublist (fun c => c == ':' || c == '|') raw, ?_⟩
  unfold ofChars
  dsimp only
  split
  · split <;> rfl
  · rfl
  · rfl

theorem sublist_of_mem_path {raw : List Char} {segment : String} (h : segment ∈ (ofChars raw).path) :
    segment.toList.Sublist raw := by
  obtain ⟨p, hp, hpath⟩ := path_ofChars raw
  rw [hpath] at h
  exact ((sublist_of_mem_segmentsOf h).trans (trim_sublist p)).trans hp

theorem tagBody_sublist (tag : String) : (tagBody tag).toList.Sublist tag.toList := by
  have htrim := trim_sublist tag.toList
  unfold tagBody
  dsimp only
  split
  · next rest h =>
    rw [h] at htrim
    rw [String.toList_ofList]
    split
    · exact ((List.dropLast_sublist rest).trans (List.sublist_cons_self _ rest)).trans htrim
    · rw [h]
      exact htrim
  · rw [String.toList_ofList]
    exact htrim

def inner? : List Char → Option (List Char)
  | '\x60' :: rest => if rest.getLast? = some '\x60' then some rest.dropLast else none
  | _ => none

theorem eq_of_inner? {s inside : List Char} (h : inner? s = some inside) :
    s = '\x60' :: (inside ++ ['\x60']) := by
  unfold inner? at h
  split at h
  · next rest =>
    split at h
    · next hlast =>
      obtain rfl := Option.some.inj h
      obtain ⟨init, rfl⟩ := List.getLast?_eq_some_iff.mp hlast
      rw [List.dropLast_concat]
    · simp at h
  · simp at h

theorem inner?_eq_none {s : List Char} (h : '\x60' ∉ s) : inner? s = none := by
  cases hinner : inner? s with
  | none => rfl
  | some inside =>
    rw [eq_of_inner? hinner] at h
    simp at h

theorem Accepted.no_backtick {name : String} (h : Accepted name) : '\x60' ∉ name.toList :=
  fun hback => h.ne (by decide) _ hback rfl

/-- The path of a name has no sub-references. -/
theorem Accepted.inner?_eq_none {name : String} (h : Accepted name) :
    ∀ segment ∈ segmentsOf name.toList, inner? segment.toList = none := fun _ hsegment =>
  Tag.inner?_eq_none fun hback => h.no_backtick ((sublist_of_mem_segmentsOf hsegment).subset hback)

/-- The sub-references in the path of a tag, which is given without braces. Commands and conditional includes
have no path. -/
def subReferences (body : String) : List (List Char) :=
  match body.toList with
  | [] => []
  | sigil :: rest =>
    if isConditional sigil rest ∨ sigil = '.' ∨ sigil = '^' then []
    else (ofChars rest).path.filterMap fun segment => inner? segment.toList

def backtickPairs (body : String) : Nat := body.toList.count '\x60' / 2

def nesting (body : String) : Nat := if subReferences body = [] then 0 else backtickPairs body

theorem nesting_le (body : String) : nesting body ≤ backtickPairs body := by
  unfold nesting
  split <;> omega

/-- A sub-reference stands with its backticks behind the sigil of its tag. -/
theorem sublist_subReference {body : String} {inside : List Char} (h : inside ∈ subReferences body) :
    ∃ sigil rest, body.toList = sigil :: rest ∧ ('\x60' :: (inside ++ ['\x60'])).Sublist rest := by
  unfold subReferences at h
  split at h
  · simp at h
  · next sigil rest hbody =>
    split at h
    · simp at h
    · obtain ⟨segment, hsegment, hinner⟩ := List.mem_filterMap.mp h
      exact ⟨sigil, rest, hbody, eq_of_inner? hinner ▸ sublist_of_mem_path hsegment⟩

theorem count_subReference {body : String} {inside : List Char} (h : inside ∈ subReferences body) :
    inside.count '\x60' + 2 ≤ body.toList.count '\x60' := by
  obtain ⟨sigil, rest, hbody, hsub⟩ := sublist_subReference h
  have hcount := hsub.count_le '\x60'
  rw [List.count_cons_self, List.count_append, List.count_singleton_self] at hcount
  have hcons : rest.count '\x60' ≤ body.toList.count '\x60' := by
    rw [hbody]
    exact List.count_le_count_cons
  omega

/-- A sub-reference in braces is shorter than the tag it stands in. -/
theorem length_subReference {tag : String} {inside : List Char}
    (h : inside ∈ subReferences (tagBody tag)) :
    ("\x7b" ++ String.ofList inside ++ "\x7d").length < tag.length := by
  obtain ⟨sigil, rest, hbody, hsub⟩ := sublist_subReference h
  have hrest := hsub.length_le
  have htag := (tagBody_sublist tag).length_le
  rw [hbody] at htag
  simp only [List.length_cons, List.length_append, List.length_nil, String.length_toList] at hrest htag
  have hbraces : ("\x7b" ++ String.ofList inside ++ "\x7d").length = inside.length + 2 := by
    simp [← String.length_toList]
  omega

/-- A sub-reference nests less deep than the tag it stands in. -/
theorem nesting_subReference {body : String} {inside : List Char} (h : inside ∈ subReferences body) :
    nesting (tagBody ("\x7b" ++ String.ofList inside ++ "\x7d")) + 1 ≤ nesting body := by
  have hne : subReferences body ≠ [] := List.ne_nil_of_mem h
  have hcount := count_subReference h
  have hbody := (tagBody_sublist ("\x7b" ++ String.ofList inside ++ "\x7d")).count_le '\x60'
  have hbraces : ("\x7b" ++ String.ofList inside ++ "\x7d").toList.count '\x60' = inside.count '\x60' := by
    simp
  have hle := nesting_le (tagBody ("\x7b" ++ String.ofList inside ++ "\x7d"))
  have hpairs : nesting body = backtickPairs body := if_neg hne
  unfold backtickPairs at hle hpairs
  omega

theorem isPathChar_of_nameOf? {s : List Char} {name : String} (h : nameOf? s = some name) :
    ∀ c ∈ name.toList, isPathChar c = true := by
  unfold nameOf? at h
  dsimp only at h
  split at h
  · next hvalid =>
    obtain rfl := Option.some.inj h
    rw [String.toList_ofList]
    exact List.all_eq_true.mp hvalid.2
  · simp at h

def Condition.subject : Condition → String
  | defined name => name
  | undefined name => name
  | equals _ name _ => name
  | same _ _ right => right
  | matchesRegex _ name _ => name

theorem Condition.nameOf?_of_parse {s : List Char} {c : Condition} (h : Condition.parse s = .ok c) :
    ∃ reference, nameOf? reference = some c.subject := by
  unfold Condition.parse at h
  dsimp only at h
  split at h
  · next rest _ =>
    cases hname : nameOf? (trim rest) with
    | none => simp [hname, Except.map] at h
    | some name =>
      rw [hname] at h
      obtain rfl := Except.ok.inj h
      exact ⟨_, hname⟩
  · next s _ _ _ _ _ =>
    cases hname : nameOf? s with
    | none => simp [hname, Except.map] at h
    | some name =>
      rw [hname] at h
      obtain rfl := Except.ok.inj h
      exact ⟨_, hname⟩
  · next before op after _ _ =>
    split at h
    · nomatch h
    · cases hname : nameOf? (trim before) with
      | none =>
        rw [hname] at h
        nomatch h
      | some name =>
        rw [hname] at h
        cases op <;> dsimp only [bind, Except.bind] at h
        case regex | notRegex =>
          split at h
          · split at h
            · obtain rfl := Except.ok.inj h
              exact ⟨_, hname⟩
            · nomatch h
          · nomatch h
        case equal | notEqual =>
          split at h
          · cases hright : nameOf? (trim after) with
            | none =>
              rw [hright] at h
              nomatch h
            | some m =>
              rw [hright] at h
              obtain rfl := Except.ok.inj h
              exact ⟨_, hright⟩
          · split at h
            · nomatch h
            · obtain rfl := Except.ok.inj h
              exact ⟨_, hname⟩

theorem ConditionalInclude.nameOf?_of_parse {body : String} {i : ConditionalInclude}
    (h : ConditionalInclude.parse body = .ok i) :
    ∃ reference, nameOf? reference = some i.condition.subject := by
  unfold ConditionalInclude.parse at h
  dsimp only at h
  split at h
  · split at h
    · nomatch h
    · next inside after _ =>
      cases hcondition : Condition.parse (trim inside) with
      | error fault =>
        rw [hcondition] at h
        split at h <;> split at h <;> nomatch h
      | ok c =>
        rw [hcondition] at h
        have hc : c = i.condition := by
          split at h <;> split at h
          · nomatch h
          · rw [← Except.ok.inj h]
          · nomatch h
          · rw [← Except.ok.inj h]
        rw [← hc]
        exact Condition.nameOf?_of_parse hcondition
  · nomatch h

/-- The tag that stands for a conditional include asks for the name that is tested. -/
theorem ConditionalInclude.toList_tag (i : ConditionalInclude) (current : String) :
    ∃ rest, (i.tag current).toList = '~' :: (i.condition.subject.toList ++ '|' :: rest) := by
  have hmatch (negated : Bool) (subject literal include_ : String) :
      ∃ rest, (matchTag negated subject literal include_).toList =
        '~' :: (subject.toList ++ '|' :: rest) := by
    cases negated
    · exact ⟨("onmatch(" ++ literal ++ "," ++ include_ ++ ")nomatch()").toList, by simp [matchTag]⟩
    · exact ⟨("onmatch(" ++ literal ++ ",)nomatch(" ++ include_ ++ ")").toList, by simp [matchTag]⟩
  unfold tag
  cases i.condition with
  | defined name =>
    exact ⟨("ondefined(" ++ ("+" ++ i.template) ++ "):").toList, by simp [Condition.subject]⟩
  | undefined name =>
    exact ⟨("ondefined():" ++ ("+" ++ i.template)).toList, by simp [Condition.subject]⟩
  | equals negated name literal => exact hmatch negated name _ _
  | same negated left right => exact hmatch negated right _ _
  | matchesRegex negated name regex => exact hmatch negated name _ _

theorem subReferences_tag {body : String} {i : ConditionalInclude}
    (h : ConditionalInclude.parse body = .ok i) (current : String) :
    subReferences (i.tag current) = [] := by
  obtain ⟨reference, hname⟩ := ConditionalInclude.nameOf?_of_parse h
  obtain ⟨rest, hrest⟩ := i.toList_tag current
  have hchars := isPathChar_of_nameOf? hname
  have hinert : ∀ c ∈ i.condition.subject.toList, isInert c = true ∧ c ≠ ':' := by
    intro c hc
    refine ⟨?_, ne_of_class (hchars c hc) (by decide)⟩
    have hne : c ∉ ['\\', '\x60', '(', '|'] := not_mem_of_class (hchars c hc) (by decide)
    simpa [isInert] using hne
  have hnone : ∀ segment ∈ segmentsOf (trim i.condition.subject.toList), inner? segment.toList = none := by
    intro segment hsegment
    refine inner?_eq_none fun hback => ?_
    have hmem := ((sublist_of_mem_segmentsOf hsegment).trans (trim_sublist _)).subset hback
    exact ne_of_class (d := '\x60') (hchars _ hmem) (by decide) rfl
  unfold subReferences
  rw [hrest]
  dsimp only
  split
  · rfl
  · rw [ofChars_pipe hinert, List.filterMap_eq_nil_iff]
    exact hnone

end Stencil.Tag
