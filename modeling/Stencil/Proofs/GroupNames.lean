import Mathlib.Data.List.Basic
import Stencil.Pattern

/-!
# Names of groups

The name of a group begins with a letter or an underscore, so that a number is never the name of a group. The
reader carries the terms that it has read along on levels, one for each open group; what holds of the terms on all
levels holds of the pattern.
-/
namespace Stencil.Pattern

/-- What a reader gives satisfies `P`, unless it refuses. -/
def Yields {α : Type} (x : Except Fault α) (P : α → Prop) : Prop := ∀ a, x = .ok a → P a

namespace Yields

variable {α β : Type} {x : Except Fault α} {f : α → Except Fault β} {P : α → Prop} {Q : β → Prop}

theorem ok {a : α} (h : P a) : Yields (.ok a) P := by
  rintro _ ⟨⟩
  exact h

theorem pure {a : α} (h : P a) : Yields (Pure.pure a) P := ok h

theorem error (fault : Fault) : Yields (.error fault) P := nofun

theorem refuse (cause : Cause) (span : Span) : Yields (refuse cause span) P := error _

theorem bind (hx : Yields x P) (hf : ∀ a, P a → Yields (f a) Q) : Yields (x >>= f) Q := by
  cases x with
  | error fault => exact error fault
  | ok a => exact hf a (hx a rfl)

theorem check {c : Prop} [Decidable c] {cause : Cause} {span : Span} (hx : Yields x P) :
    Yields (if c then Pattern.refuse cause span else x) P := by
  split
  · exact refuse cause span
  · exact hx

theorem bind_any (hf : ∀ a, Yields (f a) Q) : Yields (x >>= f) Q :=
  bind (P := fun _ => True) (fun _ _ => trivial) fun a _ => hf a

end Yields

def IsGroupName (name : String) : Prop := ∃ c rest, name.toList = c :: rest ∧ isNameChar true c = true

def Term.WellNamed (t : Term) : Prop := ∀ x ∈ t.names, IsGroupName x.1

theorem Term.WellNamed.of_names_eq_nil {t : Term} (h : t.names = []) : t.WellNamed := by
  rw [WellNamed, h]
  exact List.forall_mem_nil _

theorem wellNamed_namesIn {ts : List Term} (h : ∀ t ∈ ts, t.WellNamed) :
    ∀ x ∈ Term.namesIn ts, IsGroupName x.1 := by
  induction ts with
  | nil => exact List.forall_mem_nil _
  | cons t ts ih =>
    obtain ⟨ht, hts⟩ := List.forall_mem_cons.mp h
    rw [Term.namesIn]
    exact List.forall_mem_append.mpr ⟨ht, ih hts⟩

def GroupKind.WellNamed (k : GroupKind) : Prop := ∀ index name, k = .numbered index (some name) → IsGroupName name

theorem Term.WellNamed.group {k : GroupKind} {body : Term} (hk : k.WellNamed) (hbody : body.WellNamed) (span : Span) :
    (Term.group k body span).WellNamed := by
  match k with
  | .numbered index (some name) =>
    rw [WellNamed, names]
    exact List.forall_mem_cons.mpr ⟨hk index name rfl, hbody⟩
  | .numbered index none => exact hbody
  | .plain settings => exact hbody

theorem Term.WellNamed.repetition {body : Term} (h : body.WellNamed) (least : ℕ) (most : Option ℕ) (greedy : Bool)
    (span : Span) : (Term.repetition least most greedy body span).WellNamed := h

theorem groupNameRest_yields (first : Bool) (fuel : ℕ) (name : List Char) (s : Source) :
    Yields (groupNameRest first fuel name s) fun r =>
      name.getLast?.all (isNameChar true) = true → (name = [] → first = true) →
      r.1.head?.all (isNameChar true) = true := by
  induction fuel generalizing first name s with
  | zero => exact .refuse _ _
  | succ fuel ih =>
    rw [groupNameRest]
    split
    · exact .refuse _ _
    · exact .ok fun h _ => by rwa [List.head?_reverse]
    · next c _ _ =>
      split
      -- the first character stays the last one of the reversed name
      · next hc =>
        refine fun r hr hname hfirst => ih _ _ _ r hr ?_ (by simp)
        cases name with
        | nil => simpa [hfirst rfl] using hc
        | cons d name => simpa using hname
      · exact .refuse _ _

theorem groupName_yields (names : List (String × Span)) (s : Source) :
    Yields (groupName names s) fun r => IsGroupName r.1.1 := by
  refine (groupNameRest_yields true _ [] s).bind fun (name, close) h => ?_
  have hhead := h rfl fun _ => rfl
  dsimp only at hhead ⊢
  cases name with
  | nil => exact .refuse _ _
  | cons c rest =>
    rw [if_neg (List.cons_ne_nil c rest)]
    split
    · exact .error _
    · exact .pure ⟨c, rest, String.toList_ofList, by simpa using hhead⟩

theorem opening_yields (names : List (String × Span)) (index : ℕ) (s : Source) :
    Yields (opening names index s) fun r => ∀ kind, r.1.1 = .group kind → kind.WellNamed := by
  unfold opening
  dsimp only
  split
  · exact .refuse _ _
  · split
    · next inner _ =>
      refine (groupName_yields names inner).bind fun ((name, span), after) hname => ?_
      refine .pure ?_
      rintro _ ⟨⟩ _ _ ⟨⟩
      exact hname
    · split
      · refine .pure ?_
        rintro _ ⟨⟩ _ _ ⟨⟩
      · refine .check (.bind_any fun (settings, close) => ?_)
        dsimp only
        split
        · exact .check (.pure nofun)
        · refine .pure ?_
          rintro _ ⟨⟩ _ _ ⟨⟩

theorem escape_yields (s : Source) : Yields (escape s) fun r => r.1.names = [] := by
  unfold escape
  dsimp only
  split
  · exact .refuse _ _
  · refine .check ?_
    split
    · exact .bind_any fun _ => .pure rfl
    · split
      · exact .bind_any fun _ => .pure rfl
      · split
        · exact .pure rfl
        · split
          · split
            · refine .bind_any fun (kind, rest) => ?_
              cases kind with
              | some a => exact .pure rfl
              | none => exact .pure rfl
            · exact .pure rfl
          · split
            · exact .pure rfl
            · exact .pure rfl
            · exact .pure rfl
            · exact .refuse _ _

theorem primitive_yields (s : Source) : Yields (primitive s) fun r => r.1.names = [] := by
  unfold primitive
  split
  · exact escape_yields s
  all_goals exact .ok rfl

theorem classRest_yields (k : OpenClass) (outer : List OpenClass) (fuel : ℕ) (s : Source) :
    Yields (classRest k outer fuel s) fun r => r.1.names = [] := by
  induction fuel generalizing k outer s with
  | zero => exact .refuse _ _
  | succ fuel ih =>
    unfold classRest
    dsimp only
    split
    · exact .refuse _ _
    · split
      · exact ih _ _ _
      · exact .bind_any fun _ => ih _ _ _
    · split
      · exact .pure rfl
      · exact ih _ _ _
    · split
      · exact ih _ _ _
      · exact .bind_any fun _ => ih _ _ _

theorem bracket_yields (s : Source) : Yields (bracket s) fun r => r.1.names = [] :=
  .bind_any fun _ => classRest_yields _ _ _ _

structure Level.WellNamed (l : Level) : Prop where
  terms : ∀ x ∈ l.terms, x.2.WellNamed
  branches : ∀ t ∈ l.branches, t.WellNamed

namespace Level.WellNamed

variable {l : Level} {t : Term}

theorem open_ (place : Place) : (Level.open_ place).WellNamed := ⟨List.forall_mem_nil _, List.forall_mem_nil _⟩

theorem add (hl : l.WellNamed) (ht : t.WellNamed) (place : Place) : (l.add place t).WellNamed :=
  ⟨List.forall_mem_cons.mpr ⟨ht, hl.terms⟩, hl.branches⟩

theorem branch (hl : l.WellNamed) (stop : Place) : (l.branch stop).WellNamed := by
  unfold Level.branch
  split
  · exact .of_names_eq_nil rfl
  · next h => exact hl.terms _ (by rw [h]; exact List.mem_singleton_self _)
  · refine wellNamed_namesIn fun t ht => ?_
    obtain ⟨x, hx, rfl⟩ := List.mem_map.mp ht
    exact hl.terms x (List.mem_reverse.mp hx)

theorem term (hl : l.WellNamed) (stop : Place) : (l.term stop).WellNamed := by
  unfold Level.term
  split
  · exact hl.branch stop
  · refine wellNamed_namesIn fun t ht => ?_
    rcases List.mem_cons.mp (List.mem_reverse.mp ht) with rfl | ht
    · exact hl.branch stop
    · exact hl.branches t ht

theorem split (hl : l.WellNamed) (stop start : Place) : (l.split stop start).WellNamed :=
  ⟨List.forall_mem_nil _, List.forall_mem_cons.mpr ⟨hl.branch stop, hl.branches⟩⟩

end Level.WellNamed

variable {l : Level}

theorem repeated_yields (hl : l.WellNamed) (s : Source) :
    Yields (repeated l s) fun r => r.2.1.WellNamed ∧ r.2.2.WellNamed := by
  unfold repeated
  split
  · exact .refuse _ _
  · exact .refuse _ _
  · exact .refuse _ _
  · next place t rest _ _ hterms =>
    obtain ⟨ht, hrest⟩ := List.forall_mem_cons.mp (hterms ▸ hl.terms)
    exact .ok ⟨ht, hrest, hl.branches⟩

theorem uncounted_yields (hl : l.WellNamed) (least : ℕ) (most : Option ℕ) (s : Source) :
    Yields (uncounted least most l s) fun r => r.1.WellNamed :=
  (repeated_yields hl s).bind fun _ h => .pure (h.2.add (h.1.repetition _ _ _ _) _)

theorem counted_yields (hl : l.WellNamed) (s : Source) : Yields (counted l s) fun r => r.1.WellNamed := by
  unfold counted
  refine (repeated_yields hl s).bind fun (place, t, l) h => ?_
  have hend (least : ℕ) (most : Option ℕ) (greedy : Bool) (span : Span) :
      (l.add place (.repetition least most greedy t span)).WellNamed := h.2.add (h.1.repetition _ _ _ _) place
  dsimp only
  refine .check (.check ?_)
  split
  · split
    · exact .bind_any fun _ => .check (.check (.pure (hend _ _ _ _)))
    · split
      · exact .bind_any fun _ => .bind_any fun _ => .check (.check (.pure (hend _ _ _ _)))
      · exact .bind_any fun _ => .bind_any fun _ => .bind_any fun _ => .check (.check (.pure (hend _ _ _ _)))
  · exact .bind_any fun _ => .bind_any fun _ => .check (.check (.pure (hend _ _ _ _)))

def OpenGroup.WellNamed (g : OpenGroup) : Prop := g.outer.WellNamed ∧ g.kind.WellNamed

theorem termRest_yields (hl : l.WellNamed) {groups : List OpenGroup} (hgroups : ∀ g ∈ groups, g.WellNamed)
    (naming : Naming) (fuel : ℕ) (s : Source) :
    Yields (termRest l groups naming fuel s) Term.WellNamed := by
  induction fuel generalizing l groups naming s with
  | zero => exact .ok (hl.term s.place)
  | succ fuel ih =>
    unfold termRest
    dsimp only
    split
    · split
      · exact .pure (hl.term _)
      · exact .refuse _ _
    · refine (opening_yields _ _ _).bind fun ((o, names), after) ho => ?_
      cases o with
      | directive settings => exact ih (hl.add (.of_names_eq_nil rfl) _) hgroups _ _
      | group kind => exact ih (.open_ _) (List.forall_mem_cons.mpr ⟨⟨hl, ho kind rfl⟩, hgroups⟩) _ _
    · split
      · exact .refuse _ _
      · obtain ⟨⟨houter, hkind⟩, hrest⟩ := List.forall_mem_cons.mp hgroups
        exact ih (houter.add (.group hkind (hl.term _) _) _) hrest _ _
    · exact ih (hl.split _ _) hgroups _ _
    · exact (bracket_yields _).bind fun _ ht => ih (hl.add (.of_names_eq_nil ht) _) hgroups _ _
    · exact (uncounted_yields hl _ _ _).bind fun _ hl => ih hl hgroups _ _
    · exact (uncounted_yields hl _ _ _).bind fun _ hl => ih hl hgroups _ _
    · exact (uncounted_yields hl _ _ _).bind fun _ hl => ih hl hgroups _ _
    · exact (counted_yields hl _).bind fun _ hl => ih hl hgroups _ _
    · exact (primitive_yields _).bind fun _ ht => ih (hl.add (.of_names_eq_nil ht) _) hgroups _ _

/-- The names of the groups of a pattern begin as such names may. -/
theorem parse_yields (text : List Char) : Yields (Term.parse text) Term.WellNamed := by
  unfold Term.parse
  refine (termRest_yields (.open_ _) (List.forall_mem_nil _) _ _ _).bind fun t ht => ?_
  split
  · exact .refuse _ _
  · exact .pure ht

theorem not_isNameChar_of_isDigit {c : Char} (h : c.isDigit = true) : isNameChar true c = false := by
  have hcode : 48 ≤ c.toNat ∧ c.toNat ≤ 57 := by
    delta Char.isDigit at h
    simpa [UInt32.le_iff_toNat_le] using h
  have halpha : c.isAlpha = false := by
    delta Char.isAlpha Char.isUpper Char.isLower
    have hnat : c.val.toNat = c.toNat := rfl
    simp [UInt32.le_iff_toNat_le, hnat]
    omega
  have hne : c ≠ '_' := by
    rintro rfl
    simp at hcode
  simp [isNameChar, Unicode.isAlphabetic, halpha, hne, show c.toNat < 128 by omega]

/-- No group is named by a number. -/
theorem IsGroupName.not_digits {name : String} (h : IsGroupName name) {digits : List Char}
    (hdigits : digits.all Char.isDigit = true) : name ≠ String.ofList digits := by
  rintro rfl
  obtain ⟨c, rest, hname, hc⟩ := h
  rw [String.toList_ofList] at hname
  rw [hname, List.all_cons, Bool.and_eq_true] at hdigits
  simp [not_isNameChar_of_isDigit hdigits.1] at hc

end Stencil.Pattern
