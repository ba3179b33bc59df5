import Stencil.Proofs.ChainText

/-!
# Written tags

Reading a tag gives back the path, the chain of written filters and the default it was put together from.
-/
namespace Stencil.Tag

open Stencil.Text Grammar

/-- Characters that keep no later bar from separating. -/
def isInert (c : Char) : Bool := c ∉ ['\\', '\x60', '(', '|']

theorem isInert_ne {c d : Char} (h : isInert c = true) (hd : d ∈ ['\\', '\x60', '(', '|']) :
    c ≠ d := by
  rintro rfl
  simp [isInert] at h hd
  tauto

/-- A text does not begin with a word that holds a character it lacks. -/
theorem not_prefix_append {w s t : List Char} {c : Char} (hc : c ∈ w) (hs : c ∉ s)
    (ht : ∀ d ∈ t.head?, d ∉ w) : ¬w <+: s ++ t := by
  induction s generalizing w with
  | nil =>
    rintro ⟨rest, hrest⟩
    obtain ⟨a, w, rfl⟩ := List.exists_cons_of_ne_nil (List.ne_nil_of_mem hc)
    rw [List.nil_append] at hrest
    exact ht a (by simp [← hrest]) (by simp)
  | cons d s ih =>
    intro h
    obtain ⟨a, w, rfl⟩ := List.exists_cons_of_ne_nil (List.ne_nil_of_mem hc)
    rw [List.cons_append, List.cons_prefix_cons] at h
    simp only [List.mem_cons, not_or] at hs
    have hmem : c ∈ w := by
      rcases List.mem_cons.mp hc with rfl | hmem
      · exact absurd h.1 hs.1
      · exact hmem
    exact ih hmem hs.2 (fun d hd hw => ht d hd (by simp [hw])) h.2

open Expression

/-- The words that begin conditions and includes hold no separator and no backtick. -/
theorem pathSpan_inert {c : Char} {s t : List Char} (hc : isInert c = true)
    (hs : ∀ d ∈ s, isInert d = true) (ht : ∀ d ∈ t.head?, d ∈ ['|', ':', '\x60']) :
    pathSpan c (s ++ t) = ([], s ++ t) := by
  have hparen : '(' ∉ s := fun h => isInert_ne (hs _ h) (by simp) rfl
  have hnone {w : List Char} (hw : '(' ∈ w) (hstops : ∀ d ∈ ['|', ':', '\x60'], d ∉ w) :
      dropStart? w (s ++ t) = none :=
    dropStart?_eq_none.mpr (not_prefix_append hw hparen fun d hd => hstops d (ht d hd))
  have hfirst : dropStart? "ncludeIf(".toList (s ++ t) = none := hnone (by simp) (by simp)
  have hsecond : dropStart? "nclude.(".toList (s ++ t) = none := hnone (by simp) (by simp)
  rw [pathSpan, if_neg (isInert_ne hc (by simp)), if_neg (isInert_ne hc (by simp)), hfirst, hsecond,
    ite_self]

/-- A path is read on behind characters that neither separate nor open anything. -/
theorem breakPath_inert_append {stop : Char → Bool} {s t : List Char}
    (hs : ∀ c ∈ s, isInert c = true ∧ stop c = false) (ht : ∀ d ∈ t.head?, d ∈ ['|', ':', '\x60']) :
    breakPath stop (s ++ t) = (s ++ (breakPath stop t).1, (breakPath stop t).2) := by
  induction s with
  | nil => rfl
  | cons c s ih =>
    have hc := hs c (by simp)
    have htail : ∀ d ∈ s, isInert d = true ∧ stop d = false := fun d hd => hs d (by simp [hd])
    have hspan := pathSpan_inert hc.1 (fun d hd => (htail d hd).1) ht
    rw [List.cons_append, breakPath, if_neg (by simp [hc.2]), hspan, ih htail]
    rfl

theorem breakPath_stop {stop : Char → Bool} {t : List Char} (hstop : ∀ c ∈ t.head?, stop c = true) :
    breakPath stop t = ([], t) := by
  cases t with
  | nil => rw [breakPath]
  | cons c t => rw [breakPath, if_pos (hstop c rfl)]

theorem breakPath_inert {stop : Char → Bool} {s t : List Char}
    (hs : ∀ c ∈ s, isInert c = true ∧ stop c = false) (ht : Stops t)
    (hstop : ∀ c ∈ t.head?, stop c = true) : breakPath stop (s ++ t) = (s, t) := by
  rw [breakPath_inert_append hs fun d hd => ?_, breakPath_stop hstop, List.append_nil]
  rcases ht d hd with rfl | rfl <;> simp

theorem ofChars_pipe {p : List Char} (hp : ∀ c ∈ p, isInert c = true ∧ c ≠ ':') (tail : List Char) :
    ofChars (p ++ '|' :: tail) =
      { path := segmentsOf (trim p)
        chain := chainOf (splitDefault tail).1
        defaultText := (splitDefault tail).2.map String.ofList
        filtersDefault := false } := by
  have hbreak : breakPath (fun c => c == ':' || c == '|') (p ++ '|' :: tail) = (p, '|' :: tail) := by
    refine breakPath_inert (fun c hc => ⟨(hp c hc).1, ?_⟩) (stops_pipe tail) (by simp)
    have hbar := isInert_ne (d := '|') (hp c hc).1 (by simp)
    simp [hbar, (hp c hc).2]
  rw [ofChars, hbreak]
  rfl

theorem ofChars_colon_pipe {p d : List Char} (hp : ∀ c ∈ p, isInert c = true ∧ c ≠ ':')
    (hd : ∀ c ∈ d, isInert c = true) (tail : List Char) :
    ofChars (p ++ ':' :: (d ++ '|' :: tail)) =
      { path := segmentsOf (trim p)
        chain := chainOf tail
        defaultText := some (String.ofList d)
        filtersDefault := true } := by
  have hbreak : breakPath (fun c => c == ':' || c == '|') (p ++ ':' :: (d ++ '|' :: tail)) =
      (p, ':' :: (d ++ '|' :: tail)) := by
    refine breakPath_inert (fun c hc => ⟨(hp c hc).1, ?_⟩) (stops_colon _) (by simp)
    have hbar := isInert_ne (d := '|') (hp c hc).1 (by simp)
    simp [hbar, (hp c hc).2]
  have hbreak' : breakPath (fun c => c == '|') (d ++ '|' :: tail) = (d, '|' :: tail) := by
    refine breakPath_inert (fun c hc => ⟨hd c hc, ?_⟩) (stops_pipe tail) (by simp)
    simpa using isInert_ne (d := '|') (hd c hc) (by simp)
  rw [ofChars, hbreak]
  dsimp only
  split
  · next rest h =>
    obtain ⟨-, rfl⟩ := List.cons.inj h
    rw [hbreak']
  · next h' h =>
    obtain ⟨rfl, -⟩ := List.cons.inj h
    exact absurd rfl h'
  · next h => simp at h

theorem splitDots_plain {s : List Char} (hs : ∀ c ∈ s, c ≠ '.' ∧ c ≠ '\x60') :
    splitDots s = (s, []) := by
  induction s with
  | nil => rw [splitDots]
  | cons c s ih =>
    have hc := hs c (by simp)
    rw [splitDots, if_neg hc.1, if_neg hc.2]
    dsimp only
    rw [ih fun d hd => hs d (by simp [hd])]
    rfl

theorem splitDots_append_dot {s : List Char} (hs : ∀ c ∈ s, c ≠ '.' ∧ c ≠ '\x60')
    (t : List Char) :
    splitDots (s ++ '.' :: t) = (s, (splitDots t).1 :: (splitDots t).2) := by
  induction s with
  | nil => rw [List.nil_append, splitDots, if_pos rfl]
  | cons c s ih =>
    have hc := hs c (by simp)
    rw [List.cons_append, splitDots, if_neg hc.1, if_neg hc.2]
    dsimp only
    rw [ih fun d hd => hs d (by simp [hd])]
    rfl

structure Segment where
  chars : List Char
  nonempty : chars ≠ []
  valid : ∀ c ∈ chars, (c.isAlphanum || c == '_' || c == '-') = true

def Segment.text (s : Segment) : String := String.ofList s.chars

def pathText (path : List Segment) : String := ".".intercalate (path.map Segment.text)

theorem pathText_singleton (s : Segment) : pathText [s] = s.text := by
  simp [pathText]

theorem pathText_cons {path : List Segment} (s : Segment) (h : path ≠ []) :
    pathText (s :: path) = s.text ++ "." ++ pathText path := by
  rw [pathText, List.map_cons, String.intercalate_cons_of_ne_nil (by simpa using h)]
  rfl

theorem toList_pathText_cons {path : List Segment} (s : Segment) (h : path ≠ []) :
    (pathText (s :: path)).toList = s.chars ++ '.' :: (pathText path).toList := by
  rw [pathText_cons s h]
  simp [Segment.text]

theorem Segment.isNameChar (s : Segment) : ∀ c ∈ s.chars, isNameChar c = true ∧ c ≠ '.' := by
  intro c hc
  have h := s.valid c hc
  constructor
  · simp only [Tag.isNameChar, Bool.or_eq_true] at h ⊢
    tauto
  · rintro rfl
    exact absurd h (by decide)

theorem Segment.ne_separator (s : Segment) : ∀ c ∈ s.chars, c ≠ '.' ∧ c ≠ '\x60' :=
  fun c hc => ⟨(s.isNameChar c hc).2, ne_of_class (s.isNameChar c hc).1 (by decide)⟩

theorem isNameChar_pathText (path : List Segment) :
    ∀ c ∈ (pathText path).toList, isNameChar c = true := by
  induction path with
  | nil => simp [pathText]
  | cons s path ih =>
    cases path with
    | nil =>
      rw [pathText_singleton, Segment.text, String.toList_ofList]
      exact fun c hc => (s.isNameChar c hc).1
    | cons s' path =>
      rw [toList_pathText_cons s (by simp)]
      intro c hc
      rcases List.mem_append.mp hc with hc | hc
      · exact (s.isNameChar c hc).1
      · rcases List.mem_cons.mp hc with rfl | hc
        · decide
        · exact ih c hc

theorem splitDots_pathText (s : Segment) (path : List Segment) :
    splitDots (pathText (s :: path)).toList = (s.chars, path.map Segment.chars) := by
  induction path generalizing s with
  | nil =>
    rw [pathText_singleton, Segment.text, String.toList_ofList, splitDots_plain s.ne_separator]
    rfl
  | cons s' path ih =>
    rw [toList_pathText_cons s (by simp), splitDots_append_dot s.ne_separator, ih s']
    rfl

theorem segmentsOf_pathText {path : List Segment} (hpath : path ≠ []) :
    segmentsOf (pathText path).toList = path.map Segment.text := by
  obtain ⟨s, path, rfl⟩ := List.exists_cons_of_ne_nil hpath
  have hsplit := splitDots_pathText s path
  have hstart : ∀ rest, (pathText (s :: path)).toList ≠ '.' :: rest := by
    intro rest h
    rw [h, splitDots, if_pos rfl] at hsplit
    exact s.nonempty (Prod.mk.inj hsplit).1.symm
  unfold segmentsOf
  split
  · next rest h => exact absurd h (hstart rest)
  · rw [hsplit]
    simp [Segment.text, Function.comp_def]

theorem trim_pathText (path : List Segment) :
    trim (pathText path).toList = (pathText path).toList := by
  have hname := isNameChar_pathText path
  apply trim_of_ends
  · exact fun c hc => isBlank_of_isNameChar (hname c (List.mem_of_mem_head? hc))
  · exact fun c hc => isBlank_of_isNameChar (hname c (List.mem_of_getLast? hc))

theorem isInert_pathText (path : List Segment) :
    ∀ c ∈ (pathText path).toList, isInert c = true ∧ c ≠ ':' := by
  intro c hc
  have hname := isNameChar_pathText path c hc
  have hne : ∀ d, isNameChar d = false → c ≠ d := fun d hd => ne_of_class hname hd
  refine ⟨?_, hne ':' (by decide)⟩
  simp [isInert, hne '\\' (by decide), hne '\x60' (by decide), hne '(' (by decide),
    hne '|' (by decide)]

/-- A written chain is cut into its filters, and a tag of a written path, such a chain and a default is read
as these, wherever the default stands. -/
theorem parse_written {path : List Segment} {ws : List Filter} (hpath : path ≠ []) (hws : ws ≠ []) :
    filters (chainText ws) = ws.map Filter.text ∧
    parse (pathText path ++ "|" ++ chainText ws) =
      { path := path.map Segment.text, chain := some (chainText ws), defaultText := none,
        filtersDefault := false } ∧
    (∀ d : String, parse (pathText path ++ "|" ++ chainText ws ++ ":" ++ d) =
      { path := path.map Segment.text, chain := some (chainText ws), defaultText := some d,
        filtersDefault := false }) ∧
    ∀ d : String, (∀ c ∈ d.toList, isInert c = true) →
      parse (pathText path ++ ":" ++ d ++ "|" ++ chainText ws) =
        { path := path.map Segment.text, chain := some (chainText ws), defaultText := some d,
          filtersDefault := true } := by
  have hinert := isInert_pathText path
  refine ⟨filters_chainText hws, ?_, ?_, ?_⟩
  · have hchars : (pathText path ++ "|" ++ chainText ws).toList =
        (pathText path).toList ++ '|' :: (chainText ws).toList := by simp
    rw [parse, hchars, ofChars_pipe hinert, splitDefault_chainText hws, trim_pathText,
      segmentsOf_pathText hpath, chainOf_chainText hws]
    rfl
  · intro d
    have hchars : (pathText path ++ "|" ++ chainText ws ++ ":" ++ d).toList =
        (pathText path).toList ++ '|' :: ((chainText ws).toList ++ ':' :: d.toList) := by simp
    rw [parse, hchars, ofChars_pipe hinert, splitDefault_chainText_colon hws, trim_pathText,
      segmentsOf_pathText hpath, chainOf_chainText hws, Option.map_some, String.ofList_toList]
  · intro d hd
    have hchars : (pathText path ++ ":" ++ d ++ "|" ++ chainText ws).toList =
        (pathText path).toList ++ ':' :: (d.toList ++ '|' :: (chainText ws).toList) := by simp
    rw [parse, hchars, ofChars_colon_pipe hinert hd, trim_pathText, segmentsOf_pathText hpath,
      chainOf_chainText hws, String.ofList_toList]

def userName : List Segment :=
  [⟨"user".toList, by decide, List.all_eq_true.mp (by decide)⟩,
    ⟨"name".toList, by decide, List.all_eq_true.mp (by decide)⟩]

def replaceThenUpper : List Filter :=
  [.substitution true ⟨"a|b:c".toList, by decide⟩ ⟨['d'], by decide⟩ .none,
    .bare ⟨"upper".toList, by decide, List.all_eq_true.mp (by decide)⟩]

theorem parse_written_user_name :
    filters "s/a|b:c/d/|upper" = ["s/a|b:c/d/", "upper"] ∧
    parse "user.name|s/a|b:c/d/|upper" =
      { path := ["user", "name"], chain := some "s/a|b:c/d/|upper", defaultText := none,
        filtersDefault := false } ∧
    parse "user.name|s/a|b:c/d/|upper:x|y" =
      { path := ["user", "name"], chain := some "s/a|b:c/d/|upper", defaultText := some "x|y",
        filtersDefault := false } ∧
    parse "user.name:none|s/a|b:c/d/|upper" =
      { path := ["user", "name"], chain := some "s/a|b:c/d/|upper", defaultText := some "none",
        filtersDefault := true } := by
  have hpath : pathText userName = "user.name" := by decide
  have hws : chainText replaceThenUpper = "s/a|b:c/d/|upper" := by decide
  have hpathne : userName ≠ [] := by simp [userName]
  have hwsne : replaceThenUpper ≠ [] := by simp [replaceThenUpper]
  have h := parse_written hpathne hwsne
  rw [hpath, hws] at h
  exact ⟨h.1, h.2.1, h.2.2.1 "x|y", h.2.2.2 "none" (List.all_eq_true.mp (by decide))⟩

end Stencil.Tag
