import Stencil.Proofs.Evaluation

/-!
# Runs side by side

Two engines that are given the same texts are compared step by step. A relation between runs that sequencing
keeps holds of all that the engines do at one level, as soon as it holds of their filters, of their questions and
of the level below.
-/
namespace Stencil

open Stencil.Tag

def Notice.isOrdinary : Notice → Bool
  | .renderDepth _ _ | .aliasDepth _ _ | .customFault _ _ => false
  | _ => true

theorem Run.events_bind {α β : Type} (x : Run α) (f : α → Run β) :
    (x >>= f).events = x.events ++ match x.outcome with
      | .ok a => (f a).events
      | .error _ => [] := by
  obtain ⟨events, outcome⟩ := x
  cases outcome <;> simp [Bind.bind, Run.bind]

theorem Filter.indentBy_cases (input : Option Value) (call : Invocation) :
    (∃ output, indentBy input call = pure output) ∨ indentBy input call = .abort .capacityOverflow := by
  unfold indentBy
  dsimp only
  split
  · exact .inr rfl
  · exact .inl ⟨_, rfl⟩

/-- A relation between runs that sequencing keeps. -/
structure RunRelation where
  Holds : {α : Type} → Run α → Run α → Prop
  /-- What may be supposed of a tag while what follows its evaluation is compared. -/
  Supposes : String → Prop
  pure : ∀ {α : Type} (a : α), Holds (Pure.pure a) (Pure.pure a)
  bind : ∀ {α β : Type} {x y : Run α} {f g : α → Run β},
    Holds x y → (∀ a, Holds (f a) (g a)) → Holds (x >>= f) (y >>= g)
  notice : ∀ {n : Notice}, n.isOrdinary = true → Holds (.notice n) (.notice n)
  tag : ∀ {α : Type} {body : String} {x y : Run α}, (Supposes body → Holds x y) →
    Holds (.event (.tag body) >>= fun _ => x) (.event (.tag body) >>= fun _ => y)

namespace RunRelation

variable {R : RunRelation} {α β : Type}

theorem map {x y : Run α} (h : R.Holds x y) (f : α → β) : R.Holds (f <$> x) (f <$> y) := by
  rw [map_eq_pure_bind, map_eq_pure_bind]
  exact R.bind h fun a => R.pure _

theorem mapM {f g : α → Run β} {xs : List α} (h : ∀ a ∈ xs, R.Holds (f a) (g a)) :
    R.Holds (xs.mapM f) (xs.mapM g) := by
  induction xs with
  | nil => exact R.pure _
  | cons a xs ih =>
    rw [List.mapM_cons, List.mapM_cons]
    have htail := ih fun b hb => h b (List.mem_cons_of_mem a hb)
    exact R.bind (h a List.mem_cons_self) fun b => R.bind htail fun bs => R.pure _

theorem optionMapM {f g : α → Run β} (h : ∀ a, R.Holds (f a) (g a)) (v : Option α) :
    R.Holds (v.mapM f) (v.mapM g) := by
  cases v with
  | none => exact R.pure _
  | some a => exact map (h a) some

theorem foldlM {f g : β → α → Run β} (h : ∀ b a, R.Holds (f b a) (g b a)) (xs : List α) (b : β) :
    R.Holds (xs.foldlM f b) (xs.foldlM g b) := by
  induction xs generalizing b with
  | nil => exact R.pure _
  | cons a xs ih =>
    rw [List.foldlM_cons, List.foldlM_cons]
    exact R.bind (h b a) ih

theorem firstMatch (subject : Option (List Char)) (tests : List String) :
    R.Holds (Filter.firstMatch subject tests) (Filter.firstMatch subject tests) := by
  induction hn : tests.length using Nat.strongRecOn generalizing tests with
  | ind n ih =>
    cases tests with
    | nil =>
      rw [Filter.firstMatch]
      exact R.pure _
    | cons test rest =>
      have hlen := Filter.length_drop_one_lt test rest
      have hrest := ih _ (hn ▸ hlen) (rest.drop 1) rfl
      rw [Filter.firstMatch.eq_def]
      dsimp only
      split
      · exact R.pure _
      · split
        · exact hrest
        · split
          · split
            · exact R.pure _
            · exact hrest
          · exact R.bind (R.notice rfl) fun _ => hrest

theorem split (v : Value) (call : Invocation) :
    R.Holds (Filter.split v call) (Filter.split v call) := by
  unfold Filter.split
  dsimp only
  split
  · exact R.pure _
  · split
    · split
      · exact R.pure _
      · exact R.bind (R.notice rfl) fun _ => R.pure _
    · exact R.pure _

theorem indentBy (habort : ∀ {α : Type},
      R.Holds (Run.abort .capacityOverflow : Run α) (Run.abort .capacityOverflow))
    (input : Option Value) (call : Invocation) :
    R.Holds (Filter.indentBy input call) (Filter.indentBy input call) := by
  obtain ⟨output, h⟩ | h := Filter.indentBy_cases input call
  · rw [h]
    exact R.pure output
  · rw [h]
    exact habort

theorem base64Decode (v : Value) : R.Holds (Filter.base64Decode v) (Filter.base64Decode v) := by
  unfold Filter.base64Decode
  split
  · exact R.pure _
  · exact R.bind (R.notice rfl) fun _ => R.pure _

section Settle

variable {settle settle' : Value → Run Value} (hsettle : ∀ v, R.Holds (settle v) (settle' v))
include hsettle

theorem settledArgument (argument : String) :
    R.Holds (Filter.settledArgument settle argument) (Filter.settledArgument settle' argument) := by
  unfold Filter.settledArgument
  dsimp only
  split
  · exact R.bind (hsettle _) fun _ => R.pure _
  · exact R.pure _

theorem calculate (v : Value) (call : Invocation) :
    R.Holds (Filter.calculate settle v call) (Filter.calculate settle' v call) := by
  unfold Filter.calculate
  split
  · exact R.pure _
  · refine R.bind (mapM fun a _ => ?_) fun numbers => ?_
    · exact R.bind (settledArgument hsettle a) fun _ => R.pure _
    · split
      · exact R.pure _
      · split
        · exact R.bind (R.notice rfl) fun _ => R.pure _
        · exact R.pure _

/-- Stock filters differ in the references that they settle only. -/
theorem stock {f : Stock} {input : Option Value} {call : Invocation}
    (hindent : f = .indent → R.Holds (Filter.indentBy input call) (Filter.indentBy input call)) :
    R.Holds (f.apply settle input call) (f.apply settle' input call) := by
  cases f with
  | onMatch => exact map (firstMatch _ _) some
  | split => exact optionMapM (fun v => split v call) input
  | indent => exact hindent rfl
  | calculate => exact optionMapM (fun v => calculate hsettle v call) input
  | base64Decode => exact optionMapM base64Decode input
  | _ => exact R.pure _

end Settle

end RunRelation

namespace Engine

/-- What a level makes of an alias: the chain that it stands for, or beyond the bound its input. -/
def throughAlias (e : Engine) (l : Level) (name chain : String) (v : Option Value) :
    Run (Option Value) :=
  match l.chain? with
  | some apply => apply chain v
  | none => do
    .notice (.aliasDepth name e.configuration.maxDepth)
    return v

structure Level.Related (R : RunRelation) (P : String → Prop) (e e' : Engine) (l l' : Level) :
    Prop where
  render : ∀ template, R.Holds (l.render template) (l'.render template)
  renderTag : ∀ tag, P tag → R.Holds (l.renderTag tag) (l'.renderTag tag)
  throughAlias : ∀ name chain v,
    R.Holds (e.throughAlias l name chain v) (e'.throughAlias l' name chain v)

/-- Two engines do related things at a level of each: with their filters, their questions and what lies
deeper. -/
structure Aligned (R : RunRelation) (P : String → Prop) (e e' : Engine) (r r' : Resolver)
    (depth depth' : Nat) (deeper deeper' : Unit → Level) : Prop where
  level : Level.Related R P e e' (deeper ()) (deeper' ())
  filter : ∀ v filter, R.Holds (e.applyFilter deeper v filter) (e'.applyFilter deeper' v filter)
  ask : ∀ path, R.Holds (ask r path depth) (ask r' path depth')
  askTemplate : ∀ name, R.Holds (askTemplate r name depth) (askTemplate r' name depth')
  keepUndefined : e.configuration.keepUndefined = e'.configuration.keepUndefined

def SubTags (P : String → Prop) (body : String) : Prop :=
  ∀ inside ∈ subReferences body, P ("\x7b" ++ String.ofList inside ++ "\x7d")

variable {R : RunRelation} {P : String → Prop} {e e' : Engine} {r r' : Resolver}
  {depth depth' : Nat} {deeper deeper' : Unit → Level}

section Filters

variable (h : Level.Related R P e e' (deeper ()) (deeper' ()))
include h

theorem Level.Related.settle (v : Value) : R.Holds (settle deeper v) (settle deeper' v) := by
  cases v with
  | snippet template => exact RunRelation.map (h.render template) Value.text
  | text s => exact R.pure _
  | list items => exact R.pure _
  | map entries => exact R.pure _

theorem Level.Related.settleOption (v : Option Value) :
    R.Holds (settleOption deeper v) (settleOption deeper' v) :=
  RunRelation.optionMapM h.settle v

/-- A filter that both engines have alike does related things. -/
theorem Level.Related.applyFilter {filter name : String}
    (hname : Unicode.lowercase (Invocation.parse filter).name = name)
    (hcustom : Table.get? name e.registry.custom = Table.get? name e'.registry.custom)
    (haliases : Table.get? name e.registry.aliases = Table.get? name e'.registry.aliases)
    (hfault : ∀ message, R.Holds (.notice (.customFault (Invocation.parse filter).name message))
      (.notice (.customFault (Invocation.parse filter).name message)))
    (hindent : Table.get? name e.registry.custom = none → Table.get? name e.registry.aliases = none →
      Stock.ofName? name = some .indent →
        ∀ v call, R.Holds (Filter.indentBy v call) (Filter.indentBy v call))
    (v : Option Value) :
    R.Holds (e.applyFilter deeper v filter) (e'.applyFilter deeper' v filter) := by
  unfold Engine.applyFilter
  dsimp only
  rw [hname, ← hcustom, ← haliases]
  cases hf : Table.get? name e.registry.custom with
  | some f =>
    dsimp only
    split
    · exact R.pure _
    · exact R.bind (hfault _) fun _ => R.pure _
  | none =>
    cases hchain : Table.get? name e.registry.aliases with
    | some chain => exact h.throughAlias name chain v
    | none =>
      cases hstock : Stock.ofName? name with
      | some f =>
        refine RunRelation.stock h.settle fun hf' => ?_
        exact hindent hf hchain (hf' ▸ hstock) v _
      | none => exact R.bind (R.notice rfl) fun _ => R.pure _

end Filters

namespace Aligned

variable (h : Aligned R P e e' r r' depth depth' deeper deeper')
include h

theorem applyChain (chain : String) (v : Option Value) :
    R.Holds (e.applyChain deeper chain v) (e'.applyChain deeper' chain v) := by
  unfold Engine.applyChain
  refine RunRelation.foldlM (fun v filter => ?_) _ _
  exact R.bind (h.filter v filter) h.level.settleOption

theorem question (sigil : Char) (path : List String) :
    R.Holds (question r depth sigil path) (question r' depth' sigil path) := by
  unfold Engine.question
  split
  · exact h.askTemplate _
  · exact h.ask path

theorem expandPath {path : List String}
    (hpath : ∀ segment ∈ path, ∀ inside ∈ inner? segment.toList,
      P ("\x7b" ++ String.ofList inside ++ "\x7d")) :
    R.Holds (expandPath deeper path) (expandPath deeper' path) := by
  rw [expandPath_eq, expandPath_eq]
  refine RunRelation.mapM fun segment hsegment => ?_
  cases hinner : inner? segment.toList with
  | none => exact R.pure _
  | some inside => exact h.level.renderTag _ (hpath segment hsegment inside hinner)

theorem orDefault (x : Expression) (v : Option Value) :
    R.Holds (orDefault deeper x v) (orDefault deeper' x v) := by
  cases v with
  | none => exact h.level.settleOption _
  | some v => exact R.pure _

theorem throughChain (x : Expression) (v : Option Value) :
    R.Holds (e.throughChain deeper x v) (e'.throughChain deeper' x v) := by
  unfold Engine.throughChain
  split
  · exact h.applyChain _ _
  · exact R.pure _

theorem outputOf (x : Expression) (v : Option Value) :
    R.Holds (e.outputOf deeper x v) (e'.outputOf deeper' x v) := by
  unfold Engine.outputOf
  split
  · exact R.bind (h.orDefault x v) (h.throughChain x)
  · exact R.bind (h.throughChain x v) (h.orDefault x)

theorem evaluateExpression (sigil : Char) {x : Expression}
    (hx : ∀ segment ∈ x.path, ∀ inside ∈ inner? segment.toList,
      P ("\x7b" ++ String.ofList inside ++ "\x7d")) :
    R.Holds (e.evaluateExpression r depth deeper sigil x)
      (e'.evaluateExpression r' depth' deeper' sigil x) := by
  rw [evaluateExpression_eq, evaluateExpression_eq]
  refine R.bind (h.expandPath hx) fun path => ?_
  refine R.bind (h.question sigil path) fun found => ?_
  refine R.bind (h.level.settleOption found) fun value => ?_
  exact R.bind (h.outputOf x value) h.level.settleOption

/-- What follows a conditional include may take its tag to be one that such an include stands for. -/
theorem conditionalTag_bind {α : Type} {body : String} {f g : Except ConditionError String → Run α}
    (herror : ∀ fault, R.Holds (f (.error fault)) (g (.error fault)))
    (hok : ∀ i, ConditionalInclude.parse body = .ok i →
      ∀ current, R.Holds (f (.ok (i.tag current))) (g (.ok (i.tag current)))) :
    R.Holds (conditionalTag r depth deeper body >>= f)
      (conditionalTag r' depth' deeper' body >>= g) := by
  unfold conditionalTag
  cases hparse : ConditionalInclude.parse body with
  | error fault =>
    simp only [pure_bind]
    exact herror fault
  | ok i =>
    cases hname : i.comparesWith? with
    | none =>
      simp only [hname, pure_bind]
      exact hok i hparse ""
    | some name =>
      simp only [hname, bind_assoc, pure_bind]
      refine R.bind (h.ask _) fun found => ?_
      refine R.bind (h.level.settleOption found) fun current => ?_
      exact hok i hparse (Value.displayOr current)

theorem evaluatePlain {body : String} (hbody : SubTags P body)
    (hplain : ∀ sigil rest, body.toList = sigil :: rest → isConditional sigil rest = false) :
    R.Holds (e.evaluatePlain r depth deeper body) (e'.evaluatePlain r' depth' deeper' body) := by
  unfold Engine.evaluatePlain
  split
  · exact R.pure _
  · next sigil rest hchars =>
    have hsub (segment : String) (hsegment : segment ∈ (Expression.ofChars rest).path)
        (inside : List Char) (hinside : inside ∈ inner? segment.toList)
        (hnot : ¬ (sigil = '.' ∨ sigil = '^')) : inside ∈ subReferences body := by
      unfold subReferences
      rw [hchars]
      simp only [hplain sigil rest hchars, hnot]
      exact List.mem_filterMap.mpr ⟨segment, by simpa using hsegment, hinside⟩
    split
    · exact R.pure _
    · split
      · exact R.bind (R.notice rfl) fun _ => R.pure _
      · next hnot =>
        refine h.evaluateExpression sigil fun segment hsegment inside hinside => ?_
        exact hbody inside (hsub segment hsegment inside hinside hnot)

theorem evaluate {body : String} (hbody : R.Supposes body → SubTags P body) :
    R.Holds (e.evaluate r depth deeper body) (e'.evaluate r' depth' deeper' body) := by
  unfold Engine.evaluate
  refine R.tag fun hsupposed => ?_
  split
  · exact R.pure _
  · next sigil rest hchars =>
    by_cases hconditional : isConditional sigil rest = true
    · simp only [hconditional, if_true]
      refine h.conditionalTag_bind (fun fault => R.pure _) fun i hparse current => ?_
      refine R.bind (R.notice rfl) fun _ => ?_
      have hnone : SubTags P (i.tag current) := by
        simp [SubTags, subReferences_tag hparse current]
      refine h.evaluatePlain hnone fun sigil' rest' hchars' => ?_
      obtain ⟨tail, htail⟩ := i.toList_tag current
      obtain ⟨rfl, -⟩ := List.cons.inj (htail ▸ hchars')
      rfl
    · simp only [hconditional]
      refine h.evaluatePlain (hbody hsupposed) fun sigil' rest' hchars' => ?_
      obtain ⟨rfl, rfl⟩ := List.cons.inj (hchars ▸ hchars')
      simpa using hconditional

theorem renderTagAt {tag : String} (htag : R.Supposes (tagBody tag) → SubTags P (tagBody tag)) :
    R.Holds (e.renderTagAt r depth deeper tag) (e'.renderTagAt r' depth' deeper' tag) := by
  unfold Engine.renderTagAt
  dsimp only
  split
  · exact R.pure _
  · refine R.bind (h.evaluate htag) fun v => ?_
    rw [h.keepUndefined]
    split <;> exact R.pure _

theorem renderAt (hall : ∀ body, R.Supposes body → SubTags P body) (template : String) :
    R.Holds (e.renderAt r depth deeper template) (e'.renderAt r' depth' deeper' template) := by
  unfold Engine.renderAt
  refine R.bind (RunRelation.mapM fun piece _ => ?_) fun parts => R.pure _
  cases piece with
  | text s => exact R.pure _
  | tag s => exact h.renderTagAt (hall _)

/-- From levels that are aligned the next levels up are built, and these are related. -/
theorem related {P' : String → Prop} (hall : ∀ body, R.Supposes body → SubTags P body)
    (htag : ∀ tag, P' tag → R.Supposes (tagBody tag) → SubTags P (tagBody tag)) :
    Level.Related R P' e e'
      ⟨e.renderAt r depth deeper, e.renderTagAt r depth deeper, some (e.applyChain deeper)⟩
      ⟨e'.renderAt r' depth' deeper', e'.renderTagAt r' depth' deeper',
        some (e'.applyChain deeper')⟩ where
  render template := by
    dsimp only
    exact h.renderAt hall template
  renderTag tag hP := by
    dsimp only
    exact h.renderTagAt (htag tag hP)
  throughAlias _ := h.applyChain

end Aligned

structure Answers (R : RunRelation) (e e' : Engine) (r r' : Resolver) : Prop where
  render : ∀ template, R.Holds (e.render r template) (e'.render r' template)
  renderTag : ∀ tag, R.Holds (e.renderTag r tag) (e'.renderTag r' tag)
  evaluateTag : ∀ tag, R.Holds (e.evaluateTag r tag) (e'.evaluateTag r' tag)
  evaluateChain : ∀ chain v, R.Holds (e.evaluateChain r chain v) (e'.evaluateChain r' chain v)

theorem Aligned.answers (h : Aligned R P e e' r r' 0 0 (e.deeper r) (e'.deeper r'))
    (hall : ∀ body, R.Supposes body → SubTags P body) : Answers R e e' r r' where
  render := h.renderAt hall
  renderTag _ := h.renderTagAt (hall _)
  evaluateTag _ := h.evaluate (hall _)
  evaluateChain chain v := R.bind (h.applyChain chain v) h.level.settleOption

/-- Engines with the same filters that put the same questions are aligned where the levels below are. -/
theorem Aligned.of_related (hrefl : ∀ {α : Type} (x : Run α), R.Holds x x)
    (hregistry : e.registry = e'.registry)
    (hkeep : e.configuration.keepUndefined = e'.configuration.keepUndefined)
    (hlevel : Level.Related R P e e' (deeper ()) (deeper' ())) :
    Aligned R P e e' r r depth depth deeper deeper' where
  level := hlevel
  filter v _ := hlevel.applyFilter rfl (by rw [hregistry]) (by rw [hregistry]) (fun _ => hrefl _)
    (fun _ _ _ _ _ => hrefl _) v
  ask _ := hrefl _
  askTemplate _ := hrefl _
  keepUndefined := hkeep

/-- Two engines that do related things at all their levels, where one of them is deeper by an offset. -/
structure Companions (R : RunRelation) (e e' : Engine) (r r' : Resolver) (offset : Nat) : Prop where
  filter : ∀ {deeper deeper' : Unit → Level},
    Level.Related R (fun _ => True) e e' (deeper ()) (deeper' ()) →
      ∀ v filter, R.Holds (e.applyFilter deeper v filter) (e'.applyFilter deeper' v filter)
  ask : ∀ path depth, R.Holds (Engine.ask r path (depth + offset)) (Engine.ask r' path depth)
  askTemplate : ∀ name depth,
    R.Holds (Engine.askTemplate r name (depth + offset)) (Engine.askTemplate r' name depth)
  keepUndefined : e.configuration.keepUndefined = e'.configuration.keepUndefined
  renderDepth : ∀ depth,
    R.Holds (.notice (.renderDepth (depth + offset) e.configuration.maxDepth))
      (.notice (.renderDepth depth e'.configuration.maxDepth))
  aliasDepth : ∀ name,
    R.Holds (.notice (.aliasDepth name e.configuration.maxDepth))
      (.notice (.aliasDepth name e'.configuration.maxDepth))

namespace Companions

variable {offset : Nat} (h : Companions R e e' r r' offset)
include h

theorem aligned (depth : Nat)
    (hlevel : Level.Related R (fun _ => True) e e' (deeper ()) (deeper' ())) :
    Aligned R (fun _ => True) e e' r r' (depth + offset) depth deeper deeper' where
  level := hlevel
  filter := h.filter hlevel
  ask path := h.ask path depth
  askTemplate name := h.askTemplate name depth
  keepUndefined := h.keepUndefined

theorem unexpanded (depth : Nat) (template : String) :
    R.Holds (e.unexpanded (depth + offset) template) (e'.unexpanded depth template) :=
  R.bind (h.renderDepth depth) fun _ => R.pure _

theorem aliasUnexpanded (name : String) (v : Option Value) :
    R.Holds (Run.notice (.aliasDepth name e.configuration.maxDepth) >>= fun _ => Pure.pure v)
      (Run.notice (.aliasDepth name e'.configuration.maxDepth) >>= fun _ => Pure.pure v) :=
  R.bind (h.aliasDepth name) fun _ => R.pure _

theorem renderTagBeyond (length depth : Nat) (tag : String) :
    R.Holds (e.renderTagBeyond r length (depth + offset) tag)
      (e'.renderTagBeyond r' length depth tag) := by
  induction length generalizing depth tag with
  | zero => exact R.pure _
  | succ length ih =>
    have hdepth : depth + offset + 1 = depth + 1 + offset := by omega
    have hlevel : Level.Related R (fun _ => True) e e'
        ⟨e.unexpanded (depth + 1 + offset), e.renderTagBeyond r length (depth + 1 + offset), none⟩
        ⟨e'.unexpanded (depth + 1), e'.renderTagBeyond r' length (depth + 1), none⟩ :=
      ⟨h.unexpanded (depth + 1), fun tag _ => ih (depth + 1) tag, fun name _ => h.aliasUnexpanded name⟩
    rw [Engine.renderTagBeyond, Engine.renderTagBeyond, hdepth]
    refine (h.aligned depth ?_).renderTagAt fun _ _ _ => trivial
    exact hlevel

/-- As long as the same number of levels is left to both engines, they do related things. -/
theorem level (room depth : Nat) :
    Level.Related R (fun _ => True) e e' (e.level r room (depth + offset)) (e'.level r' room depth) := by
  induction room generalizing depth with
  | zero =>
    unfold Engine.level Engine.beyond
    refine ⟨h.unexpanded depth, fun tag _ => ?_, fun name _ => h.aliasUnexpanded name⟩
    dsimp only
    exact h.renderTagBeyond _ depth tag
  | succ room ih =>
    have hdepth : depth + offset + 1 = depth + 1 + offset := by omega
    have hlevel := ih (depth + 1)
    rw [← hdepth] at hlevel
    exact (h.aligned depth hlevel).related (fun _ _ _ _ => trivial) fun _ _ _ _ _ => trivial

end Companions

theorem Companions.answers (h : Companions R e e' r r' 0)
    (hbound : e.configuration.maxDepth = e'.configuration.maxDepth) : Answers R e e' r r' := by
  have hlevel := h.level e'.configuration.maxDepth 1
  have haligned : Aligned R (fun _ => True) e e' r r' 0 0 (e.deeper r) (e'.deeper r') :=
    h.aligned 0 (by simpa only [Engine.deeper, hbound] using hlevel)
  exact haligned.answers fun _ _ _ _ => trivial

def withMaxDepth (e : Engine) (bound : Nat) : Engine :=
  { e with configuration := { e.configuration with maxDepth := bound } }

end Engine

end Stencil
