import Mathlib.Data.List.Basic
import Stencil.Pattern

/-!
# Places of matches

Where a search finds a match, the match starts at or after the place from which the search started, does not end
before it starts, and ends within the text. A thread saves places in the order in which it comes to them, and it
comes to the end of a program through the instruction that saves the end of the match.
-/
namespace Stencil.Pattern

def Instruction.LeadsWithin (stop : ℕ) : Instruction → Prop
  | split first second => first ≤ stop ∧ second ≤ stop
  | jump target => target ≤ stop
  | accept => False
  | _ => True

theorem Instruction.LeadsWithin.mono {stop stop' : ℕ} {i : Instruction} (h : i.LeadsWithin stop)
    (hstop : stop ≤ stop') : i.LeadsWithin stop' := by
  cases i with
  | split first second => exact ⟨Nat.le_trans h.1 hstop, Nat.le_trans h.2 hstop⟩
  | jump target => exact Nat.le_trans h hstop
  | accept => exact h
  | _ => trivial

namespace Node

theorem leadsWithin_fork {greedy : Bool} {body after stop : ℕ} (hbody : body ≤ stop) (hafter : after ≤ stop) :
    (fork greedy body after).LeadsWithin stop := by
  unfold fork
  split
  · exact ⟨hbody, hafter⟩
  · exact ⟨hafter, hbody⟩

theorem length_copies {n length base : ℕ} {code : ℕ → List Instruction}
    (h : ∀ base, (code base).length = length) : (copies n length base code).length = n * length := by
  simp [copies, List.length_flatMap, h]

theorem leadsWithin_copies {n length base : ℕ} {code : ℕ → List Instruction} {stop : ℕ}
    (h : ∀ k, k < n → ∀ i ∈ code (base + k * length), i.LeadsWithin stop) :
    ∀ i ∈ copies n length base code, i.LeadsWithin stop := by
  intro i hi
  obtain ⟨k, hk, hi⟩ := List.mem_flatMap.mp hi
  exact h k (List.mem_range.mp hk) i hi

theorem length_code (n : Node) (base : ℕ) : (n.code base).length = n.length := by
  induction n generalizing base with
  | empty | oneOf _ | look _ => rfl
  | capture index body ih => simp [code, length, ih]
  | seq a b iha ihb => simp [code, length, iha, ihb]
  | either a b iha ihb =>
    simp [code, length, iha, ihb]
    omega
  | repetition least most greedy body ih =>
    have hsplit (base : ℕ) (fork : Instruction) :
        (fork :: body.code (base + 1)).length = body.length + 1 := by
      rw [List.length_cons, ih]
    cases most with
    | some most => simp [code, length, length_copies ih, length_copies fun _ => hsplit _ _]
    | none =>
      by_cases hleast : least = 0
      · by_cases hnull : body.isNullable = true <;> simp [code, length, hleast, hnull, ih]
      · simp [code, length, hleast, length_copies ih]

/-- The `k`-th of `n` copies ends where the copies end or before. -/
theorem copy_le {k n : ℕ} (hk : k < n) (length : ℕ) : k * length + length ≤ n * length := by
  calc
    k * length + length = (k + 1) * length := (Nat.succ_mul k length).symm
    _ ≤ n * length := Nat.mul_le_mul_right length hk

/-- A repetition leads no further than its own end if its body does not. -/
theorem leadsWithin_repetition {body : Node} (hbody : ∀ base, ∀ i ∈ body.code base, i.LeadsWithin (base + body.length))
    (least : ℕ) (most : Option ℕ) (greedy : Bool) (base : ℕ) :
    ∀ i ∈ (repetition least most greedy body).code base,
      i.LeadsWithin (base + (repetition least most greedy body).length) := by
  intro i hi
  cases most with
  | some most =>
    rcases List.mem_append.mp hi with hi | hi
    · refine leadsWithin_copies (fun k hk i hi => (hbody _ i hi).mono ?_) i hi
      have := copy_le hk body.length
      simp only [length]
      omega
    · refine leadsWithin_copies (fun k hk i hi => ?_) i hi
      have := copy_le hk (body.length + 1)
      rcases List.mem_cons.mp hi with rfl | hi
      · exact leadsWithin_fork (by simp only [length]; omega) (by simp only [length]; omega)
      · exact (hbody _ i hi).mono (by simp only [length]; omega)
  | none =>
    by_cases hleast : least = 0
    · have hlength : (repetition least none greedy body).length = body.length + 2 := by simp [length, hleast]
      have hfork : (fork greedy (base + 1) (base + body.length + 2)).LeadsWithin (base + (body.length + 2)) :=
        leadsWithin_fork (by omega) (by omega)
      have hinside : ∀ i ∈ body.code (base + 1), i.LeadsWithin (base + (body.length + 2)) :=
        fun i hi => (hbody _ i hi).mono (by omega)
      rw [hlength]
      rw [code] at hi
      dsimp only at hi
      rw [if_pos hleast] at hi
      split at hi
      all_goals
        simp only [List.cons_append, List.mem_cons, List.mem_append, List.not_mem_nil, or_false] at hi
        rcases hi with rfl | hi | rfl
      · exact hfork
      · exact hinside i hi
      · exact hfork
      · exact hfork
      · exact hinside i hi
      · exact Nat.le_add_right _ _
    · have hlength : (repetition least none greedy body).length = least * body.length + 1 := by
        simp [length, hleast]
      have hlast := copy_le (Nat.sub_one_lt hleast) body.length
      rw [code] at hi
      dsimp only at hi
      rw [if_neg hleast] at hi
      rcases List.mem_append.mp hi with hi | hi
      · refine leadsWithin_copies (fun k hk i hi => (hbody _ i hi).mono ?_) i hi
        have := copy_le hk body.length
        omega
      · obtain rfl := List.mem_singleton.mp hi
        exact leadsWithin_fork (by omega) (by omega)

/-- The code of a node leads to its own instructions or to what follows it. -/
theorem leadsWithin_code (n : Node) (base : ℕ) : ∀ i ∈ n.code base, i.LeadsWithin (base + n.length) := by
  induction n generalizing base with
  | empty => simp [code]
  | oneOf s => simp [code, Instruction.LeadsWithin]
  | look l => simp [code, Instruction.LeadsWithin]
  | capture index body ih =>
    intro i hi
    simp only [code, List.cons_append, List.mem_cons, List.mem_append, List.not_mem_nil, or_false] at hi
    rcases hi with rfl | hi | rfl
    · trivial
    · exact (ih _ i hi).mono (by simp [length]; omega)
    · trivial
  | seq a b iha ihb =>
    intro i hi
    rcases List.mem_append.mp hi with hi | hi
    · exact (iha _ i hi).mono (by simp [length])
    · exact (ihb _ i hi).mono (by simp [length]; omega)
  | either a b iha ihb =>
    intro i hi
    simp only [code, List.cons_append, List.mem_cons, List.mem_append] at hi
    rcases hi with rfl | hi | rfl | hi
    · simp [Instruction.LeadsWithin, length]
      omega
    · exact (iha _ i hi).mono (by simp [length]; omega)
    · simp [Instruction.LeadsWithin, length]
      omega
    · exact (ihb _ i hi).mono (by simp [length]; omega)
  | repetition least most greedy body ih => exact leadsWithin_repetition ih least most greedy base

end Node

/-- A program that saves the end of the match and accepts. No other instruction leads to the one that accepts. -/
structure Program.SavesEnd (p : Program) (last : ℕ) : Prop where
  save : p[last]? = some (.save 1)
  accept : p[last + 1]? = some .accept
  le : ∀ pc i, p[pc]? = some i → pc ≤ last + 1
  inside : ∀ pc i, p[pc]? = some i → pc ≤ last → i.LeadsWithin last

theorem Program.savesEnd_ofNode (n : Node) : (ofNode n).SavesEnd (n.length + 1) := by
  have hget (pc : ℕ) : (ofNode n)[pc]? = ((Node.capture 0 n).code 0 ++ [Instruction.accept])[pc]? := by
    rw [ofNode, List.getElem?_toArray]
  have hcode : (Node.capture 0 n).code 0 ++ [Instruction.accept] =
      (Instruction.save 0 :: n.code 1) ++ [Instruction.save 1, .accept] := by
    simp [Node.code]
  have hlength : (Instruction.save 0 :: n.code 1).length = n.length + 1 := by
    rw [List.length_cons, Node.length_code]
  refine ⟨?_, ?_, ?_, ?_⟩
  · rw [hget, hcode, List.getElem?_append_right (by omega), hlength, Nat.sub_self]
    rfl
  · rw [hget, hcode, List.getElem?_append_right (by omega), hlength, Nat.add_sub_cancel_left]
    rfl
  · intro pc i hi
    rw [hget, hcode] at hi
    have := (List.getElem?_eq_some_iff.mp hi).1
    simp only [List.length_append, hlength, List.length_cons, List.length_nil] at this
    omega
  · intro pc i hi hpc
    rw [hget, hcode] at hi
    rcases Nat.lt_or_ge pc (n.length + 1) with hlt | hge
    · rw [List.getElem?_append_left (by omega)] at hi
      rcases List.mem_cons.mp (List.mem_of_getElem? hi) with rfl | hmem
      · trivial
      · exact (n.leadsWithin_code 1 i hmem).mono (by omega)
    · obtain rfl : pc = n.length + 1 := Nat.le_antisymm hpc hge
      rw [List.getElem?_append_right (by omega), hlength, Nat.sub_self] at hi
      obtain rfl := Option.some.inj hi
      trivial

def SlotsWithin (start stop : ℕ) (slots : List (ℕ × ℕ)) : Prop :=
  ∀ s ∈ slots, start ≤ s.2 ∧ s.2 ≤ stop

theorem SlotsWithin.mono {start stop stop' : ℕ} {slots : List (ℕ × ℕ)} (h : SlotsWithin start stop slots)
    (hstop : stop ≤ stop') : SlotsWithin start stop' slots :=
  fun s hs => ⟨(h s hs).1, Nat.le_trans (h s hs).2 hstop⟩

structure Ending (start stop : ℕ) (slots : List (ℕ × ℕ)) : Prop where
  within : SlotsWithin start stop slots
  saved : slots.head? = some (1, stop)

/-- A thread at a place of the text: its slots hold places up to this one, and if it is about to accept it has
just saved this place as the end of the match. -/
structure Thread.At (last start place : ℕ) (t : Thread) : Prop where
  within : SlotsWithin start place t.slots
  saved : t.pc = last + 1 → t.slots.head? = some (1, place)

section thread

variable {p : Program} {last start place pc : ℕ} {slots : List (ℕ × ℕ)} {i : Instruction}
  {before after next : Option Char}

theorem Thread.At.of_le (hpc : pc ≤ last) (h : SlotsWithin start place slots) :
    Thread.At last start place ⟨pc, slots⟩ where
  within := h
  saved h := absurd h (by simp only; omega)

/-- An instruction that neither accepts nor saves the end of the match is followed by one that does not accept
either. -/
theorem Program.SavesEnd.succ_le (hp : p.SavesEnd last) (h : p[pc]? = some i) (haccept : i ≠ .accept)
    (hsave : i ≠ .save 1) : pc + 1 ≤ last := by
  have hle := hp.le pc i h
  have hlast : pc ≠ last := by
    rintro rfl
    exact hsave (Option.some.inj (h.symm.trans hp.save))
  have hend : pc ≠ last + 1 := by
    rintro rfl
    exact haccept (Option.some.inj (h.symm.trans hp.accept))
  omega

theorem Program.SavesEnd.leadsWithin (hp : p.SavesEnd last) (h : p[pc]? = some i) (haccept : i ≠ .accept) :
    i.LeadsWithin last := by
  have hle := hp.le pc i h
  have hend : pc ≠ last + 1 := by
    rintro rfl
    exact haccept (Option.some.inj (h.symm.trans hp.accept))
  exact hp.inside pc i h (by omega)

theorem Thread.At.save (hp : p.SavesEnd last) (hstart : start ≤ place) {slot : ℕ}
    (h : p[pc]? = some (.save slot)) (hslots : SlotsWithin start place slots) :
    Thread.At last start place ⟨pc + 1, (slot, place) :: slots⟩ where
  within s hs := by
    rcases List.mem_cons.mp hs with rfl | hs
    · exact ⟨hstart, Nat.le_refl _⟩
    · exact hslots s hs
  saved hpc := by
    obtain rfl : pc = last := Nat.succ.inj hpc
    obtain ⟨rfl⟩ := h.symm.trans hp.save
    rfl

/-- Following threads leaves them at their place. -/
theorem follow_at (hp : p.SavesEnd last) (hstart : start ≤ place) (fuel : ℕ) (threads : List Thread)
    (seen : Array Bool) (h : ∀ t ∈ threads, t.At last start place) :
    ∀ t ∈ follow p before after place fuel threads seen, t.At last start place := by
  induction fuel generalizing threads seen with
  | zero => simp [follow]
  | succ fuel ih =>
    cases threads with
    | nil => simp [follow]
    | cons t rest =>
      obtain ⟨ht, hrest⟩ := List.forall_mem_cons.mp h
      rw [follow]
      split
      · exact ih rest seen hrest
      · dsimp only
        split
        · next target hi =>
          have hle : target ≤ last := hp.leadsWithin hi (by simp)
          exact ih _ _ (List.forall_mem_cons.mpr ⟨.of_le hle ht.within, hrest⟩)
        · next first second hi =>
          have hle : first ≤ last ∧ second ≤ last := hp.leadsWithin hi (by simp)
          exact ih _ _ (List.forall_mem_cons.mpr ⟨.of_le hle.1 ht.within,
            List.forall_mem_cons.mpr ⟨.of_le hle.2 ht.within, hrest⟩⟩)
        · next slot hi =>
          exact ih _ _ (List.forall_mem_cons.mpr ⟨.save hp hstart hi ht.within, hrest⟩)
        · next l hi =>
          have hle := hp.succ_le hi (by simp) (by simp)
          refine ih _ _ ?_
          split
          · exact List.forall_mem_cons.mpr ⟨.of_le hle ht.within, hrest⟩
          · exact hrest
        · exact List.forall_mem_cons.mpr ⟨ht, ih _ _ hrest⟩
        · exact ih _ _ hrest

/-- What a thread has saved when it accepts ends at the place that has been reached. -/
theorem advance_at (hp : p.SavesEnd last) (threads : List Thread)
    (h : ∀ t ∈ threads, t.At last start place) :
    (∀ t ∈ (advance p next threads).1, t.At last start (place + 1)) ∧
      ∀ slots ∈ (advance p next threads).2, Ending start place slots := by
  induction threads with
  | nil => simp [advance]
  | cons t rest ih =>
    obtain ⟨ht, hrest⟩ := List.forall_mem_cons.mp h
    have hrest := ih hrest
    rw [advance]
    split
    · next hi =>
      -- no instruction up to the last save accepts
      have hpc : t.pc = last + 1 := by
        by_contra hne
        have hle := hp.le _ _ hi
        exact hp.inside _ _ hi (by omega)
      refine ⟨List.forall_mem_nil _, ?_⟩
      rintro slots ⟨⟩
      exact ⟨ht.within, ht.saved hpc⟩
    · next s hi =>
      have hle := hp.succ_le hi (by simp) (by simp)
      generalize advance p next rest = r at hrest
      obtain ⟨ts, found⟩ := r
      dsimp only
      split
      · exact ⟨List.forall_mem_cons.mpr ⟨.of_le hle (ht.within.mono (Nat.le_succ _)), hrest.1⟩, hrest.2⟩
      · exact hrest
    · exact hrest

def Found (start stop : ℕ) (slots : List (ℕ × ℕ)) : Prop := ∃ place ≤ stop, Ending start place slots

theorem found_or {found best : Option (List (ℕ × ℕ))} {stop : ℕ}
    (hfound : ∀ slots ∈ found, Ending start place slots) (hplace : place ≤ stop)
    (hbest : ∀ slots ∈ best, Found start stop slots) : ∀ slots ∈ found.or best, Found start stop slots := by
  cases found with
  | none => exact hbest
  | some slots =>
    rintro _ ⟨⟩
    exact ⟨place, hplace, hfound slots rfl⟩

/-- The threads that have come to a place, with the new one that starts there. -/
theorem started_at {threads : List Thread} (isOpen : Bool) (h : ∀ t ∈ threads, t.At last start place) :
    ∀ t ∈ (if isOpen then threads ++ [⟨0, []⟩] else threads), t.At last start place := by
  have hnew : Thread.At last start place ⟨0, []⟩ := .of_le (Nat.zero_le _) (List.forall_mem_nil _)
  split
  · exact List.forall_mem_append.mpr ⟨h, List.forall_mem_singleton.mpr hnew⟩
  · exact h

/-- What threads have come to behind the next character, and what the first of them that accepts has saved. -/
theorem reached_at (hp : p.SavesEnd last) (before next : Option Char) (hstart : start ≤ place)
    {threads : List Thread} (h : ∀ t ∈ threads, t.At last start place) (fuel : ℕ) (seen : Array Bool) :
    (∀ t ∈ (advance p next (follow p before next place fuel threads seen)).1, t.At last start (place + 1)) ∧
      ∀ slots ∈ (advance p next (follow p before next place fuel threads seen)).2, Ending start place slots :=
  advance_at hp _ (follow_at hp hstart fuel threads seen h)

theorem scan_found (hp : p.SavesEnd last) (before : Option Char) {threads : List Thread}
    {best : Option (List (ℕ × ℕ))} {text : List Char} (hstart : start ≤ place)
    (h : ∀ t ∈ threads, t.At last start place)
    (hbest : ∀ slots ∈ best, Found start (place + text.length) slots) :
    ∀ slots ∈ scan p before place threads best text, Found start (place + text.length) slots := by
  induction text generalizing before place threads best with
  | nil =>
    have hstarted := started_at best.isNone h
    unfold scan
    dsimp only
    generalize (if best.isNone then threads ++ [⟨0, []⟩] else threads) = started at hstarted ⊢
    obtain ⟨-, hfound⟩ := reached_at hp before none hstart hstarted (started.length + 2 * p.size + 1)
      (Array.replicate p.size false)
    exact found_or hfound (Nat.le_refl _) hbest
  | cons c rest ih =>
    have hstarted := started_at best.isNone h
    have hlength : place + (c :: rest).length = place + 1 + rest.length := by
      rw [List.length_cons]
      omega
    rw [hlength] at hbest ⊢
    unfold scan
    dsimp only [List.head?_cons]
    -- from here on it does not matter whether a new thread has started
    generalize (if best.isNone then threads ++ [⟨0, []⟩] else threads) = started at hstarted ⊢
    obtain ⟨hthreads, hfound⟩ := reached_at hp before (some c) hstart hstarted
      (started.length + 2 * p.size + 1) (Array.replicate p.size false)
    have hor := found_or hfound (by omega) hbest
    split
    · exact hor
    · exact ih (some c) (Nat.le_succ_of_le hstart) hthreads hor

theorem search_found (hp : p.SavesEnd last) {text : List Char} (hstart : start ≤ text.length) :
    ∀ slots ∈ search p text start, Found start text.length slots := by
  have hlength : start + (text.drop start).length = text.length := by
    rw [List.length_drop, Nat.add_sub_cancel' hstart]
  rw [search, if_neg (Nat.not_lt.mpr hstart), ← hlength]
  exact scan_found hp _ (Nat.le_refl start) (List.forall_mem_nil _) (by simp)

end thread

/-- A match that lies between two places of a text and is the text of the first group. -/
structure Match.Within (start stop : ℕ) (m : Match) : Prop where
  start_le : start ≤ m.start
  le_stop : m.start ≤ m.stop
  stop_le : m.stop ≤ stop
  group : m.group? 0 = some (m.start, m.stop)

theorem Match.Within.mono {start start' stop : ℕ} {m : Match} (h : m.Within start' stop) (hstart : start ≤ start') :
    m.Within start stop :=
  { h with start_le := Nat.le_trans hstart h.start_le }

theorem slot?_mem {m : Match} {slot place : ℕ} (h : m.slot? slot = some place) : (slot, place) ∈ m.slots := by
  obtain ⟨s, hs, rfl⟩ := Option.map_eq_some_iff.mp h
  have hslot : s.1 = slot := by simpa using List.find?_some hs
  rw [← hslot]
  exact List.mem_of_find?_eq_some hs

theorem Ending.slot?_one {start stop : ℕ} {m : Match} (h : Ending start stop m.slots) : m.slot? 1 = some stop := by
  rw [Match.slot?]
  cases hslots : m.slots with
  | nil => simpa [hslots] using h.saved
  | cons s rest =>
    obtain rfl : s = (1, stop) := by simpa [hslots] using h.saved
    rfl

/-- A pattern whose program is that of a node, as all that have been compiled are. -/
def IsCompiled (p : Pattern) : Prop := ∃ n, p.program = .ofNode n

theorem find?_within {p : Pattern} {text : List Char} {start : ℕ} {m : Match} (hp : p.IsCompiled)
    (h : p.find? text start = some m) : m.Within start text.length := by
  obtain ⟨n, hprogram⟩ := hp
  obtain ⟨slots, hslots, hm⟩ := Option.bind_eq_some_iff.mp h
  have hstart : start ≤ text.length := by
    by_contra hlt
    rw [search, if_pos (by omega)] at hslots
    exact Option.some_ne_none _ hslots.symm
  rw [hprogram] at hslots
  obtain ⟨stop, hstop, hending⟩ := search_found (Program.savesEnd_ofNode n) hstart slots hslots
  obtain ⟨⟨first, last⟩, hgroup, hm⟩ := Option.bind_eq_some_iff.mp hm
  obtain ⟨place, hfirst, hlast⟩ := Option.bind_eq_some_iff.mp hgroup
  obtain ⟨place', hlast', heq⟩ := Option.bind_eq_some_iff.mp hlast
  obtain rfl := Option.some.inj hm
  obtain ⟨rfl, rfl⟩ := Prod.mk.inj (Option.some.inj heq)
  obtain rfl : stop = place' :=
    Option.some.inj ((Ending.slot?_one (m := ⟨0, 0, slots⟩) hending).symm.trans hlast')
  obtain ⟨hle, hle'⟩ := hending.within _ (slot?_mem hfirst)
  exact ⟨hle, hle', hstop, hgroup⟩

inductive Match.Ordered (stop : ℕ) : ℕ → List Match → Prop
  | nil (place : ℕ) : Ordered stop place []
  | cons {place : ℕ} {m : Match} {rest : List Match} (within : m.Within place stop)
    (ordered : Ordered stop m.stop rest) : Ordered stop place (m :: rest)

section compiled

variable {p : Pattern}

theorem allFrom_ordered (hp : p.IsCompiled) (text : List Char) (fuel start : ℕ) (last : Option ℕ) :
    Match.Ordered text.length start (p.allFrom text fuel start last) := by
  induction fuel generalizing start last with
  | zero => exact .nil start
  | succ fuel ih =>
    rw [allFrom]
    split
    · exact .nil start
    · next m hm =>
      have hwithin := find?_within hp hm
      split
      · split
        · exact .nil start
        · next m' hm' => exact .cons ((find?_within hp hm').mono (Nat.le_succ start)) (ih _ _)
      · exact .cons hwithin (ih _ _)

/-- All matches of a pattern stand in order. -/
theorem all_ordered (hp : p.IsCompiled) (text : List Char) : Match.Ordered text.length 0 (p.all text) :=
  allFrom_ordered hp text _ 0 none

theorem find?_ordered (hp : p.IsCompiled) (text : List Char) :
    Match.Ordered text.length 0 (p.find? text 0).toList := by
  cases h : p.find? text 0 with
  | none => exact .nil 0
  | some m => exact .cons (find?_within hp h) (.nil m.stop)

end compiled

theorem compile_eq_ok {settings : Settings} {text : String} {p : Pattern} (h : compile settings text = .ok p) :
    ∃ n t, Term.parse text.toList = .ok t ∧ p = ⟨.ofNode n, t.names⟩ := by
  unfold compile at h
  cases ht : Term.parse text.toList with
  | error fault => simp [ht, bind, Except.bind] at h
  | ok t =>
    cases hn : Node.ofTerm settings t with
    | error fault => simp [ht, hn, bind, Except.bind] at h
    | ok node =>
      simp only [ht, hn, bind, Except.bind] at h
      split at h
      · simp at h
      · exact ⟨node.1, t, rfl, (Except.ok.inj h).symm⟩

end Stencil.Pattern
