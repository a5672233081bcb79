import Cadence.Rig.State

/-!
Reading the journal of a rig, whose latest event comes first.
-/

namespace Cadence

/-- What a journal tells, from its first event to its last. -/
def chronicle {ε α : Type} (view : ε → List α) : List ε → List α
  | [] => []
  | event :: older => chronicle view older ++ view event

section Chronicle

variable {ε α : Type} {view : ε → List α}

@[simp] theorem chronicle_nil : chronicle view [] = [] := rfl

@[simp] theorem chronicle_cons (event : ε) (older : List ε) :
    chronicle view (event :: older) = chronicle view older ++ view event := rfl

@[simp] theorem chronicle_append (newer older : List ε) :
    chronicle view (newer ++ older) =
      chronicle view older ++ chronicle view newer := by
  induction newer with
  | nil => simp
  | cons event newer ih => simp [ih]

theorem mem_chronicle {journal : List ε} {item : α} :
    item ∈ chronicle view journal ↔ ∃ event ∈ journal, item ∈ view event := by
  induction journal with
  | nil => simp
  | cons event older ih =>
      rw [chronicle_cons, List.mem_append, ih]
      simp [or_comm]

theorem chronicle_map {δ : Type} (read : δ → ε) (journal : List δ) :
    chronicle view (journal.map read) =
      chronicle (fun event => view (read event)) journal := by
  induction journal with
  | nil => rfl
  | cons event older ih => rw [List.map_cons, chronicle_cons, chronicle_cons, ih]

end Chronicle

/-- A law of each event and of what had happened before it. -/
def Lawful {ε : Type} (law : ε → List ε → Prop) : List ε → Prop
  | [] => True
  | event :: older => law event older ∧ Lawful law older

section Lawful

variable {ε : Type} {law : ε → List ε → Prop} {event : ε}
  {newer older journal : List ε}

theorem Lawful.of_append (h : Lawful law (newer ++ older)) : Lawful law older := by
  induction newer with
  | nil => exact h
  | cons event newer ih => exact ih h.2

/-- What a law says of an event in the middle of a journal. -/
theorem Lawful.of_split (h : Lawful law journal)
    (hsplit : journal = newer ++ event :: older) : law event older := by
  rw [hsplit] at h
  exact h.of_append.1

/-- What a law says of an event, wherever it stands. -/
theorem Lawful.of_mem (h : Lawful law journal) (hevent : event ∈ journal) :
    ∃ newer older, journal = newer ++ event :: older ∧ law event older := by
  obtain ⟨newer, older, hsplit⟩ := List.append_of_mem hevent
  exact ⟨newer, older, hsplit, h.of_split hsplit⟩

end Lawful

/-- An event that is not among some later ones stands behind them. -/
theorem split_behind {newer events before older : List Event} {event : Event}
    (hnot : event ∉ newer) (hsplit : newer ++ events = before ++ event :: older) :
    ∃ rest, before = newer ++ rest ∧ events = rest ++ event :: older := by
  rcases List.append_eq_append_iff.mp hsplit with
    ⟨rest, hbefore, hevents⟩ | ⟨rest, hnewer, hevents⟩
  · exact ⟨rest, hbefore, hevents⟩
  · cases rest with
    | nil =>
        refine ⟨[], ?_, hevents.symm⟩
        rw [hnewer, List.append_nil, List.append_nil]
    | cons head tail =>
        obtain ⟨rfl, _⟩ := List.cons.inj hevents
        rw [hnewer] at hnot
        exact absurd (List.mem_append_right _ List.mem_cons_self) hnot

end Cadence
