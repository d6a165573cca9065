import ProgramModel.FlowGraph.Roster
import Mathlib.Data.List.Sort

/-!
Rosters as sets of records. Main statements: two rosters with the same entries in any
order are equal (`eq_of_perm`), records with distinct ids are the entries of some roster
(`exists_perm`), and ranks are the places of ids, one for each (`ids_getElem?_rank`,
`rank_of_ids_getElem?`).
-/

namespace ProgramModel.Roster

variable {α : Type} {r s : Roster α} {id : WireId}

/-! ### Entries -/

theorem pairwise_ids (r : Roster α) : r.ids.Pairwise fun i j => i.val < j.val :=
  List.pairwise_map.2 r.ascending

theorem nodup_ids (r : Roster α) : r.ids.Nodup :=
  r.pairwise_ids.imp fun less => by rintro rfl; exact Int.lt_irrefl _ less

theorem nodup_entries (r : Roster α) : r.entries.Nodup := r.nodup_ids.of_map _

/-- There is one roster for some entries, whatever their order. -/
theorem eq_of_perm (same : r.entries.Perm s.entries) : r = s := by
  have : r.entries = s.entries := by
    refine same.eq_of_pairwise (fun e f _ _ less greater => ?_) r.ascending s.ascending
    exact absurd less (Int.lt_asymm greater)
  cases r; cases s; cases this; rfl

/-- Insertion adds the one entry. -/
theorem perm_insert? {a : α} (inserted : r.insert? id a = some s) :
    s.entries.Perm ((id, a) :: r.entries) := by
  have fresh : (id, a) ∉ r.entries := fun mem => by
    rw [insert?_eq_none_iff.2 (List.mem_map_of_mem mem)] at inserted
    cases inserted
  refine (List.perm_ext_iff_of_nodup s.nodup_entries ?_).2 fun e => ?_
  · exact List.nodup_cons.2 ⟨fresh, r.nodup_entries⟩
  · rw [mem_insert? inserted, List.mem_cons]

/-- Records with distinct ids make a roster. -/
theorem exists_perm {entries : List (WireId × α)} (distinct : (entries.map (·.1)).Nodup) :
    ∃ r : Roster α, r.entries.Perm entries := by
  induction entries with
  | nil => exact ⟨.empty, .refl _⟩
  | cons e rest ih =>
    obtain ⟨fresh, distinct⟩ := List.nodup_cons.1 distinct
    obtain ⟨r, same⟩ := ih distinct
    cases inserted : r.insert? e.1 e.2 with
    | some s => exact ⟨s, (perm_insert? inserted).trans (same.cons e)⟩
    | none => exact absurd ((same.map _).mem_iff.1 (insert?_eq_none_iff.1 inserted)) fresh

/-! ### Ranks -/

/-- The place of an id that has a record. -/
def rank (r : Roster α) (id : WireId) : Nat := r.ids.idxOf id

/-- The rank of an id is the place that it has in the roster. -/
theorem ids_getElem?_rank (known : id ∈ r.ids) : r.ids[r.rank id]? = some id := by
  rw [rank, List.getElem?_eq_getElem (List.idxOf_lt_length_of_mem known), List.getElem_idxOf]

/-- Each place is the rank of the id that stands there. -/
theorem rank_of_ids_getElem? {i : Nat} (found : r.ids[i]? = some id) : r.rank id = i := by
  obtain ⟨bound, rfl⟩ := List.getElem?_eq_some_iff.1 found
  exact r.nodup_ids.idxOf_getElem i bound

/-- The rank of an id is the place of its entry. -/
theorem entries_getElem?_rank {e : WireId × α} (mem : e ∈ r.entries) :
    r.entries[r.rank e.1]? = some e := by
  obtain ⟨i, here⟩ := List.mem_iff_getElem?.1 mem
  have found : r.ids[i]? = some e.1 := by rw [ids, List.getElem?_map, here]; rfl
  rw [rank_of_ids_getElem? found, here]

/-- Entries that are taken with their places are taken with the ranks of their ids. -/
theorem map_zipIdx {β : Type} (r : Roster α) (f : WireId × α → Nat → β) :
    (r.entries.zipIdx.map fun p => f p.1 p.2) = r.entries.map fun e => f e (r.rank e.1) := by
  apply List.ext_getElem?
  intro i
  rw [List.getElem?_map, List.getElem?_map, List.getElem?_zipIdx]
  cases here : r.entries[i]? with
  | none => rfl
  | some e =>
    have found : r.ids[i]? = some e.1 := by rw [ids, List.getElem?_map, here]; rfl
    simp [rank_of_ids_getElem? found]

/-- Different ids have different places. -/
theorem rank_injective {id' : WireId} (known : id ∈ r.ids) (known' : id' ∈ r.ids)
    (same : r.rank id = r.rank id') : id = id' := by
  have here := ids_getElem?_rank known
  rw [same, ids_getElem?_rank known'] at here
  exact (Option.some.inj here).symm

theorem rank_lt (known : id ∈ r.ids) : r.rank id < r.entries.length := by
  simpa [rank, ids] using List.idxOf_lt_length_of_mem known

theorem idxOf?_of_mem [DecidableEq α] {items : List α} {a : α} (mem : a ∈ items) :
    items.idxOf? a = some (items.idxOf a) := by
  rw [List.idxOf_eq_getD_idxOf?]
  cases found : items.idxOf? a with
  | some i => rfl
  | none => exact absurd mem (List.idxOf?_eq_none_iff.1 found)

/-- Known ids have a rank. -/
theorem rank?_eq_some (known : id ∈ r.ids) : r.rank? id = some (r.rank id) :=
  idxOf?_of_mem known

theorem rank?_eq_none (unknown : id ∉ r.ids) : r.rank? id = none :=
  List.idxOf?_eq_none_iff.2 unknown

theorem contains_iff : r.contains id = true ↔ id ∈ r.ids := decide_eq_true_iff

end ProgramModel.Roster
