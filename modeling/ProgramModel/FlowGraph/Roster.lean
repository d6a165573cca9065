import ProgramModel.Bounded

/-!
Rosters: records listed by ascending id, each id once. A record is refused when its id
is taken, so a roster depends on which records went in and not on their order. The rank
of an id is its place in the list.
-/

namespace ProgramModel

variable {α : Type}

/-- `Roster.place id a entries` puts an entry before the first one with a greater id, unless
the id is taken. -/
def Roster.place (id : WireId) (a : α) : List (WireId × α) → Option (List (WireId × α))
  | [] => some [(id, a)]
  | e :: rest =>
    if id.val < e.1.val then some ((id, a) :: e :: rest)
    else if id = e.1 then none
    else (place id a rest).map (e :: ·)

/-- No entry is lost and none but the new one is added. -/
theorem Roster.mem_place {id : WireId} {a : α} {entries entries' : List (WireId × α)}
    (placed : place id a entries = some entries') (e : WireId × α) :
    e ∈ entries' ↔ e = (id, a) ∨ e ∈ entries := by
  induction entries generalizing entries' with
  | nil => cases placed; simp
  | cons head rest ih =>
    rw [place] at placed
    split at placed
    · cases placed; simp
    · split at placed
      · cases placed
      · obtain ⟨rest', found, rfl⟩ := Option.map_eq_some_iff.1 placed
        simp only [List.mem_cons, ih found]
        exact or_left_comm

theorem Roster.place_eq_none_iff {id : WireId} {a : α} {entries : List (WireId × α)}
    (ascending : entries.Pairwise fun e f => e.1.val < f.1.val) :
    place id a entries = none ↔ id ∈ entries.map (·.1) := by
  induction entries with
  | nil => simp [place]
  | cons head rest ih =>
    obtain ⟨below, ascending⟩ := List.pairwise_cons.1 ascending
    rw [place]
    split
    · next less =>
      simp only [reduceCtorEq, List.map_cons, List.mem_cons, List.mem_map, false_iff]
      rintro (rfl | ⟨e, mem, rfl⟩)
      · exact Int.lt_irrefl _ less
      · exact Int.lt_asymm less (below e mem)
    · split
      · next same => simp [same]
      · next notLess differs => simp [ih ascending, differs]

theorem Roster.pairwise_place {id : WireId} {a : α} {entries entries' : List (WireId × α)}
    (ascending : entries.Pairwise fun e f => e.1.val < f.1.val)
    (placed : place id a entries = some entries') :
    entries'.Pairwise fun e f => e.1.val < f.1.val := by
  induction entries generalizing entries' with
  | nil => cases placed; simp
  | cons head rest ih =>
    obtain ⟨below, ascendingRest⟩ := List.pairwise_cons.1 ascending
    rw [place] at placed
    split at placed
    · next less =>
      cases placed
      refine List.pairwise_cons.2 ⟨fun e mem => ?_, ascending⟩
      rcases List.mem_cons.1 mem with rfl | mem
      · exact less
      · exact Int.lt_trans less (below e mem)
    · split at placed
      · cases placed
      · next notLess differs =>
        obtain ⟨rest', found, rfl⟩ := Option.map_eq_some_iff.1 placed
        refine List.pairwise_cons.2 ⟨fun e mem => ?_, ih ascendingRest found⟩
        rcases (mem_place found e).1 mem with rfl | mem
        · have : id.val ≠ head.1.val := fun h => differs (Bounded.val_injective h)
          simp only
          omega
        · exact below e mem

structure Roster (α : Type) where
  entries : List (WireId × α)
  ascending : entries.Pairwise fun e f => e.1.val < f.1.val

namespace Roster

def empty : Roster α := ⟨[], .nil⟩

/-- The roster with one record more, unless its id is taken. -/
def insert? (r : Roster α) (id : WireId) (a : α) : Option (Roster α) :=
  match placed : place id a r.entries with
  | some entries => some ⟨entries, pairwise_place r.ascending placed⟩
  | none => none

/-- All ids, in ascending order. -/
def ids (r : Roster α) : List WireId := r.entries.map (·.1)

def contains (r : Roster α) (id : WireId) : Bool := id ∈ r.ids

/-- The place of an id. -/
def rank? (r : Roster α) (id : WireId) : Option Nat := r.ids.idxOf? id

theorem mem_insert? {r r' : Roster α} {id : WireId} {a : α} (h : r.insert? id a = some r')
    (e : WireId × α) : e ∈ r'.entries ↔ e = (id, a) ∨ e ∈ r.entries := by
  unfold insert? at h
  split at h
  · next placed => cases h; exact mem_place placed e
  · cases h

theorem insert?_eq_none_iff {r : Roster α} {id : WireId} {a : α} :
    r.insert? id a = none ↔ id ∈ r.ids := by
  rw [ids, ← place_eq_none_iff (a := a) r.ascending]
  unfold insert?
  split
  · next placed => simp [placed]
  · next placed => simp [placed]

end Roster
end ProgramModel
