/-!
Integers between two bounds. The ids, stamps, positions and literals of a document
all have a fixed range; `ofInt?` is the only way in, and it neither wraps nor clamps.
-/

namespace ProgramModel

structure Bounded (low high : Int) where
  val : Int
  low_le : low ≤ val
  le_high : val ≤ high
  deriving DecidableEq, Repr

namespace Bounded

variable {low high : Int}

def ofInt? (low high n : Int) : Option (Bounded low high) :=
  if h : low ≤ n ∧ n ≤ high then some ⟨n, h.1, h.2⟩ else none

theorem val_injective {a b : Bounded low high} (h : a.val = b.val) : a = b := by
  cases a; cases b; cases h; rfl

theorem ofInt?_eq_some_iff {n : Int} {b : Bounded low high} :
    ofInt? low high n = some b ↔ b.val = n := by
  unfold ofInt?
  split
  · next h =>
    constructor
    · intro e; cases e; rfl
    · rintro rfl; rfl
  · next h =>
    constructor
    · intro e; cases e
    · rintro rfl; exact absurd ⟨b.low_le, b.le_high⟩ h

theorem ofInt?_val (b : Bounded low high) : ofInt? low high b.val = some b :=
  ofInt?_eq_some_iff.2 rfl

theorem bind_ofInt?_eq_some_iff {n : Option Int} {b : Bounded low high} :
    n.bind (ofInt? low high) = some b ↔ n = some b.val := by
  rw [Option.bind_eq_some_iff]
  constructor
  · rintro ⟨i, rfl, read⟩
    rw [ofInt?_eq_some_iff.1 read]
  · rintro rfl
    exact ⟨b.val, rfl, ofInt?_val b⟩

instance : Ord (Bounded low high) := ⟨fun a b => compare a.val b.val⟩

instance : ToString (Bounded low high) := ⟨fun a => toString a.val⟩

end Bounded

/-- Ids of procedures and nodes in a document, and stamps of temporaries. -/
abbrev WireId := Bounded (-0x8000000000000000) 0x7FFFFFFFFFFFFFFF

/-- Lines and columns. -/
abbrev Coordinate := Bounded (-0x80000000) 0x7FFFFFFF

/-- Lengths and strides of arrays. -/
abbrev Extent := Bounded 0 0xFFFFFFFFFFFFFFFF

/-- Values of integer literals. -/
abbrev WideInt :=
  Bounded (-0x80000000000000000000000000000000) 0x7FFFFFFFFFFFFFFFFFFFFFFFFFFFFFFF

/-- A signed word as a literal's value. -/
def WireId.toWide (i : WireId) : WideInt :=
  ⟨i.val, by have := i.low_le; omega, by have := i.le_high; omega⟩

/-- An unsigned word as a literal's value. -/
def Extent.toWide (i : Extent) : WideInt :=
  ⟨i.val, by have := i.low_le; omega, by have := i.le_high; omega⟩

end ProgramModel
