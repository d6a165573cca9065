import Mathlib.Data.List.Dedup
import ProgramModel.Proofs.Wire.Readers

/-!
Tables of types as lists of entries. Of the entries for a name the last one counts, and it
counts as a whole. Main statements: what a table of entries has for each name
(`get?_ofList`), how many names it has (`size_ofList`), and which entries a document gives
(`answer_typeTable`).
-/

namespace ProgramModel.TypeTable

/-! ### The last entry for a name -/

/-- The definition of the last entry for a name. -/
def lastFor (entries : List (TypeName × StructDef)) (name : TypeName) : Option StructDef :=
  (entries.reverse.find? fun e => e.1 = name).map (·.2)

variable {entries rest : List (TypeName × StructDef)} {name : TypeName} {d : StructDef}

/-- Later entries come first. -/
theorem lastFor_append (entries rest : List (TypeName × StructDef)) (name : TypeName) :
    lastFor (entries ++ rest) name = (lastFor rest name).or (lastFor entries name) := by
  simp only [lastFor, List.reverse_append, List.find?_append, Option.map_or]

theorem lastFor_cons (e : TypeName × StructDef) (rest : List (TypeName × StructDef))
    (name : TypeName) :
    lastFor (e :: rest) name = (lastFor rest name).or (if e.1 = name then some e.2 else none) := by
  rw [← List.singleton_append, lastFor_append]
  congr 1
  by_cases same : e.1 = name <;> simp [lastFor, same]

theorem mem_of_lastFor (found : lastFor entries name = some d) : (name, d) ∈ entries := by
  obtain ⟨e, here, rfl⟩ := Option.map_eq_some_iff.1 found
  have same : e.1 = name := by simpa using List.find?_some here
  have mem : e ∈ entries := List.mem_reverse.1 (List.mem_of_find?_eq_some here)
  exact same ▸ mem

/-- A name has a last entry when it has any. -/
theorem isSome_lastFor_iff : (lastFor entries name).isSome ↔ name ∈ entries.map (·.1) := by
  simp [lastFor]

/-- Entries with distinct names all count. -/
theorem lastFor_eq_some_iff (distinct : (entries.map (·.1)).Nodup) :
    lastFor entries name = some d ↔ (name, d) ∈ entries := by
  constructor
  · exact mem_of_lastFor
  · intro mem
    have named : (lastFor entries name).isSome :=
      isSome_lastFor_iff.2 (List.mem_map_of_mem (f := Prod.fst) mem)
    obtain ⟨d', found⟩ := Option.isSome_iff_exists.1 named
    have same := List.inj_on_of_nodup_map distinct (mem_of_lastFor found) mem rfl
    cases same
    exact found

/-! ### Tables of entries -/

/-- A table with entries written over it, one after another. -/
def writeAll (t : TypeTable) (entries : List (TypeName × StructDef)) : TypeTable :=
  entries.foldl (fun t e => t.insert e.1 e.2) t

/-- A written table has the last of the entries for a name, and what it had before if there is
none. -/
theorem get?_writeAll (t : TypeTable) (entries : List (TypeName × StructDef)) (k : TypeName) :
    (t.writeAll entries).get? k = (lastFor entries k).or (t.get? k) := by
  induction entries generalizing t with
  | nil => rfl
  | cons e rest ih =>
    rw [writeAll, List.foldl_cons]
    rw [← writeAll, ih, lastFor_cons, get?_insert, Option.or_assoc]
    congr 1
    by_cases same : e.1 = k <;> simp [same]

/-- A table of entries has the last of them for each name. -/
theorem get?_ofList (entries : List (TypeName × StructDef)) (k : TypeName) :
    (ofList entries).get? k = lastFor entries k := by
  rw [ofList, ← writeAll, get?_writeAll, get?_empty, Option.or_none]

/-- A table of entries has no definition that none of the entries has. -/
theorem mem_of_mem_toList_ofList {e : TypeName × StructDef}
    (mem : e ∈ (ofList entries).toList) : e ∈ entries := by
  have defined := mem_toList_iff.1 mem
  rw [get?_ofList] at defined
  exact mem_of_lastFor defined

/-- Entries that are written later are entries at the end. -/
theorem writeAll_ofList (entries rest : List (TypeName × StructDef)) :
    (ofList entries).writeAll rest = ofList (entries ++ rest) := by
  rw [ofList, ofList, List.foldl_append, writeAll]

/-- Merging in a table of entries is the same as writing the entries. -/
theorem merge_ofList (t : TypeTable) (entries : List (TypeName × StructDef)) :
    t.merge (ofList entries) = t.writeAll entries := by
  apply TypeTable.ext
  intro k
  rw [get?_merge, get?_ofList, get?_writeAll]

theorem mem_keys_iff {t : TypeTable} {k : TypeName} :
    k ∈ t.definitions.keys ↔ (t.get? k).isSome := by
  rw [Std.ExtTreeMap.mem_keys, ← contains_eq]
  rfl

/-- As many names as there are in the entries, each counted once. -/
theorem size_ofList (entries : List (TypeName × StructDef)) :
    (ofList entries).size = (entries.map (·.1)).dedup.length := by
  have same : (ofList entries).definitions.keys.Perm (entries.map (·.1)).dedup := by
    refine (List.perm_ext_iff_of_nodup Std.ExtTreeMap.nodup_keys (List.nodup_dedup _)).2 ?_
    intro k
    rw [mem_keys_iff, get?_ofList, isSome_lastFor_iff, List.mem_dedup]
  rw [size, ← Std.ExtTreeMap.length_keys, same.length_eq]

/-- With distinct names a table has all its entries, in some order. -/
theorem perm_toList_ofList (distinct : (entries.map (·.1)).Nodup) :
    (ofList entries).toList.Perm entries := by
  have keys : ((ofList entries).toList.map (·.1)).Nodup := by
    have : (ofList entries).toList.map (·.1) = (ofList entries).definitions.keys :=
      Std.ExtTreeMap.map_fst_toList_eq_keys
    rw [this]
    exact Std.ExtTreeMap.nodup_keys
  refine (List.perm_ext_iff_of_nodup (keys.of_map _) (distinct.of_map _)).2 ?_
  rintro ⟨k, d⟩
  rw [mem_toList_iff, get?_ofList, lastFor_eq_some_iff distinct]

/-- Entries with distinct names are all in the table, and none of their depth is lost. -/
theorem depth_ofList (distinct : (entries.map (·.1)).Nodup) :
    (ofList entries).depth = deepest (entries.map (·.2.depth)) :=
  deepest_of_perm ((perm_toList_ofList distinct).map _)

/-! ### Documents -/

/-- The entries of a document, each read on its own. -/
def listed (o : Options) (document : Json) : Except Fault (List (TypeName × StructDef)) :=
  match document with
  | .arr items => items.mapM fun w => (Reading.typeEntry w).answer o
  | other => .error (.shapeMismatch .array "type environment document" other.glimpse)

/-- The items of the document are read one by one as entries. -/
theorem answer_list_typeEntry (o : Options) (document : Json) :
    (Reading.list document "type environment document" Reading.typeEntry).answer o =
      listed o document := by
  have regular (w : Json) : Reading.Regular (Reading.typeEntry w) :=
    (Reading.graded_typeEntry w).regular
  rw [Reading.list, Reading.answer_bind (Reading.regular_items ..) fun _ => .mapM regular _]
  cases document with
  | arr items => exact Reading.answer_mapM regular items o
  | _ => rfl

/-- A table is read as the table of the entries that are listed. -/
theorem answer_typeTable (o : Options) (document : Json) :
    (Reading.typeTable document).answer o = (listed o document).map ofList := by
  rw [Reading.typeTable,
    Reading.answer_bind (Reading.graded_list Reading.graded_typeEntry ..).regular fun _ => .pure _,
    answer_list_typeEntry]
  cases listed o document <;> rfl

/-! ### A class that is defined twice -/

namespace Sample

/-- The entry of a class with some instance fields and nothing else. -/
def classEntry (name : String) (fields : List Json) : Json :=
  .obj [("type_name", .str name), ("type_struct", .obj [("instance_fields", .arr fields),
    ("static_fields", .arr []), ("supers", .arr []), ("methods", .arr []),
    ("annots", .arr [])])]

/-- A field that is a pointer. -/
def pointerField : Json :=
  .obj [("field_name", .obj [("class_name", .str "A"), ("field_name", .str "f")]),
    ("type", .obj [("type_kind", .str "Tptr"), ("kind", .str "Pk_pointer"),
      ("type", .obj [("type_kind", .str "Tvoid")])]),
    ("annotation", .arr [])]

/-- A class with a pointer, and then again without. -/
def redefined : Json := .arr [classEntry "A" [pointerField], classEntry "A" []]

end Sample

/-- The field of the earlier entry is gone. -/
example : ((Reading.typeTable Sample.redefined).answer .default).toOption.map (fun t =>
    (t.size, (t.get? ⟨"", "A"⟩).map (·.fields.length))) = some (1, some 0) := by
  decide +kernel

end ProgramModel.TypeTable
