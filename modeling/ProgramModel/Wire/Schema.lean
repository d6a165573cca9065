import ProgramModel.Json.Glimpse

/-!
The keys of wire values, and what is left of a value without the members that no reading
sees. `normalize` drops them from every object at every depth: those under a key that no
reading looks under, and those that hold a null where a null counts as absent.
-/

namespace ProgramModel

namespace Schema

/-- The keys of members that may be absent, wherever they are looked for. -/
abbrev optionalKeys : List String := ["length", "stride", "file", "dynamic_length"]

/-- The other keys that are looked under. Under each of them some reading takes a null for
more than an absent member. -/
abbrev strictKeys : List String := [
  "kind", "type", "name", "class_name", "location", "expression",
  "type_kind", "content_type", "struct_name", "type_name", "csu_kind",
  "method_name", "parameters", "return_type", "is_static", "field_name",
  "stamp", "pv_name", "pv_kind", "proc_name", "line", "col",
  "unsigned", "value", "is_pointer", "intval", "function_name", "string_value", "float_value",
  "expr_kind", "identifier", "operator", "left", "right", "constant", "pvar", "field", "array",
  "index", "instruction_kind", "lvalue", "rvalue", "condition", "true_branch", "if_kind",
  "return_var", "function_expression", "args", "flags", "is_virtual", "is_noreturn", "is_block",
  "annotation", "params", "visible", "return",
  "captured", "exceptions", "formals", "locals", "access", "is_abstract", "is_bridge_method",
  "is_defined", "is_synthetic_method", "loc", "method_annotations", "ret_type",
  "modify_in_block", "is_constexpr",
  "instance_fields", "static_fields", "supers", "methods", "annots", "type_struct",
  "stmt_kind", "prune_kind", "comment",
  "pd_id", "pd_attributes", "pd_start_node", "pd_exit_node",
  "nd_id", "nd_proc_id", "nd_temps", "id", "nd_kind", "nd_loc", "nd_instrs",
  "nd_dead_pvars_before", "nd_dead_pvars_after", "nd_succ_ids", "nd_pred_ids", "nd_exn_ids",
  "procs", "nodes"]

/-- All keys that some reading looks under. -/
def keys : List String := optionalKeys ++ strictKeys

/-! ### Keys of the schema by instance search -/

/-- The key is in the list. An instance for a literal key is found by going through the list. -/
class Listed (key : String) (keys : List String) : Prop where
  mem : key ∈ keys

instance (priority := high) (key : String) (rest : List String) : Listed key (key :: rest) :=
  ⟨List.mem_cons_self⟩

instance (key other : String) (rest : List String) [later : Listed key rest] :
    Listed key (other :: rest) :=
  ⟨List.mem_cons_of_mem other later.mem⟩

/-- Under the key a null is more than an absent member. -/
abbrev Strict (key : String) : Prop := Listed key strictKeys

/-- The key is looked under. -/
class Known (key : String) : Prop where
  mem : key ∈ keys

instance (key : String) [optional : Listed key optionalKeys] : Known key :=
  ⟨List.mem_append_left strictKeys optional.mem⟩

instance (key : String) [strict : Strict key] : Known key :=
  ⟨List.mem_append_right optionalKeys strict.mem⟩

theorem Strict.not_mem_optionalKeys {key : String} (strict : Strict key) :
    key ∉ optionalKeys := by
  have disjoint : ∀ key ∈ optionalKeys, key ∉ strictKeys := by simp
  exact fun optional => disjoint key optional strict.mem

end Schema

namespace Json

def isNull : Json → Bool
  | null => true
  | _ => false

/-- Whether some reading sees the members of an object under a key. Of several members under
one key the first one counts. -/
def isSeen (members : List (String × Json)) (key : String) : Bool :=
  decide (key ∈ Schema.keys) &&
    !(decide (key ∈ Schema.optionalKeys) && ((obj members).member? key).any isNull)

mutual
/-- The value without the members that no reading sees, at any depth. -/
def normalize : Json → Json
  | arr items => arr (normalizeItems items)
  | obj members => obj (normalizeMembers (isSeen members) members)
  | other => other

def normalizeItems : List Json → List Json
  | [] => []
  | v :: rest => normalize v :: normalizeItems rest

def normalizeMembers (keep : String → Bool) : List (String × Json) → List (String × Json)
  | [] => []
  | (key, v) :: rest =>
    if keep key then (key, normalize v) :: normalizeMembers keep rest
    else normalizeMembers keep rest
end

/-! ### What is left -/

theorem normalizeItems_eq_map (items : List Json) : normalizeItems items = items.map normalize := by
  induction items with
  | nil => rfl
  | cons v rest ih => rw [normalizeItems, ih, List.map_cons]

theorem find?_normalizeMembers (keep : String → Bool) (members : List (String × Json))
    (key : String) :
    ((normalizeMembers keep members).find? (·.1 == key)).map (·.2) =
      if keep key then ((members.find? (·.1 == key)).map (·.2)).map normalize else none := by
  induction members with
  | nil => simp [normalizeMembers]
  | cons m rest ih =>
    by_cases here : m.1 = key
    · by_cases kept : keep key
      · simp [normalizeMembers, here, kept]
      · simpa [normalizeMembers, here, kept] using ih
    · by_cases kept : keep m.1
      · simpa [normalizeMembers, here, kept] using ih
      · simpa [normalizeMembers, here, kept] using ih

/-- With one member under each key, a member goes exactly if its key is unknown or if it is
itself a null that counts as absent. -/
theorem isSeen_of_mem {members : List (String × Json)} {key : String} {v : Json}
    (distinct : (members.map (·.1)).Nodup) (mem : (key, v) ∈ members) :
    isSeen members key =
      (decide (key ∈ Schema.keys) && !(decide (key ∈ Schema.optionalKeys) && v.isNull)) := by
  have found : (obj members).member? key = some v := by
    induction members with
    | nil => cases mem
    | cons m rest ih =>
      obtain ⟨first, distinct⟩ := List.nodup_cons.1 distinct
      rcases List.mem_cons.1 mem with rfl | mem
      · simp [member?]
      · have other : (m.1 == key) = false := by
          apply beq_false_of_ne
          rintro rfl
          exact first (List.mem_map.2 ⟨_, mem, rfl⟩)
        have later := ih distinct mem
        simpa [member?, List.find?_cons, other] using later
  rw [isSeen, found]
  rfl

theorem glimpse_normalize (v : Json) : v.normalize.glimpse = v.glimpse := by
  cases v with
  | arr items => simp [normalize, glimpse, normalizeItems_eq_map]
  | _ => rfl

theorem normalize_eq_null_iff {v : Json} : v.normalize = null ↔ v = null := by
  cases v <;> simp [normalize]

theorem member?_normalize_obj (members : List (String × Json)) (key : String) :
    (obj members).normalize.member? key =
      if isSeen members key then ((obj members).member? key).map normalize else none :=
  find?_normalizeMembers (isSeen members) members key

/-- A null file is absent and goes, a null line is a fault and stays. -/
example : (obj [("file", null), ("note", null), ("line", null)]).normalize =
    obj [("line", null)] := by
  rfl

/-- Under a key that is looked under a member is left, unless it is a null. -/
theorem member?_normalize_of_present {v w : Json} {key : String} [known : Schema.Known key]
    (found : v.member? key = some w) (present : w ≠ .null) :
    v.normalize.member? key = some w.normalize := by
  cases v with
  | obj members =>
    have notNull : w.isNull = false := by
      cases w with
      | null => exact absurd rfl present
      | _ => rfl
    rw [member?_normalize_obj, isSeen, found]
    simp [known.mem, notNull]
  | _ => cases found

/-- Where a null is more than an absent member, all members are left. -/
theorem member?_normalize_of_strict (v : Json) (key : String) [strict : Schema.Strict key] :
    v.normalize.member? key = (v.member? key).map normalize := by
  cases v with
  | obj members =>
    rw [member?_normalize_obj, isSeen]
    have known : key ∈ Schema.keys := Schema.Known.mem
    simp only [known, strict.not_mem_optionalKeys, decide_true, decide_false, Bool.false_and,
      Bool.not_false, Bool.and_self, if_true]
  | _ => rfl

end Json
end ProgramModel
