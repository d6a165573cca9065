import ProgramModel.Proofs.TypeTable.Entries
import ProgramModel.TypeTable.Change

/-!
Histories of tables. The entries that were written make up a log, to which a change adds
what it writes, and nothing if it has a fault. Main statement: after any changes a table
has for each name the definition of the last entry for it in the log
(`changeAll_lastWrite`).
-/

namespace ProgramModel.TypeTable

namespace Change

/-- The entries that a change writes. A document that cannot be read to its end has none. -/
def entries (o : Options) : Change → List (TypeName × StructDef)
  | extend document | merge document => (listed o document).toOption.getD []
  | insert name d => [(name, d)]

/-- The answer to a change of a table with some log. -/
def answer (o : Options) (log : List (TypeName × StructDef)) :
    Change → Except Fault (Option StructDef)
  | extend document | merge document => do
    let _ ← (Reading.typeTable document).answer o
    return none
  | insert name _ => .ok (lastFor log name)

end Change

/-- All that changes write, in the order of the changes. -/
def written (o : Options) (changes : List Change) : List (TypeName × StructDef) :=
  changes.flatMap (Change.entries o)

variable {o : Options} {c : Change} {t : TypeTable}

/-! ### One change -/

/-- A change adds its entries to the log. -/
theorem change_ofList (o : Options) (log : List (TypeName × StructDef)) (c : Change) :
    (ofList log).change o c = (c.answer o log, ofList (log ++ c.entries o)) := by
  cases c with
  | insert name d =>
    have one : ofList (log ++ [(name, d)]) = (ofList log).insert name d :=
      (writeAll_ofList log [(name, d)]).symm
    simp [change, Change.answer, Change.entries, get?_ofList, one]
  | extend document | merge document =>
    simp only [change, extend, Change.answer, Change.entries, answer_typeTable]
    cases listed o document with
    | error fault => simp [Except.map, bind, Except.bind, Except.toOption]
    | ok entries =>
      simp [Except.map, bind, Except.bind, pure, Except.pure, Except.toOption, merge_ofList,
        writeAll_ofList]

/-- A change with a fault leaves the table as it is. -/
theorem change_eq_of_error {fault : Fault} (failed : (t.change o c).1 = .error fault) :
    (t.change o c).2 = t := by
  cases c with
  | insert name d => cases failed
  | extend document | merge document =>
    simp only [change] at failed ⊢
    split at failed
    · cases failed
    · rfl

/-! ### Changes in sequence -/

/-- Each change has one answer. -/
theorem length_changeAll (o : Options) (t : TypeTable) (changes : List Change) :
    (changeAll o t changes).1.length = changes.length := by
  induction changes generalizing t with
  | nil => rfl
  | cons c rest ih =>
    rw [changeAll, List.length_cons, List.length_cons]
    exact congrArg (· + 1) (ih _)

/-- Changes in sequence can be made in two parts. -/
theorem changeAll_append (o : Options) (t : TypeTable) (before after : List Change) :
    changeAll o t (before ++ after) =
      ((changeAll o t before).1 ++ (changeAll o (changeAll o t before).2 after).1,
        (changeAll o (changeAll o t before).2 after).2) := by
  induction before generalizing t with
  | nil => rfl
  | cons c rest ih =>
    rw [List.cons_append, changeAll, changeAll]
    simp only [ih, List.cons_append]

/-- The answer to a change in the middle is the one that the table of the changes before
gives. -/
theorem getElem?_changeAll (o : Options) (t : TypeTable) (before : List Change) (c : Change)
    (after : List Change) :
    (changeAll o t (before ++ c :: after)).1[before.length]? =
      some ((changeAll o t before).2.change o c).1 := by
  have size := length_changeAll o t before
  rw [changeAll_append, List.getElem?_append_right (Nat.le_of_eq size), size, Nat.sub_self]
  rfl

/-- The table after changes is that of the log. -/
theorem changeAll_ofList (o : Options) (log : List (TypeName × StructDef))
    (changes : List Change) :
    (changeAll o (ofList log) changes).2 = ofList (log ++ written o changes) := by
  induction changes generalizing log with
  | nil => rw [written, List.flatMap_nil, List.append_nil, changeAll]
  | cons c rest ih =>
    simp only [changeAll, change_ofList]
    rw [ih, written, written, List.flatMap_cons, List.append_assoc]

/-- From the empty table on, changes leave the table of what they wrote. -/
theorem changeAll_empty (o : Options) (changes : List Change) :
    (changeAll o .empty changes).2 = ofList (written o changes) :=
  changeAll_ofList o [] changes

/-- After changes of the empty table each name has the definition that was written last
for it, as a whole, and no other names are defined. Each change is answered from what was
written before it, and one with a fault leaves the table as it is. -/
theorem changeAll_lastWrite (o : Options) (changes : List Change) :
    (∀ name, (changeAll o .empty changes).2.get? name = lastFor (written o changes) name) ∧
    (∀ name, (changeAll o .empty changes).2.contains name = true ↔
      name ∈ (written o changes).map (·.1)) ∧
    (changeAll o .empty changes).2.size = ((written o changes).map (·.1)).dedup.length ∧
    ∀ before c after, changes = before ++ c :: after →
      (changeAll o .empty changes).1[before.length]? = some (c.answer o (written o before)) ∧
      ∀ fault, c.answer o (written o before) = .error fault →
        (changeAll o .empty (before ++ [c])).2 = (changeAll o .empty before).2 := by
  refine ⟨?_, ?_, ?_, ?_⟩
  · intro name
    rw [changeAll_empty, get?_ofList]
  · intro name
    rw [changeAll_empty, contains_eq, get?_ofList, isSome_lastFor_iff]
  · rw [changeAll_empty, size_ofList]
  · rintro before c after rfl
    have step : ((ofList (written o before)).change o c).1 = c.answer o (written o before) := by
      rw [change_ofList]
    rw [getElem?_changeAll, changeAll_append, changeAll_empty, step]
    refine ⟨rfl, ?_⟩
    intro fault failed
    exact change_eq_of_error (step.trans failed)

/-- A document that breaks off in its second entry writes nothing, and the insertion finds
the definition from before it. -/
example : (changeAll .default .empty [.extend Sample.redefined,
    .merge (.arr [Sample.classEntry "A" [Sample.pointerField], .null]),
    .insert ⟨"", "A"⟩ ⟨[], [], [⟨"", "B"⟩], [], []⟩]).1.map (fun answer =>
      answer.toOption.map fun replaced => replaced.map (·.fields.length)) =
    [some none, none, some (some 0)] := by
  decide +kernel

end ProgramModel.TypeTable
