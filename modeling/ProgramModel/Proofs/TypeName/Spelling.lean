import ProgramModel.Proofs.TypeTable.Entries

/-!
Spellings of type names. Splitting a text at its last separator keeps the text, up to one
case: when the only separator stands in front of everything else, the namespace is empty,
and an empty namespace is joined without a separator. Main statement: a text is lost in this
case alone, and only such a text is read as the name that another one is read as
(`join_ofQualified_eq_iff`).
-/

namespace ProgramModel.TypeName

variable {c : Char} {s s' n : String}

/-- The second text is the first one, which holds no separator, with a separator in front. -/
def Leads (separator : Char) (n s : String) : Prop :=
  separator ∉ n.toList ∧ s.toList = separator :: n.toList

namespace Leads

theorem unique (leads : Leads c n s) (leads' : Leads c n s') : s = s' :=
  String.toList_injective (leads.2.trans leads'.2.symm)

theorem ne (leads : Leads c n s) : n ≠ s := by
  rintro rfl
  have := congrArg List.length leads.2
  rw [List.length_cons] at this
  omega

end Leads

/-! ### The two parts of a text -/

/-- A text without separator is a name in the empty namespace. -/
theorem ofQualified_of_not_mem (absent : c ∉ s.toList) : ofQualified c s = ⟨"", s⟩ := by
  rw [ofQualified, splitLast_eq_none_iff.2 absent]

/-- The last separator of a text is where it is split. -/
theorem ofQualified_of_split {front back : List Char} (split : s.toList = front ++ c :: back)
    (last : c ∉ back) : ofQualified c s = ⟨String.ofList front, String.ofList back⟩ := by
  rw [ofQualified, splitLast_eq_some_iff.2 ⟨split, last⟩]

/-- A separator in front of a name says as much as none. -/
theorem Leads.ofQualified_eq (leads : Leads c n s) : ofQualified c s = ⟨"", n⟩ := by
  have split : s.toList = [] ++ c :: n.toList := leads.2
  rw [ofQualified_of_split split leads.1, String.ofList_toList]

/-- A name in the empty namespace is joined without a separator. -/
theorem join_of_isEmpty (c : Char) (name : String) : join c ⟨"", name⟩ = name := rfl

theorem join_of_ne_nil {front : List Char} (named : front ≠ []) (back : List Char) :
    join c ⟨String.ofList front, String.ofList back⟩ = String.ofList (front ++ c :: back) := by
  have nonempty : ¬ (String.ofList front).isEmpty := by
    rw [String.isEmpty_iff, ← String.toList_eq_nil_iff, String.toList_ofList]
    exact named
  rw [join, if_neg nonempty, String.toList_ofList, String.toList_ofList]

/-- A text is kept, or a separator in front of it is lost. -/
theorem join_ofQualified_or (c : Char) (s : String) :
    (ofQualified c s).join c = s ∨ Leads c ((ofQualified c s).join c) s := by
  cases parts : splitLast c s.toList with
  | none =>
    rw [ofQualified_of_not_mem (splitLast_eq_none_iff.1 parts)]
    exact .inl (join_of_isEmpty c s)
  | some p =>
    obtain ⟨front, back⟩ := p
    obtain ⟨split, last⟩ := splitLast_eq_some_iff.1 parts
    rw [ofQualified_of_split split last]
    cases front with
    | nil =>
      right
      rw [String.ofList_nil, join_of_isEmpty, Leads, String.toList_ofList]
      exact ⟨last, split⟩
    | cons d front =>
      left
      rw [join_of_ne_nil (List.cons_ne_nil d front), ← split, String.ofList_toList]

/-! ### Texts that are read as one name -/

/-- The leading separator is lost when the parts are joined. -/
theorem Leads.join_ofQualified (leads : Leads c n s) : (ofQualified c s).join c = n := by
  rw [leads.ofQualified_eq, join_of_isEmpty]

theorem Leads.ofQualified_same (leads : Leads c n s) : ofQualified c s = ofQualified c n := by
  rw [leads.ofQualified_eq, ofQualified_of_not_mem leads.1]

/-- Two texts are read as one name when they are equal or one of them is the other with a leading
separator. -/
theorem ofQualified_eq_iff :
    ofQualified c s = ofQualified c s' ↔ s = s' ∨ Leads c s s' ∨ Leads c s' s := by
  constructor
  · intro same
    have first := join_ofQualified_or c s
    have second := join_ofQualified_or c s'
    rw [same] at first
    rcases first with kept | leads
    · rw [kept] at second
      exact second.imp_right .inl
    · rcases second with kept' | leads'
      · exact .inr (.inr (kept' ▸ leads))
      · exact .inl (leads.unique leads')
  · rintro (rfl | leads | leads)
    · rfl
    · exact leads.ofQualified_same.symm
    · exact leads.ofQualified_same

/-- Joining gives the text back that was split, unless its only separator stands in front;
then it gives what is behind the separator. Two texts are read as one name exactly when they
are equal or one of them is the other with such a separator. -/
theorem join_ofQualified_eq_iff (o : Options) (s : String) :
    ((ofQualified o.separator s).join o.separator = s ↔ ∀ n, ¬ Leads o.separator n s) ∧
    (∀ n, Leads o.separator n s → (ofQualified o.separator s).join o.separator = n) ∧
    ∀ s', (Reading.typeName (.str s)).answer o = (Reading.typeName (.str s')).answer o ↔
      s = s' ∨ Leads o.separator s s' ∨ Leads o.separator s' s := by
  refine ⟨⟨?_, ?_⟩, fun n => Leads.join_ofQualified, ?_⟩
  · intro kept n leads
    exact leads.ne (leads.join_ofQualified.symm.trans kept)
  · intro kept
    exact (join_ofQualified_or o.separator s).resolve_right (kept _)
  · intro s'
    have read (s : String) :
        (Reading.typeName (.str s)).answer o = .ok (ofQualified o.separator s) := rfl
    rw [read, read, Except.ok.injEq, ofQualified_eq_iff]

/-- The point in front of `.A` is lost, and of two entries for `A` and `.A` a table keeps
one. -/
theorem join_ofQualified_ne :
    ¬ (∀ (c : Char) (s : String), (ofQualified c s).join c = s) ∧
    ((Reading.typeTable (.arr [TypeTable.Sample.classEntry "A" [],
      TypeTable.Sample.classEntry ".A" []])).answer .default).toOption.map (·.size) = some 1 := by
  constructor
  · intro kept
    have lost : (ofQualified '.' ".A").join '.' = "A" := by decide +kernel
    have contradiction := lost.symm.trans (kept '.' ".A")
    exact absurd contradiction (by decide)
  · decide +kernel

end ProgramModel.TypeName
