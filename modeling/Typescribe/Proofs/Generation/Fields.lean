/-
What a run takes from the fields of a model.

A run goes over the fields with its report: it counts those that are left out
and, of the others, notes and tells of the names they refer to, unless it knows
them or noted them before.  `addField_cases` says once what a field can do to
the report; what comes of all fields is induction with its cases.

The count does not depend on what was counted before, and the names are told by
`unmet`, which says of one list of names what the loop decides name by name.
The warnings go along these names, one by one.
-/
import Mathlib.Data.List.Forall2
import Typescribe.Proofs.Model.Written

namespace Typescribe

/-! ## Names met for the first time -/

/-- The names that are neither known nor seen, each at its first occurrence
only. -/
def unmet (known seen names : List Text) : List Text :=
  (names.filter fun n => !(known.contains n || seen.contains n)).eraseDups

theorem mem_unmet {known seen names : List Text} {n : Text} :
    n ∈ unmet known seen names ↔ n ∈ names ∧ n ∉ known ∧ n ∉ seen := by
  rw [unmet, List.mem_eraseDups, List.mem_filter]
  simp

/-- With nothing seen before, only what is known is passed over. -/
theorem unmet_nil (known names : List Text) :
    unmet known [] names = (names.filter (· ∉ known)).eraseDups := by
  have hnew : (fun n => !(known.contains n || [].contains n)) = fun n => decide (n ∉ known) := by
    funext n
    rw [List.contains_nil, Bool.or_false, List.contains_eq_mem, decide_not]
  rw [unmet, hnew]

/-- A name that is known or seen is passed over. -/
theorem unmet_cons_of_met {known seen : List Text} {n : Text} (h : n ∈ known ∨ n ∈ seen)
    (names : List Text) : unmet known seen (n :: names) = unmet known seen names := by
  rw [unmet, List.filter_cons_of_neg (by simpa [or_iff_not_imp_left] using h), unmet]

/-- Any other name is taken, and counts as seen from there on. -/
theorem unmet_cons_of_new {known seen : List Text} {n : Text} (h : ¬(n ∈ known ∨ n ∈ seen))
    (names : List Text) :
    unmet known seen (n :: names) = n :: unmet known (seen ++ [n]) names := by
  rw [unmet, List.filter_cons_of_pos (by simpa using h), List.eraseDups_cons, List.filter_filter,
    unmet]
  congr 2
  refine List.filter_congr fun m _ => ?_
  rw [List.contains_append, List.contains_cons, List.contains_nil, Bool.or_false, ← Bool.or_assoc,
    Bool.not_or _ (m == n), Bool.and_comm]

theorem unmet_append (known : List Text) : ∀ (names more seen : List Text),
    unmet known seen (names ++ more)
      = unmet known seen names ++ unmet known (seen ++ unmet known seen names) more := by
  intro names more
  induction names with
  | nil =>
      intro seen
      simp [unmet]
  | cons n names ih =>
      intro seen
      rw [List.cons_append]
      by_cases hn : n ∈ known ∨ n ∈ seen
      · rw [unmet_cons_of_met hn, unmet_cons_of_met hn, ih]
      · rw [unmet_cons_of_new hn, unmet_cons_of_new hn, ih, List.append_assoc]
        rfl

/-- No name is met for the first time twice. -/
theorem nodup_unmet (known : List Text) : ∀ (names seen : List Text),
    (unmet known seen names).Nodup := by
  intro names
  induction names with
  | nil =>
      intro seen
      simp [unmet]
  | cons n names ih =>
      intro seen
      by_cases hn : n ∈ known ∨ n ∈ seen
      · rw [unmet_cons_of_met hn]
        exact ih seen
      · rw [unmet_cons_of_new hn, List.nodup_cons]
        refine ⟨fun h => (mem_unmet.1 h).2.2 ?_, ih (seen ++ [n])⟩
        exact List.mem_append_right seen (List.mem_singleton_self n)

/-- Which names are met for the first time does not depend on the order that
the names come in. -/
theorem unmet_perm {known known' names names' : List Text} (hknown : known.Perm known')
    (hnames : names.Perm names') : (unmet known [] names).Perm (unmet known' [] names') := by
  rw [List.perm_ext_iff_of_nodup (nodup_unmet known names []) (nodup_unmet known' names' [])]
  intro n
  rw [mem_unmet, mem_unmet, hknown.mem_iff, hnames.mem_iff]

/-! ## References of fields -/

/-- The name that a field refers to, unless it is left out. -/
def Field.target? (f : Field) : Option Text := if f.isSkipped then none else f.signature.target?

theorem Field.target?_of_skipped {f : Field} (h : f.isSkipped = true) : f.target? = none := by
  rw [target?, if_pos h]

theorem Field.target?_of_kept {f : Field} (h : f.isSkipped = false) :
    f.target? = f.signature.target? := by
  rw [target?, if_neg (by simp [h])]

/-- The names that the properties of a model refer to, in order. -/
def Model.targets (m : Model) : List Text := m.properties.filterMap fun p => p.signature.target?

theorem Model.targets_eq_fields (m : Model) : m.targets = m.fields.filterMap Field.target? := by
  rw [targets, properties_eq, List.filterMap_map, kept, List.filterMap_filter]
  congr 1
  funext f
  cases hf : f.isSkipped with
  | true => simp [Field.target?, hf]
  | false => simp [Field.target?, hf, Property.ofField]

/-- The event is the warning that a field of the model refers to the name. -/
def Model.Warns (m : Model) (e : Event) (name : Text) : Prop :=
  ∃ f ∈ m.kept, f.signature.target? = some name ∧
    e = ⟨.warn, .generation, "⚠️ " ++ m.name ++ "." ++ f.name ++ " references '" ++ name ++
      "', which is not in the allow-list"⟩

/-! ## Fields -/

namespace Report

variable (known : List Text)

/-- What a field does to a report: it is counted, it has nothing to note, or
its name is noted and told of. -/
theorem addField_cases (model : Text) (r : Report) (f : Field) :
    (f.isSkipped = true ∧ f.target? = none ∧
        r.addField known model f = ({ r with skippedFields := r.skippedFields + 1 }, [])) ∨
      (f.isSkipped = false ∧
        (∀ target, f.target? = some target → target ∈ known ∨ target ∈ r.foreignReferences) ∧
        r.addField known model f = (r, [])) ∨
      ∃ target, f.isSkipped = false ∧ f.target? = some target ∧
        ¬(target ∈ known ∨ target ∈ r.foreignReferences) ∧
        r.addField known model f =
          ({ r with foreignReferences := r.foreignReferences ++ [target] },
            [Model.strangerEvent model f.name target]) := by
  rw [addField]
  cases hf : f.isSkipped with
  | true => exact .inl ⟨rfl, Field.target?_of_skipped hf, rfl⟩
  | false =>
      rw [Field.target?_of_kept hf]
      cases ht : f.signature.target? with
      | none => exact .inr (.inl ⟨rfl, nofun, rfl⟩)
      | some target =>
          have hiff : (known.contains target || r.foreignReferences.contains target) = true ↔
              target ∈ known ∨ target ∈ r.foreignReferences := by
            simp
          by_cases hmet : target ∈ known ∨ target ∈ r.foreignReferences
          · refine .inr (.inl ⟨rfl, ?_, if_pos (hiff.2 hmet)⟩)
            rintro _ ⟨⟩
            exact hmet
          · exact .inr (.inr ⟨target, rfl, rfl, hmet, if_neg (mt hiff.1 hmet)⟩)

/-- The count and the names of a report, once some fields were gone through. -/
theorem addFields_report (model : Text) : ∀ (fields : List Field) (r : Report),
    (r.addFields known model fields).1 =
      ⟨r.declarations, r.skippedFields + fields.countP Field.isSkipped,
        r.foreignReferences ++ unmet known r.foreignReferences (fields.filterMap Field.target?)⟩ := by
  intro fields
  induction fields with
  | nil =>
      intro r
      simp [addFields, unmet]
  | cons f more ih =>
      intro r
      show ((r.addField known model f).1.addFields known model more).1 = _
      rw [ih]
      rcases r.addField_cases known model f with
        ⟨hf, ht, hstep⟩ | ⟨hf, hmet, hstep⟩ | ⟨target, hf, ht, hnew, hstep⟩
      · rw [hstep, List.countP_cons_of_pos hf, List.filterMap_cons_none ht, Nat.add_right_comm]
        rfl
      · rw [hstep, List.countP_cons_of_neg (by simp [hf])]
        cases ht : f.target? with
        | none => rw [List.filterMap_cons_none ht]
        | some target => rw [List.filterMap_cons_some ht, unmet_cons_of_met (hmet target ht)]
      · rw [hstep, List.countP_cons_of_neg (by simp [hf]), List.filterMap_cons_some ht,
          unmet_cons_of_new hnew, List.append_assoc]
        rfl

/-- The names that are noted are told of one by one. -/
theorem addFields_warnings (m : Model) : ∀ (fields : List Field), fields ⊆ m.fields →
    ∀ r : Report, List.Forall₂ m.Warns (r.addFields known m.name fields).2
      (unmet known r.foreignReferences (fields.filterMap Field.target?)) := by
  intro fields
  induction fields with
  | nil => exact fun _ _ => .nil
  | cons f more ih =>
      intro hsub r
      have hrest := ih (List.subset_of_cons_subset hsub) (r.addField known m.name f).1
      show List.Forall₂ m.Warns ((r.addField known m.name f).2
        ++ ((r.addField known m.name f).1.addFields known m.name more).2) _
      rcases r.addField_cases known m.name f with
        ⟨-, ht, hstep⟩ | ⟨-, hmet, hstep⟩ | ⟨target, hf, ht, hnew, hstep⟩
      · rw [hstep] at hrest ⊢
        rw [List.filterMap_cons_none ht]
        exact hrest
      · rw [hstep] at hrest ⊢
        cases ht : f.target? with
        | none =>
            rw [List.filterMap_cons_none ht]
            exact hrest
        | some target =>
            rw [List.filterMap_cons_some ht, unmet_cons_of_met (hmet target ht)]
            exact hrest
      · rw [hstep] at hrest ⊢
        rw [List.filterMap_cons_some ht, unmet_cons_of_new hnew]
        have hkept : f ∈ m.kept :=
          List.mem_filter.2 ⟨hsub List.mem_cons_self, by rw [hf]; rfl⟩
        refine .cons ⟨f, hkept, (Field.target?_of_kept hf).symm.trans ht, ?_⟩ hrest
        rw [Model.strangerEvent, Model.memberName_eq, ← List.append_assoc, ← List.append_assoc]

end Report

/-- **Three passes over the fields leave out the same.**  Extraction keeps the
properties of the other fields and tells of those left out; a plan names these;
and a run counts as many. -/
theorem Model.passes_agree (m : Model) (known : List Text) (r : Report) :
    m.properties = m.kept.map Property.ofField ∧
      m.skipEvents = m.plan.skipped.map (fun name =>
        ⟨.debug, .extraction, "Skipping " ++ m.name ++ "." ++ name⟩) ∧
      (r.addFields known m.name m.fields).1.skippedFields
        = r.skippedFields + m.plan.skipped.length := by
  refine ⟨m.properties_eq, ?_, ?_⟩
  · rw [skipEvents_eq, skipped_plan, List.map_map]
    rfl
  · rw [r.addFields_report, skipped_plan, List.length_map, leftOut, List.countP_eq_length_filter]

end Typescribe
