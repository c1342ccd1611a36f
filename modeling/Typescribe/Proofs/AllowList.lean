/-
Which names pass as an allow-list, and what is said of those that do not.

The check goes over the names one by one and keeps those it has seen, and
which fault it ends with depends on their order: it is that of the first name
that is blank or stands before.  Whether it passes does not: there must be a
name, none may be blank, and no two may be the same.

What makes a name a defect is said by `Defect`, of the names before it alone.
The names seen come in another order than they stand in, so that every
statement about the recursion asks of them only which they are.
-/
import Typescribe.AllowList
import Typescribe.Proofs.Text.Trim

namespace Typescribe

theorem requireText_eq_ok_iff {field value : Text} :
    requireText field value = .ok () ↔ value.trim ≠ [] := by
  rw [requireText]
  split
  · next h => exact ⟨nofun, fun hne => absurd h hne⟩
  · next h => exact ⟨fun _ => h, fun _ => rfl⟩

namespace AllowList

/-- Names pass behind those seen before when none is blank, no two are the
same, and none was seen. -/
theorem checkNames_eq_ok_iff : ∀ {names seen : List Text},
    checkNames seen names = .ok () ↔
      (∀ n ∈ names, n.trim ≠ []) ∧ names.Nodup ∧ ∀ n ∈ names, n ∉ seen := by
  intro names
  induction names with
  | nil =>
      intro seen
      simp [checkNames]
  | cons name more ih =>
      intro seen
      rw [checkNames, List.nodup_cons, List.forall_mem_cons, List.forall_mem_cons]
      cases hblank : requireText fieldName name with
      | error fault =>
          have hname : ¬name.trim ≠ [] := by
            intro hname
            rw [requireText_eq_ok_iff.2 hname] at hblank
            cases hblank
          exact ⟨nofun, fun h => absurd h.1.1 hname⟩
      | ok _ =>
          have hname : name.trim ≠ [] := requireText_eq_ok_iff.1 hblank
          show (if name ∈ seen then _ else _) = _ ↔ _
          by_cases hseen : name ∈ seen
          · rw [if_pos hseen]
            exact ⟨nofun, fun h => absurd hseen h.2.2.1⟩
          · rw [if_neg hseen, ih]
            -- a later name is not this one and not an earlier one
            simp only [List.mem_cons, not_or]
            constructor
            · rintro ⟨hmore, hnodup, hnew⟩
              exact ⟨⟨hname, hmore⟩, ⟨fun h => (hnew name h).1 rfl, hnodup⟩, hseen,
                fun n hn => (hnew n hn).2⟩
            · rintro ⟨⟨-, hmore⟩, ⟨hfirst, hnodup⟩, -, hnew⟩
              refine ⟨hmore, hnodup, fun n hn => ⟨?_, hnew n hn⟩⟩
              rintro rfl
              exact hfirst hn

/-- An allow-list passes when it names something, no name is blank, and no two
names are the same. -/
theorem check_eq_ok_iff {names : List Text} :
    check names = .ok () ↔ names ≠ [] ∧ (∀ n ∈ names, n.trim ≠ []) ∧ names.Nodup := by
  rw [check]
  split
  · next h => exact ⟨nofun, fun hpass => absurd h hpass.1⟩
  · next h =>
    rw [checkNames_eq_ok_iff]
    constructor
    · rintro ⟨hblank, hnodup, -⟩
      exact ⟨h, hblank, hnodup⟩
    · rintro ⟨-, hblank, hnodup⟩
      exact ⟨hblank, hnodup, fun _ _ => List.not_mem_nil⟩

/-- Whether names pass does not depend on their order. -/
theorem check_perm {names others : List Text} (h : names.Perm others) :
    check names = .ok () ↔ check others = .ok () := by
  have hnil : names = [] ↔ others = [] :=
    ⟨fun hn => (hn ▸ h).nil_eq.symm, fun ho => (ho ▸ h).eq_nil⟩
  have hmem : (∀ n ∈ names, n.trim ≠ []) ↔ ∀ n ∈ others, n.trim ≠ [] :=
    forall_congr' fun n => imp_congr_left h.mem_iff
  rw [check_eq_ok_iff, check_eq_ok_iff, ne_eq, ne_eq, hnil, hmem, h.nodup_iff]

/-! ## Defects -/

/-- What is wrong with a name behind others.  A blank name is told of as one
also where it stands before. -/
inductive Defect (before : List Text) (name : Text) : Fault → Prop
  | blank : (∀ c ∈ name, Text.isBlank c = true) →
      Defect before name (.invalidValue "models.allow_list" name
        "Value cannot be empty or whitespace-only")
  | repeated : (∃ c ∈ name, Text.isBlank c = false) → name ∈ before →
      Defect before name (.duplicateModel name)

/-- What is wrong with the name at a place; `seen` are those before the list. -/
def DefectAt (seen names : List Text) (i : Nat) (fault : Fault) : Prop :=
  ∃ name, names[i]? = some name ∧ Defect (seen ++ names.take i) name fault

/-- What is wrong at the first place where something is. -/
def FirstDefect (seen names : List Text) (fault : Fault) : Prop :=
  ∃ i, DefectAt seen names i fault ∧ ∀ j < i, ∀ other, ¬DefectAt seen names j other

theorem not_blank_iff {name : Text} :
    (¬∀ c ∈ name, Text.isBlank c = true) ↔ ∃ c ∈ name, Text.isBlank c = false := by
  simp

/-- Only which names stand before matters. -/
theorem Defect.congr {before others : List Text} (h : ∀ n, n ∈ before ↔ n ∈ others) {name : Text}
    {fault : Fault} : Defect before name fault ↔ Defect others name fault := by
  constructor
  · intro hdefect
    cases hdefect with
    | blank hblank => exact .blank hblank
    | repeated htext hbefore => exact .repeated htext ((h name).1 hbefore)
  · intro hdefect
    cases hdefect with
    | blank hblank => exact .blank hblank
    | repeated htext hbefore => exact .repeated htext ((h name).2 hbefore)

/-- One thing at most is wrong with a name. -/
theorem Defect.unique {before : List Text} {name : Text} {fault other : Fault}
    (h : Defect before name fault) (h' : Defect before name other) : fault = other := by
  cases h with
  | blank hblank =>
      cases h' with
      | blank _ => rfl
      | repeated htext _ => exact absurd hblank (not_blank_iff.2 htext)
  | repeated htext _ =>
      cases h' with
      | blank hblank => exact absurd hblank (not_blank_iff.2 htext)
      | repeated _ _ => rfl

/-! ## One step -/

/-- A defect ends the check. -/
theorem checkNames_of_defect {seen : List Text} {name : Text} {fault : Fault}
    (h : Defect seen name fault) (more : List Text) :
    checkNames seen (name :: more) = .error fault := by
  rw [checkNames, requireText]
  cases h with
  | blank hblank =>
      rw [if_pos (Text.trim_eq_nil_iff.2 hblank)]
      rfl
  | repeated htext hseen =>
      have hname : name.trim ≠ [] := fun h => not_blank_iff.2 htext (Text.trim_eq_nil_iff.1 h)
      rw [if_neg hname]
      exact if_pos hseen

/-- Any other name counts as seen from there on. -/
theorem checkNames_of_sound {seen : List Text} {name : Text}
    (h : ∀ fault, ¬Defect seen name fault) (more : List Text) :
    checkNames seen (name :: more) = checkNames (name :: seen) more := by
  have hblank : ¬∀ c ∈ name, Text.isBlank c = true := fun hblank => h _ (.blank hblank)
  have hseen : name ∉ seen := fun hseen => h _ (.repeated (not_blank_iff.1 hblank) hseen)
  have hname : name.trim ≠ [] := fun htrim => hblank (Text.trim_eq_nil_iff.1 htrim)
  rw [checkNames, requireText, if_neg hname]
  exact if_neg hseen

/-! ## The first defect -/

theorem defectAt_zero {seen more : List Text} {name : Text} {fault : Fault} :
    DefectAt seen (name :: more) 0 fault ↔ Defect seen name fault := by
  rw [DefectAt, List.take_zero, List.append_nil]
  constructor
  · rintro ⟨other, hother, h⟩
    cases hother
    exact h
  · intro h
    exact ⟨name, rfl, h⟩

/-- Behind the first name, that name counts as seen. -/
theorem defectAt_succ {seen more : List Text} {name : Text} {i : Nat} {fault : Fault} :
    DefectAt seen (name :: more) (i + 1) fault ↔ DefectAt (name :: seen) more i fault := by
  have hseen : ∀ n, n ∈ seen ++ name :: more.take i ↔ n ∈ (name :: seen) ++ more.take i := by
    intro n
    rw [List.cons_append, List.mem_append, List.mem_cons, List.mem_cons, List.mem_append]
    exact or_left_comm
  constructor
  · rintro ⟨other, hother, h⟩
    exact ⟨other, hother, (Defect.congr hseen).1 h⟩
  · rintro ⟨other, hother, h⟩
    exact ⟨other, hother, (Defect.congr hseen).2 h⟩

theorem not_firstDefect_nil {seen : List Text} {fault : Fault} : ¬FirstDefect seen [] fault := by
  rintro ⟨i, ⟨name, hname, -⟩, -⟩
  cases hname

/-- A defect of the first name comes first. -/
theorem firstDefect_of_defect {seen more : List Text} {name : Text} {fault other : Fault}
    (h : Defect seen name other) : FirstDefect seen (name :: more) fault ↔ other = fault := by
  constructor
  · rintro ⟨i, hi, hfirst⟩
    cases i with
    | zero => exact h.unique (defectAt_zero.1 hi)
    | succ i => exact absurd (defectAt_zero.2 h) (hfirst 0 (Nat.succ_pos i) other)
  · rintro rfl
    exact ⟨0, defectAt_zero.2 h, fun j hj => absurd hj (Nat.not_lt_zero j)⟩

/-- Behind a name that is none, the first defect is that of the rest. -/
theorem firstDefect_of_sound {seen more : List Text} {name : Text} {fault : Fault}
    (h : ∀ fault, ¬Defect seen name fault) :
    FirstDefect seen (name :: more) fault ↔ FirstDefect (name :: seen) more fault := by
  constructor
  · rintro ⟨i, hi, hfirst⟩
    cases i with
    | zero => exact absurd (defectAt_zero.1 hi) (h fault)
    | succ i =>
        refine ⟨i, defectAt_succ.1 hi, fun j hj other hother => ?_⟩
        exact hfirst (j + 1) (Nat.succ_lt_succ hj) other (defectAt_succ.2 hother)
  · rintro ⟨i, hi, hfirst⟩
    refine ⟨i + 1, defectAt_succ.2 hi, fun j hj other hother => ?_⟩
    cases j with
    | zero => exact h other (defectAt_zero.1 hother)
    | succ j => exact hfirst j (Nat.lt_of_succ_lt_succ hj) other (defectAt_succ.1 hother)

/-- The check ends with the first defect, and with no other fault. -/
theorem checkNames_eq_error_iff {fault : Fault} : ∀ {names seen : List Text},
    checkNames seen names = .error fault ↔ FirstDefect seen names fault := by
  intro names
  induction names with
  | nil =>
      intro seen
      exact ⟨nofun, fun h => absurd h not_firstDefect_nil⟩
  | cons name more ih =>
      intro seen
      by_cases hdefect : ∃ other, Defect seen name other
      · obtain ⟨other, hother⟩ := hdefect
        rw [checkNames_of_defect hother, firstDefect_of_defect hother]
        exact ⟨Except.error.inj, congrArg _⟩
      · have hsound : ∀ other, ¬Defect seen name other := not_exists.1 hdefect
        rw [checkNames_of_sound hsound, firstDefect_of_sound hsound]
        exact ih

/-- **The check accepts good lists and reports the first defect.**  A list is
good when it names something, every name holds a character that is not blank,
and the names differ from each other as they are written.  An empty list has a
fault of its own; any other fault is that of the first name that is blank or
stands before, and names it as it is written, as blank where it is. -/
theorem check_reports_first_defect (names : List Text) :
    (check names = .ok () ↔
      names ≠ [] ∧ (∀ name ∈ names, ∃ c ∈ name, Text.isBlank c = false) ∧
        names.Pairwise (· ≠ ·)) ∧
    ∀ fault, check names = .error fault ↔
      (names = [] ∧ fault = .emptyAllowList) ∨ FirstDefect [] names fault := by
  constructor
  · rw [check_eq_ok_iff]
    have htext : ∀ name : Text, name.trim ≠ [] ↔ ∃ c ∈ name, Text.isBlank c = false := by
      intro name
      rw [← not_blank_iff, ne_eq, Text.trim_eq_nil_iff]
    simp only [htext]
    exact Iff.rfl
  · intro fault
    rw [check]
    split
    · next hnil =>
      subst hnil
      constructor
      · intro h
        exact .inl ⟨rfl, (Except.error.inj h).symm⟩
      · rintro (⟨-, rfl⟩ | h)
        · rfl
        · exact absurd h not_firstDefect_nil
    · next hne =>
      rw [checkNames_eq_error_iff]
      constructor
      · exact .inr
      · rintro (⟨hnil, -⟩ | h)
        · exact absurd hnil hne
        · exact h

/-- Blanks around a name make another name of it; a blank one is told of as
blank also where it is the same as one before. -/
example : check ["Room", " Room", "Room\t"] = .ok () ∧
    check ["Room", "Hall", "Room", "\u3000"] = .error (.duplicateModel "Room") ∧
    check ["Room", "\u2003\u3000", "Room"] = .error (.invalidValue "models.allow_list"
      "\u2003\u3000" "Value cannot be empty or whitespace-only") :=
  ⟨rfl, rfl, rfl⟩

end AllowList

end Typescribe
