/-
What names of an allow-list resolve to.

A name stands for the first model of exactly that name, and an allow-list for
one model a name, in its own order.  Names may repeat in the catalog, and in
the allow-list too as far as resolving goes.  It fails only for a name that no
model has, and then it names the first of these.
-/
import Mathlib.Data.List.Forall2
import Typescribe.Catalog.Basic

namespace Typescribe.Catalog

variable {c : Catalog}

/-! ## One name -/

def Knows (c : Catalog) (name : Text) : Prop := ∃ m ∈ c, m.name = name

/-- The model has the name, and no model before it has. -/
def IsFirst (c : Catalog) (name : Text) (m : Model) : Prop :=
  ∃ before behind, c = before ++ m :: behind ∧ m.name = name ∧ ∀ other ∈ before, other.name ≠ name

theorem find_eq_some_iff {name : Text} {m : Model} : c.find name = some m ↔ c.IsFirst name m := by
  rw [find, List.find?_eq_some_iff_append]
  simp only [decide_eq_true_eq, Bool.not_eq_true', decide_eq_false_iff_not]
  constructor
  · rintro ⟨hname, before, behind, hc, hbefore⟩
    exact ⟨before, behind, hc, hname, hbefore⟩
  · rintro ⟨before, behind, hc, hname, hbefore⟩
    exact ⟨hname, before, behind, hc, hbefore⟩

theorem find_eq_none_iff {name : Text} : c.find name = none ↔ ¬c.Knows name := by
  simp [find, Knows]

theorem knows_of_find {name : Text} {m : Model} (h : c.find name = some m) : c.Knows name := by
  refine Classical.byContradiction fun hunknown => ?_
  rw [find_eq_none_iff.2 hunknown] at h
  cases h

/-! ## Allow-lists -/

theorem resolve_cons_of_missing {name : Text} (h : c.find name = none) (more : List Text) :
    c.resolve (name :: more) = .error (.unknownModel name) := by
  rw [resolve, h]

theorem resolve_cons_of_found {name : Text} {m : Model} (h : c.find name = some m)
    (more : List Text) : c.resolve (name :: more) = (c.resolve more).map (m :: ·) := by
  rw [resolve, h]

/-- Names resolve to the first model of each. -/
theorem resolve_eq_ok {names : List Text} {models : List Model}
    (h : c.resolve names = .ok models) : List.Forall₂ c.IsFirst names models := by
  induction names generalizing models with
  | nil =>
      cases h
      exact .nil
  | cons name more ih =>
      cases hfind : c.find name with
      | none =>
          rw [resolve_cons_of_missing hfind] at h
          cases h
      | some m =>
          rw [resolve_cons_of_found hfind] at h
          cases hmore : c.resolve more with
          | error fault =>
              rw [hmore] at h
              cases h
          | ok found =>
              rw [hmore] at h
              cases h
              exact .cons (find_eq_some_iff.1 hfind) (ih hmore)

/-- Resolving fails for the first name that no model has. -/
theorem resolve_eq_error {names : List Text} {fault : Fault} (h : c.resolve names = .error fault) :
    ∃ before name behind, names = before ++ name :: behind ∧ (∀ n ∈ before, c.Knows n) ∧
      ¬c.Knows name ∧ fault = .unknownModel name := by
  induction names with
  | nil => cases h
  | cons name more ih =>
      cases hfind : c.find name with
      | none =>
          rw [resolve_cons_of_missing hfind] at h
          cases h
          exact ⟨[], name, more, rfl, nofun, find_eq_none_iff.1 hfind, rfl⟩
      | some m =>
          rw [resolve_cons_of_found hfind] at h
          cases hmore : c.resolve more with
          | ok found =>
              rw [hmore] at h
              cases h
          | error other =>
              rw [hmore] at h
              obtain rfl : other = fault := Except.error.inj h
              obtain ⟨before, missing, behind, hnames, hknown, hrest⟩ := ih hmore
              exact ⟨name :: before, missing, behind, congrArg (name :: ·) hnames,
                List.forall_mem_cons.2 ⟨knows_of_find hfind, hknown⟩, hrest⟩

theorem resolve_succeeds_iff {names : List Text} :
    (∃ models, c.resolve names = .ok models) ↔ ∀ name ∈ names, c.Knows name := by
  constructor
  · rintro ⟨models, h⟩
    have hfirst := resolve_eq_ok h
    clear h
    induction hfirst with
    | nil => exact nofun
    | cons hfirst _ ih =>
        exact List.forall_mem_cons.2 ⟨knows_of_find (find_eq_some_iff.2 hfirst), ih⟩
  · intro h
    cases hresolve : c.resolve names with
    | ok models => exact ⟨models, rfl⟩
    | error fault =>
        obtain ⟨before, name, behind, rfl, -, hmissing, -⟩ := resolve_eq_error hresolve
        exact absurd (h name (List.mem_append_right before List.mem_cons_self)) hmissing

/-- The models that names resolve to have these names, in this order. -/
theorem names_of_resolve {names : List Text} {models : List Model}
    (h : c.resolve names = .ok models) : models.map (·.name) = names := by
  have hfirst := resolve_eq_ok h
  clear h
  induction hfirst with
  | nil => rfl
  | cons hfirst _ ih =>
      obtain ⟨_, _, _, hname, -⟩ := hfirst
      rw [List.map_cons, hname, ih]

end Typescribe.Catalog
