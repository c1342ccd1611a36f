/-
The references that a report names, and those that it misses.

A field refers to the name behind its qualifier.  Where the signature was
taken apart, the name is a part of the leaf, and a successful run either knows
it as the name of a model or reports it.  Where the leaf is text that was kept
verbatim, the qualifiers in it are found and erased when the TypeScript type
is written, but the names behind them are not looked at: a reference in a map,
say, is written and not reported.

What a field refers to is said leaf by leaf, but it is nothing else than what
its text leads to, markers included: see `Signature.refersTo_iff`.  Which
references are missed is said by `run_covers_iff`: those in verbatim text that
no model has for its name and no other field refers to outside of such text.
-/
import Mathlib.Data.List.Basic
import Typescribe.Proofs.Generation.Report
import Typescribe.Proofs.Signature.TextualRule

namespace Typescribe

/-! ## References -/

/-- A name stands directly behind a qualifier of the text: a whole identifier,
and not a qualifier itself. -/
def Qualifier.LeadsTo (s name : Text) : Prop :=
  ∃ before letters behind, s = before ++ letters ++ '.' :: (name ++ behind) ∧
    inWordAfter false before = false ∧ letters ≠ [] ∧ (∀ c ∈ letters, c.isLower = true) ∧
    Text.isIdent name = true ∧ (∀ c, behind.head? = some c → Text.isIdentRest c = false) ∧
    behind? (name ++ behind) = none

/-- A name stands behind a qualifier that is taken off when the TypeScript
type of the leaf is written. -/
def Leaf.RefersTo : Leaf → Text → Prop
  | primitive _, _ => False
  | qualified _ target, name => name = target
  | verbatim text, name => Qualifier.LeadsTo (Qualifier.eraseSlices text) name

/-- All that a field refers to is the name of a model or is reported. -/
def Report.Covers (report : Report) (models : List Model) (f : Field) : Prop :=
  ∀ name, f.signature.leaf.RefersTo name →
    name ∈ models.map (·.name) ∨ name ∈ report.foreignReferences

/-! ## References in the text -/

namespace Qualifier

/-- Nothing in a piece without small letters leads to a name. -/
theorem leadsTo_append {s : Text} (hlower : ∀ c ∈ s, c.isLower = false)
    (hword : inWordAfter false s = false) (rest name : Text) :
    LeadsTo (s ++ rest) name ↔ LeadsTo rest name := by
  constructor
  · rintro ⟨before, letters, behind, hs, hw, hne, hletters, hname⟩
    rw [List.append_assoc] at hs
    rcases List.append_eq_append_iff.1 hs with ⟨more, rfl, hrest⟩ | ⟨shared, rfl, hshared⟩
    · rw [inWordAfter_append, hword] at hw
      exact ⟨more, letters, behind, by rw [List.append_assoc, hrest], hw, hne, hletters, hname⟩
    · -- the piece would reach into the letters
      cases shared with
      | nil =>
          rw [List.nil_append] at hshared
          exact ⟨[], letters, behind, hshared.symm, rfl, hne, hletters, hname⟩
      | cons c more =>
          cases letters with
          | nil => exact absurd rfl hne
          | cons d others =>
              obtain ⟨rfl, -⟩ := List.cons.inj hshared
              have hc : d.isLower = false :=
                hlower d (List.mem_append_right before List.mem_cons_self)
              exact absurd ((hletters d List.mem_cons_self).symm.trans hc) (by decide)
  · rintro ⟨before, letters, behind, rfl, hw, hname⟩
    refine ⟨s ++ before, letters, behind, by simp only [List.append_assoc], ?_, hname⟩
    rw [inWordAfter_append, hword, hw]

/-- Where the only dot has an identifier behind it, nothing else is led to. -/
theorem eq_of_leadsTo {front target name : Text} (hfront : '.' ∉ front)
    (htarget : Text.isIdent target = true) (h : LeadsTo (front ++ '.' :: target) name) :
    name = target := by
  have hdot : '.' ∉ target :=
    (Leaf.not_mem_of_isIdentRest (Text.isIdentRest_of_isIdent htarget)).2
  obtain ⟨before, letters, behind, hs, -, -, -, -, hend, -⟩ := h
  obtain ⟨rfl, -, rfl⟩ := (List.append_cons_inj_of_notMem hfront hdot).1 hs
  -- the name fills the identifier, or else a letter of it would follow
  cases behind with
  | nil => rw [List.append_nil]
  | cons c more =>
      have hc : Text.isIdentRest c = true := Text.isIdentRest_of_isIdent htarget c
        (List.mem_append_right name List.mem_cons_self)
      exact absurd (hc.symm.trans (hend c rfl)) (by decide)

/-- A qualifier leads to the one name behind it. -/
theorem leadsTo_qualified {package target : Text} (hne : package ≠ [])
    (hlower : ∀ c ∈ package, c.isLower = true) (htarget : Text.isIdent target = true)
    (name : Text) : LeadsTo (package ++ '.' :: target) name ↔ name = target := by
  constructor
  · have hpackage : '.' ∉ package := fun h => absurd (hlower _ h) (by decide)
    exact eq_of_leadsTo hpackage htarget
  · rintro rfl
    have hdot : '.' ∉ name :=
      (Leaf.not_mem_of_isIdentRest (Text.isIdentRest_of_isIdent htarget)).2
    have hnone : behind? (name ++ []) = none := by
      rw [List.append_nil]
      exact behind?_of_no_dot hdot
    exact ⟨[], package, [], by rw [List.append_nil, List.nil_append], rfl, hne, hlower, htarget,
      nofun, hnone⟩

end Qualifier

/-- What a leaf refers to is what its text leads to, a package with a digit or
an underscore apart. -/
theorem Leaf.refersTo_iff {leaf : Leaf} (h : leaf.IsReadable)
    (hletters : ∀ package target, leaf = .qualified package target →
      ∀ c ∈ package, c.isDigit = false ∧ c ≠ '_') (name : Text) :
    leaf.RefersTo name ↔ Qualifier.LeadsTo (Qualifier.eraseSlices leaf.text) name := by
  cases leaf with
  | primitive kind =>
      obtain ⟨hopen, hdot⟩ := not_mem_of_isIdentRest (Text.isIdentRest_of_isIdent (isIdent_name kind))
      show False ↔ Qualifier.LeadsTo (Qualifier.eraseSlices kind.name) name
      rw [Qualifier.eraseSlices_of_no_bracket hopen]
      refine ⟨False.elim, ?_⟩
      rintro ⟨before, letters, behind, hs, -⟩
      exact hdot (hs ▸ List.mem_append_right _ List.mem_cons_self)
  | qualified package target =>
      obtain ⟨hne, hlower⟩ := isLower_of_isPackage h.1 (hletters package target rfl)
      show name = target ↔ Qualifier.LeadsTo (Qualifier.eraseSlices (package ++ '.' :: target)) name
      rw [Qualifier.eraseSlices_of_no_bracket (not_mem_qualified h.1 h.2),
        Qualifier.leadsTo_qualified hne hlower h.2]
  | verbatim text => exact Iff.rfl

/-- Markers lead to nothing: what a leaf refers to is what the text of the
whole signature leads to. -/
theorem Signature.refersTo_iff {s : Signature} (h : s.leaf.IsReadable)
    (hletters : ∀ package target, s.leaf = .qualified package target →
      ∀ c ∈ package, c.isDigit = false ∧ c ≠ '_') (name : Text) :
    s.leaf.RefersTo name ↔ Qualifier.LeadsTo (Qualifier.eraseSlices s.text) name := by
  obtain ⟨markers, leaf⟩ := s
  induction markers with
  | nil => exact Leaf.refersTo_iff h hletters name
  | cons m more ih =>
      rw [ih h hletters, text_cons]
      by_cases hm : m = .slice
      · subst hm
        rfl
      · rw [(Marker.slices_text_append hm _).1,
          Qualifier.leadsTo_append (fun _ hc => Marker.isLower_of_mem_text hc)
            (m.inWordAfter_text false)]

namespace Generation

theorem mem_targets_iff {models : List Model} {name : Text} :
    name ∈ models.flatMap Model.targets ↔
      ∃ m ∈ models, ∃ f ∈ m.kept, f.signature.target? = some name := by
  rw [List.mem_flatMap]
  refine exists_congr fun m => and_congr_right fun _ => ?_
  rw [Model.targets, Model.properties_eq, List.filterMap_map, List.mem_filterMap]
  rfl

/-- A name is known or reported, when it is the name of a model or some field
has it behind the qualifier of its leaf. -/
theorem mem_known_or_reported_iff {models : List Model} {sink : Sink} {report : Report}
    (hrun : (run models sink).outcome = .ok report) {name : Text} :
    (name ∈ models.map (·.name) ∨ name ∈ report.foreignReferences) ↔
      name ∈ models.map (·.name) ∨
        ∃ m ∈ models, ∃ f ∈ m.kept, f.signature.target? = some name := by
  rw [report_of_run hrun, reportOn_empty, mem_unmet, mem_targets_iff]
  by_cases hknown : name ∈ models.map (·.name)
  · exact ⟨fun _ => .inl hknown, fun _ => .inl hknown⟩
  · refine or_congr_right ⟨fun h => h.1, fun h => ⟨h, hknown, List.not_mem_nil⟩⟩

/-- What the leaf of a kept field refers to is known or reported, if the leaf
was taken apart. -/
theorem covered_of_qualified {models : List Model} {m : Model} (hm : m ∈ models) {f : Field}
    (hf : f ∈ m.kept) (hleaf : ∀ text, f.signature.leaf ≠ .verbatim text) {name : Text}
    (hname : f.signature.leaf.RefersTo name) :
    ∃ n ∈ models, ∃ g ∈ n.kept, g.signature.target? = some name := by
  refine ⟨m, hm, f, hf, ?_⟩
  rw [Signature.target?]
  cases hl : f.signature.leaf with
  | primitive kind =>
      rw [hl] at hname
      cases hname
  | qualified package target =>
      rw [hl] at hname
      exact congrArg some (Eq.symm hname)
  | verbatim text => exact absurd hl (hleaf text)

/-- **Which references a successful run misses.**  All that a field refers to is
known or reported, unless the field has its leaf in verbatim text: then each
name in the text must be that of a model, or some other field must have it
behind the qualifier of its leaf. -/
theorem run_covers_iff {models : List Model} {sink : Sink} {report : Report}
    (hrun : (run models sink).outcome = .ok report) {m : Model} (hm : m ∈ models) {f : Field}
    (hf : f ∈ m.kept) :
    report.Covers models f ↔
      ∀ text, f.signature.leaf = .verbatim text → ∀ name, (Leaf.verbatim text).RefersTo name →
        name ∈ models.map (·.name) ∨
          ∃ n ∈ models, ∃ g ∈ n.kept, g.signature.target? = some name := by
  constructor
  · intro hcovers text htext name hname
    exact (mem_known_or_reported_iff hrun).1 (hcovers name (htext ▸ hname))
  · intro h name hname
    refine (mem_known_or_reported_iff hrun).2 ?_
    by_cases hleaf : ∀ text, f.signature.leaf ≠ .verbatim text
    · exact .inr (covered_of_qualified hm hf hleaf hname)
    · obtain ⟨text, htext⟩ := not_forall_not.1 hleaf
      exact h text htext name (htext ▸ hname)

/-- The name in a map is not missed when another field refers to it outside of
verbatim text. -/
theorem run_covers_iff_map :
    let home : Field := ⟨"Home", ⟨[.pointer], .qualified "model" "Place"⟩, none⟩
    let places : Field := ⟨"Places", ⟨[], .verbatim "map[string]model.Place"⟩, none⟩
    let atlas : Model := ⟨"Atlas", [home, places]⟩
    (run [atlas] .unbounded).outcome = .ok ⟨1, 0, ["Place"]⟩ ∧ atlas ∈ [atlas] ∧
      places ∈ atlas.kept ∧ Report.Covers ⟨1, 0, ["Place"]⟩ [atlas] places := by
  intro home places atlas
  have hrun : (run [atlas] .unbounded).outcome = .ok ⟨1, 0, ["Place"]⟩ := by
    with_unfolding_all rfl
  have hatlas : atlas ∈ [atlas] := List.mem_singleton_self atlas
  have hplaces : places ∈ atlas.kept := List.mem_cons_of_mem home List.mem_cons_self
  refine ⟨hrun, hatlas, hplaces, (run_covers_iff hrun hatlas hplaces).2 ?_⟩
  rintro _ ⟨⟩ name hname
  have hleads : Qualifier.LeadsTo (("map[string]model" : Text) ++ '.' :: ("Place" : Text)) name :=
    hname
  obtain rfl : name = "Place" := Qualifier.eq_of_leadsTo (by decide) rfl hleads
  exact .inr ⟨atlas, hatlas, home, List.mem_cons_self, rfl⟩

/-- The reference in a map is written, leads to no model of the run, and is
not reported. -/
theorem run_misses_verbatim :
    let atlas : Model := ⟨"Atlas", [⟨"Places", .ofText "map[string]model.Ghost", none⟩]⟩
    ∃ report, (run [atlas] .unbounded).outcome = .ok report ∧
      ∃ f ∈ atlas.kept, f.signature.isForeign = true ∧ ¬report.Covers [atlas] f := by
  intro atlas
  have hsig : Signature.ofText "map[string]model.Ghost"
      = ⟨[], .verbatim "map[string]model.Ghost"⟩ := by decide +kernel
  have hrun : (run [atlas] .unbounded).outcome = .ok ⟨1, 0, []⟩ := by
    with_unfolding_all rfl
  refine ⟨_, hrun, _, List.mem_singleton_self _, ?_, fun hcovers => ?_⟩
  · rw [hsig]
    decide
  · have hghost : (Signature.ofText "map[string]model.Ghost").leaf.RefersTo "Ghost" := by
      rw [hsig]
      have hlower : ("model" : Text).all Char.isLower = true := by decide
      exact ⟨"map[string]", "model", [], by decide, by decide, by decide,
        List.all_eq_true.1 hlower, by decide, nofun, by decide⟩
    rcases hcovers "Ghost" hghost with h | h
    · exact absurd h (by decide)
    · cases h

end Generation

end Typescribe
