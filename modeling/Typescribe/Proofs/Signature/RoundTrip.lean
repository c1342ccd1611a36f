/-
Reading undoes writing, exactly on the signatures that reading can give.

The markers of a signature are never in the way: each is read back as it was
written whatever follows it, so that a signature reads back if and only if
its leaf does.  In the other direction, every text is read as a signature
with a readable leaf, because a reader that has trimmed a text and taken its
markers off looks at nothing but a text with clean ends and without a marker
at its front.
-/
import Typescribe.Proofs.Signature.Readable

namespace Typescribe

/-! ## Markers -/

namespace Marker

/-- A marker is read back as it was written, whatever follows it. -/
theorem read?_text_append (m : Marker) (rest : Text) : read? (m.text ++ rest) = some (m, rest) :=
  read?_eq_some_iff.2 ⟨m.text, m.spells_text, rfl⟩

end Marker

namespace Signature

/-! ## One step of the reader -/

/-- A marker is taken off, and reading goes on behind it. -/
theorem ofTrimmed_of_read? {s rest : Text} {m : Marker}
    (h : Marker.read? s.trimStart = some (m, rest)) : ofTrimmed s = (ofTrimmed rest).under m := by
  rw [ofTrimmed]
  split
  · next h' =>
    rw [h] at h'
    cases h'
    rfl
  · next h' =>
    rw [h] at h'
    cases h'

/-- Where there is no marker, reading ends. -/
theorem ofTrimmed_of_none {s : Text} (h : Marker.read? s.trimStart = none) :
    ofTrimmed s = ⟨[], Leaf.ofText s.trimStart⟩ := by
  rw [ofTrimmed]
  split
  · next h' =>
    rw [h] at h'
    cases h'
  · rfl

/-- A written marker is taken off. -/
theorem ofTrimmed_marker (m : Marker) (rest : Text) :
    ofTrimmed (m.text ++ rest) = (ofTrimmed rest).under m := by
  apply ofTrimmed_of_read?
  rw [Text.trimStart_of_startsClean (m.spells_text.startsClean_append rest), m.read?_text_append]

/-- A readable leaf ends the reading. -/
theorem ofTrimmed_leaf {leaf : Leaf} (h : leaf.IsReadable) : ofTrimmed leaf.text = ⟨[], leaf⟩ := by
  have hstart : leaf.text.trimStart = leaf.text :=
    Text.trimStart_of_startsClean (Leaf.clean_of_readable h).1
  have hnone : Marker.read? leaf.text.trimStart = none := by
    rw [hstart, Leaf.read?_of_readable h]
  rw [ofTrimmed_of_none hnone, hstart, Leaf.ofText_of_readable h]

/-! ## Whole signatures -/

theorem text_cons (m : Marker) (more : List Marker) (leaf : Leaf) :
    text ⟨m :: more, leaf⟩ = m.text ++ text ⟨more, leaf⟩ := text_under m ⟨more, leaf⟩

/-- A signature with a readable leaf has no blank at the end of its text. -/
theorem endsClean_text {s : Signature} (h : s.leaf.IsReadable) : Text.endsClean s.text := by
  obtain ⟨markers, leaf⟩ := s
  induction markers with
  | nil => exact (Leaf.clean_of_readable h).2
  | cons m more ih =>
      rw [text_cons]
      exact Text.endsClean_append m.spells_text.endsClean (ih h)

/-- A signature with a readable leaf is read back from its text. -/
theorem ofText_text {s : Signature} (h : s.leaf.IsReadable) : ofText s.text = s := by
  rw [ofText, Text.trimEnd_of_endsClean (endsClean_text h)]
  obtain ⟨markers, leaf⟩ := s
  induction markers with
  | nil => exact ofTrimmed_leaf h
  | cons m more ih =>
      rw [text_cons, ofTrimmed_marker, ih h]
      rfl

/-- Reading ends in a readable leaf.  What carries the induction is that no
blank stands at the end of the text that is left. -/
theorem isReadable_ofTrimmed (s : Text) (h : Text.endsClean s) :
    (ofTrimmed s).leaf.IsReadable := by
  induction s using ofTrimmed.induct with
  | case1 s m rest hread ih =>
      have hrest : Text.endsClean rest := by
        obtain ⟨spelling, -, hs⟩ := Marker.read?_eq_some_iff.1 hread
        have := Text.endsClean_trimStart h
        rw [hs] at this
        exact Text.endsClean_of_append this
      rw [ofTrimmed_of_read? hread]
      exact ih hrest
  | case2 s hread =>
      rw [ofTrimmed_of_none hread]
      exact Leaf.isReadable_ofText (Text.startsClean_trimStart s) (Text.endsClean_trimStart h) hread

theorem isReadable_ofText (s : Text) : (ofText s).leaf.IsReadable :=
  isReadable_ofTrimmed s.trimEnd (Text.endsClean_trimEnd s)

/-- **Reading undoes writing, exactly on readable leaves.**  A signature,
whatever its markers, reads back from its text if and only if its leaf is
readable.  So what was read once is read the same from its own text, and two
texts are read as the same signature exactly when these are written alike. -/
theorem ofText_text_iff :
    (∀ s : Signature, ofText s.text = s ↔ s.leaf.IsReadable) ∧
    (∀ s : Text, ofText (ofText s).text = ofText s) ∧
    ∀ s t : Text, ofText s = ofText t ↔ (ofText s).text = (ofText t).text := by
  have again : ∀ s : Text, ofText (ofText s).text = ofText s := fun s =>
    ofText_text (isReadable_ofText s)
  refine ⟨fun s => ⟨fun h => ?_, ofText_text⟩, again, fun s t => ⟨fun h => ?_, fun h => ?_⟩⟩
  · have := isReadable_ofText s.text
    rwa [h] at this
  · rw [h]
  · rw [← again s, h, again t]

end Signature

end Typescribe
