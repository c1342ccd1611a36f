/-
Substitution is one scan from the left.

A scan stands somewhere in the text.  If a placeholder starts there, the value
of its name is put out, or the placeholder itself when the name has none, and
the scan goes on behind the closing brace; otherwise one character is put out.
`Scans` says this of the text alone, and `scans_iff` that substitution gives
what the scan gives and nothing else.

What carries the consequences is that the text is cut into pieces before any
value is known: a cut that no placeholder lies across splits the scan in two,
see `substitute_append`, and of an environment only the names in the pieces
count.
-/
import Mathlib.Data.List.Basic
import Typescribe.Text.Placeholder

namespace Typescribe.Placeholder

/-! ## Placeholders -/

/-- What may stand between the braces of a placeholder. -/
def IsName (name : Text) : Prop := name ≠ [] ∧ '\x7d' ∉ name

/-- A text starts with a placeholder when it starts with a name in braces
behind a dollar sign. -/
theorem leading?_eq_some_iff {s name rest : Text} :
    leading? s = some (name, rest) ↔
      IsName name ∧ s = '$' :: '\x7b' :: (name ++ '\x7d' :: rest) := by
  constructor
  · intro h
    unfold leading? at h
    split at h
    · next more =>
      split at h
      · cases h
      · next hempty =>
        obtain ⟨hmore, hname⟩ := Text.eq_of_cutAt h
        refine ⟨⟨?_, hname⟩, by rw [hmore]⟩
        rintro rfl
        exact hempty rest h
    · cases h
  · rintro ⟨⟨hne, hname⟩, rfl⟩
    rw [leading?, Text.cutAt_append hname]
    split
    · next hempty =>
      cases hempty
      exact absurd rfl hne
    · rfl

/-- Where nothing is closed, no placeholder starts. -/
theorem leading?_of_no_close {s : Text} (h : '\x7d' ∉ s) : leading? s = none := by
  rw [Option.eq_none_iff_forall_ne_some]
  rintro ⟨name, rest⟩ hs
  obtain ⟨-, rfl⟩ := leading?_eq_some_iff.1 hs
  exact h (by simp)

/-- A placeholder at the start stays the same whatever follows it. -/
theorem leading?_append {s name more : Text} (h : leading? s = some (name, more)) (rest : Text) :
    leading? (s ++ rest) = some (name, more ++ rest) := by
  obtain ⟨hname, rfl⟩ := leading?_eq_some_iff.1 h
  exact leading?_eq_some_iff.2 ⟨hname, by simp⟩

/-! ## Steps of the substitution -/

variable (env : Environment)

theorem substitute_nil : substitute env [] = [] := by
  rw [substitute, pieces]
  rfl

/-- A placeholder at the start is filled, and the rest substituted. -/
theorem substitute_of_leading? {s name rest : Text} (h : leading? s = some (name, rest)) :
    substitute env s = (Piece.hole name).fill env ++ substitute env rest := by
  rw [substitute, pieces]
  split
  · next h' =>
    rw [h] at h'
    cases h'
    rfl
  · next h' =>
    rw [h] at h'
    cases h'

/-- Any other character stays. -/
theorem substitute_of_none {c : Char} {rest : Text} (h : leading? (c :: rest) = none) :
    substitute env (c :: rest) = c :: substitute env rest := by
  rw [substitute, pieces]
  split
  · next h' =>
    rw [h] at h'
    cases h'
  · rfl

/-- A text that closes nothing stays as it is. -/
theorem substitute_of_no_close : ∀ {s : Text}, '\x7d' ∉ s → substitute env s = s
  | [], _ => substitute_nil env
  | c :: rest, h => by
      rw [substitute_of_none env (leading?_of_no_close h),
        substitute_of_no_close fun hmem => h (List.mem_cons_of_mem c hmem)]

/-! ## The scan -/

/-- What a scan of a text from the left puts out. -/
inductive Scans (env : Environment) : Text → Text → Prop
  /-- At the end of the text the scan is over. -/
  | done : Scans env [] []
  /-- A placeholder whose name has a value is passed over for the value. -/
  | value {name value rest out : Text} : IsName name → env name = some value →
      Scans env rest out → Scans env ('$' :: '\x7b' :: (name ++ '\x7d' :: rest)) (value ++ out)
  /-- A placeholder whose name has none is passed over as it is. -/
  | unset {name rest out : Text} : IsName name → env name = none → Scans env rest out →
      Scans env ('$' :: '\x7b' :: (name ++ '\x7d' :: rest))
        ('$' :: '\x7b' :: (name ++ '\x7d' :: out))
  /-- Where no placeholder starts, one character is passed over. -/
  | plain {c : Char} {rest out : Text} :
      (∀ name more, IsName name → c :: rest ≠ '$' :: '\x7b' :: (name ++ '\x7d' :: more)) →
      Scans env rest out → Scans env (c :: rest) (c :: out)

theorem Scans.eq_substitute {env : Environment} {s out : Text} (h : Scans env s out) :
    out = substitute env s := by
  induction h with
  | done => exact (substitute_nil env).symm
  | @value name value rest out hname henv _ ih =>
      rw [substitute_of_leading? env (leading?_eq_some_iff.2 ⟨hname, rfl⟩), Piece.fill, henv, ih]
      rfl
  | @unset name rest out hname henv _ ih =>
      rw [substitute_of_leading? env (leading?_eq_some_iff.2 ⟨hname, rfl⟩), Piece.fill, henv, ih]
      simp [Piece.source]
  | @plain c rest out hplain _ ih =>
      have hnone : leading? (c :: rest) = none := by
        rw [Option.eq_none_iff_forall_ne_some]
        rintro ⟨name, more⟩ hs
        obtain ⟨hname, he⟩ := leading?_eq_some_iff.1 hs
        exact hplain name more hname he
      rw [substitute_of_none env hnone, ih]

theorem scans_substitute (s : Text) : Scans env s (substitute env s) := by
  induction s using pieces.induct with
  | case1 s name rest hlead ih =>
      obtain ⟨hname, rfl⟩ := leading?_eq_some_iff.1 hlead
      rw [substitute_of_leading? env hlead, Piece.fill]
      cases henv : env name with
      | some value => exact .value hname henv ih
      | none =>
          have hout := Scans.unset hname henv ih
          simpa [Piece.source] using hout
  | case2 =>
      rw [substitute_nil]
      exact .done
  | case3 c rest hnone ih =>
      rw [substitute_of_none env hnone]
      refine .plain (fun name more hname he => ?_) ih
      rw [leading?_eq_some_iff.2 ⟨hname, he⟩] at hnone
      cases hnone

/-- The scan comes to an end on every text, with what substitution gives. -/
theorem scans_iff {s out : Text} : Scans env s out ↔ out = substitute env s :=
  ⟨Scans.eq_substitute, fun h => h ▸ scans_substitute env s⟩

/-! ## Cutting the text -/

/-- No placeholder starts before the cut and ends behind it. -/
def NoneAcross (s rest : Text) : Prop :=
  ∀ t, t <:+ s → t ≠ [] → leading? t = none → leading? (t ++ rest) = none

/-- A cut that no placeholder lies across splits the substitution in two. -/
theorem substitute_append {s rest : Text} (h : NoneAcross s rest) :
    substitute env (s ++ rest) = substitute env s ++ substitute env rest := by
  induction s using pieces.induct with
  | case1 s name more hlead ih =>
      have hsuffix : more <:+ s := by
        obtain ⟨-, rfl⟩ := leading?_eq_some_iff.1 hlead
        exact ⟨'$' :: '\x7b' :: (name ++ ['\x7d']), by simp⟩
      rw [substitute_of_leading? env hlead, substitute_of_leading? env (leading?_append hlead rest),
        ih fun t ht => h t (ht.trans hsuffix), List.append_assoc]
  | case2 =>
      rw [substitute_nil]
      rfl
  | case3 c more hnone ih =>
      have hwhole : leading? (c :: (more ++ rest)) = none :=
        h _ List.suffix_rfl (List.cons_ne_nil c more) hnone
      rw [List.cons_append, substitute_of_none env hwhole, substitute_of_none env hnone,
        ih fun t ht => h t (ht.trans (List.suffix_cons c more)), List.cons_append]

/-- A placeholder that lies across a cut is closed behind it. -/
theorem exists_of_across {s rest name more : Text} (hnone : leading? s = none)
    (hlead : leading? (s ++ rest) = some (name, more)) :
    ∃ inside, '$' :: '\x7b' :: name = s ++ inside ∧ rest = inside ++ '\x7d' :: more := by
  obtain ⟨hname, he⟩ := leading?_eq_some_iff.1 hlead
  have he : s ++ rest = ('$' :: '\x7b' :: name) ++ '\x7d' :: more := he
  rcases List.append_eq_append_iff.1 he with ⟨inside, hs, hrest⟩ | ⟨inside, hs, hrest⟩
  · exact ⟨inside, hs, hrest⟩
  · cases inside with
    | nil => exact ⟨[], by rw [hs, List.append_nil, List.append_nil], hrest.symm⟩
    | cons c behind =>
        -- then it is closed before the cut
        obtain ⟨rfl, -⟩ := List.cons.inj hrest
        rw [leading?_eq_some_iff.2 ⟨hname, hs⟩] at hnone
        cases hnone

/-- Nothing lies across a cut behind which nothing is closed. -/
theorem noneAcross_of_no_close (s : Text) {rest : Text} (h : '\x7d' ∉ rest) :
    NoneAcross s rest := by
  intro t _ _ hnone
  rw [Option.eq_none_iff_forall_ne_some]
  rintro ⟨name, more⟩ hlead
  obtain ⟨inside, -, rfl⟩ := exists_of_across hnone hlead
  exact h (List.mem_append_right inside List.mem_cons_self)

/-- Every dollar sign with an opening brace has a closing brace behind it, so
that a scan comes to the end of the text with no placeholder begun. -/
def IsClosed (s : Text) : Prop :=
  ∀ before behind, s = before ++ '$' :: '\x7b' :: behind → '\x7d' ∈ behind

/-- A text that ends in a closing brace is closed. -/
theorem isClosed_of_getLast {s : Text} (h : s.getLast? = some '\x7d') : IsClosed s := by
  rintro before behind rfl
  rw [List.getLast?_append, List.getLast?_cons_cons] at h
  cases behind with
  | nil => cases h
  | cons c more =>
      rw [List.getLast?_cons_cons, List.getLast?_cons, Option.some_or] at h
      exact List.mem_of_getLast? ((List.getLast?_cons).trans h)

/-- A dollar sign and an opening brace stand together somewhere in the text. -/
def Opens (s : Text) : Prop := "$\x7b".toList <:+: s

instance (s : Text) : Decidable (Opens s) := inferInstanceAs (Decidable (_ <:+: s))

/-- A text in which nothing is opened stays as it is. -/
theorem substitute_of_no_open {s : Text} (h : ¬Opens s) : substitute env s = s := by
  induction s with
  | nil => exact substitute_nil env
  | cons c rest ih =>
      have hnone : leading? (c :: rest) = none := by
        rw [Option.eq_none_iff_forall_ne_some]
        rintro ⟨name, more⟩ hs
        obtain ⟨-, he⟩ := leading?_eq_some_iff.1 hs
        exact h ⟨[], name ++ '\x7d' :: more, he.symm⟩
      rw [substitute_of_none env hnone,
        ih fun hrest => h (hrest.trans (List.suffix_cons c rest).isInfix)]

/-- A text in which nothing is opened is closed. -/
theorem isClosed_of_no_open {s : Text} (h : ¬Opens s) : IsClosed s := by
  rintro before behind rfl
  exact absurd ⟨before, behind, by simp⟩ h

/-- Without a dollar sign nothing is opened. -/
theorem no_open_of_no_dollar {s : Text} (h : '$' ∉ s) : ¬Opens s :=
  fun hopen => h (hopen.subset List.mem_cons_self)

/-- Nothing is opened where two texts meet, if the first does not end in the
dollar sign or the second does not start with the brace. -/
theorem no_open_append {s t : Text} (hs : ¬Opens s) (ht : ¬Opens t)
    (hseam : s.getLast? = some '$' → t.head? ≠ some '\x7b') : ¬Opens (s ++ t) := by
  rintro ⟨before, behind, he⟩
  have he : before ++ '$' :: '\x7b' :: behind = s ++ t := by simpa using he
  rcases List.append_eq_append_iff.1 he with ⟨inside, rfl, hinside⟩ | ⟨inside, rfl, rfl⟩
  · match inside, hinside with
    | [], hinside => exact ht ⟨[], behind, hinside⟩
    | [c], hinside =>
        obtain ⟨rfl, rfl⟩ := List.cons.inj hinside
        exact hseam (List.getLast?_concat) rfl
    | c :: d :: more, hinside =>
        obtain ⟨rfl, hrest⟩ := List.cons.inj hinside
        obtain ⟨rfl, -⟩ := List.cons.inj hrest
        exact hs ⟨before, more, by simp⟩
  · exact ht ⟨inside, behind, by simp⟩

/-- Nothing lies across the end of a closed text, if no opening brace follows
it. -/
theorem noneAcross_of_isClosed {s rest : Text} (h : IsClosed s)
    (hrest : rest.head? ≠ some '\x7b') : NoneAcross s rest := by
  rintro t ⟨before, rfl⟩ hne hnone
  rw [Option.eq_none_iff_forall_ne_some]
  rintro ⟨name, more⟩ hlead
  obtain ⟨hname, -⟩ := leading?_eq_some_iff.1 hlead
  obtain ⟨inside, ht, rfl⟩ := exists_of_across hnone hlead
  match t, hne with
  | [c], _ =>
      obtain ⟨-, rfl⟩ : '$' = c ∧ '\x7b' :: name = inside := List.cons.inj ht
      exact hrest rfl
  | c :: d :: t, _ =>
      rw [List.cons_append, List.cons_append, List.cons.injEq, List.cons.injEq] at ht
      obtain ⟨rfl, rfl, rfl⟩ := ht
      exact hname.2 (List.mem_append_left inside (h before t rfl))

/-! ## The environment -/

theorem mem_names {s name : Text} : name ∈ names s ↔ .hole name ∈ pieces s := by
  rw [names, List.mem_filterMap]
  constructor
  · rintro ⟨piece, hpiece, he⟩
    cases piece with
    | plain c => cases he
    | hole other =>
        cases he
        exact hpiece
  · intro h
    exact ⟨.hole name, h, rfl⟩

/-- Of an environment only the names in placeholders count. -/
theorem substitute_congr {other : Environment} {s : Text}
    (h : ∀ name ∈ names s, env name = other name) : substitute env s = substitute other s := by
  refine List.flatMap_congr fun piece hpiece => ?_
  cases piece with
  | plain c => rfl
  | hole name => rw [Piece.fill, Piece.fill, h name (mem_names.2 hpiece)]

/-- Without any values a text stays as it is. -/
theorem substitute_none (s : Text) : substitute (fun _ => none) s = s := by
  induction s using pieces.induct with
  | case1 s name rest hlead ih =>
      obtain ⟨-, rfl⟩ := leading?_eq_some_iff.1 hlead
      rw [substitute_of_leading? _ hlead, ih]
      simp [Piece.fill, Piece.source]
  | case2 => exact substitute_nil _
  | case3 c rest hnone ih => rw [substitute_of_none _ hnone, ih]

/-! ## One pass -/

/-- **Substitution is one scan from the left.**  It gives on every text what
the scan puts out.  Therefore a value stands in the result as it is, whatever
it looks like; empty braces, and braces that nothing closes, stay where the
scan comes to them; a text none of whose names has a value stays as it is; and
of an environment only the names in placeholders count, so that it is enough to
know these. -/
theorem substitute_scans_once (s : Text) :
    (∀ out, Scans env s out ↔ out = substitute env s) ∧
    (∀ before name value rest, s = before ++ '$' :: '\x7b' :: (name ++ '\x7d' :: rest) →
      IsClosed before → IsName name → env name = some value →
        substitute env s = substitute env before ++ (value ++ substitute env rest)) ∧
    (∀ before rest, s = before ++ '$' :: '\x7b' :: '\x7d' :: rest → IsClosed before →
      substitute env s = substitute env before ++ '$' :: '\x7b' :: '\x7d' :: substitute env rest) ∧
    (∀ before rest, s = before ++ '$' :: '\x7b' :: rest → '\x7d' ∉ rest →
      substitute env s = substitute env before ++ '$' :: '\x7b' :: rest) ∧
    ((∀ name ∈ names s, env name = none) → substitute env s = s) ∧
    ∀ other : Environment, (∀ name ∈ names s, env name = other name) →
      substitute env s = substitute other s := by
  refine ⟨fun out => scans_iff env, ?_, ?_, ?_, ?_, fun other => substitute_congr env⟩
  · rintro before name value rest rfl hbefore hname henv
    have hlead : leading? ('$' :: '\x7b' :: (name ++ '\x7d' :: rest)) = some (name, rest) :=
      leading?_eq_some_iff.2 ⟨hname, rfl⟩
    rw [substitute_append env (noneAcross_of_isClosed hbefore (by simp)),
      substitute_of_leading? env hlead, Piece.fill, henv]
    rfl
  · rintro before rest rfl hbefore
    rw [substitute_append env (noneAcross_of_isClosed hbefore (by simp))]
    have hempty : leading? ('$' :: '\x7b' :: '\x7d' :: rest) = none := rfl
    rw [substitute_of_none env hempty, substitute_of_none env rfl, substitute_of_none env rfl]
  · rintro before rest rfl hrest
    have hopen : '\x7d' ∉ '$' :: '\x7b' :: rest := by simp [hrest]
    rw [substitute_append env (noneAcross_of_no_close before hopen),
      substitute_of_no_close env hopen]
  · intro h
    rw [substitute_congr env h, substitute_none]

/-- The value of one name looks like a placeholder for another, and is not
filled; the last placeholder has a dollar sign and a brace in its name, and
what stands behind it is not closed. -/
theorem substitute_scans_once_nested :
    let env : Environment := fun name =>
      if name = "A" then some "$\x7bC\x7d" else if name = "C" then some "c" else none
    let one : Environment := fun name => if name = "A" then some "$\x7bC\x7d" else none
    let few : Environment := fun name => if name = "C" then some "c" else none
    let s : Text := "$$\x7b\x7d$\x7bA\x7d$\x7b\x7d$\x7b$\x7bC\x7d$\x7bC"
    Scans env s "$$\x7b\x7d$\x7bC\x7d$\x7b\x7d$\x7b$\x7bC\x7d$\x7bC" ∧
      IsClosed "$$\x7b\x7d" ∧ IsName "A" ∧ env "A" = some "$\x7bC\x7d" ∧
      substitute env s = substitute env "$$\x7b\x7d"
        ++ ("$\x7bC\x7d" ++ substitute env "$\x7b\x7d$\x7b$\x7bC\x7d$\x7bC") ∧
      IsClosed "$$\x7b\x7d$\x7bA\x7d" ∧
      substitute env s = substitute env "$$\x7b\x7d$\x7bA\x7d"
        ++ '$' :: '\x7b' :: '\x7d' :: substitute env "$\x7b$\x7bC\x7d$\x7bC" ∧
      '\x7d' ∉ ("C" : Text) ∧
      substitute env s = substitute env "$$\x7b\x7d$\x7bA\x7d$\x7b\x7d$\x7b$\x7bC\x7d"
        ++ '$' :: '\x7b' :: "C" ∧
      (∀ name ∈ names s, few name = none) ∧ substitute few s = s ∧
      (∀ name ∈ names s, env name = one name) ∧ substitute env s = substitute one s := by
  intro env one few s
  have hout : "$$\x7b\x7d$\x7bC\x7d$\x7b\x7d$\x7b$\x7bC\x7d$\x7bC" = substitute env s := by
    decide +kernel
  have hempty : IsClosed "$$\x7b\x7d" := isClosed_of_getLast rfl
  have hfilled : IsClosed "$$\x7b\x7d$\x7bA\x7d" := isClosed_of_getLast rfl
  have hname : IsName "A" := ⟨by decide, by decide⟩
  have hopen : '\x7d' ∉ ("C" : Text) := by decide
  have hnames : names s = ["A", "$\x7bC"] := by decide +kernel
  have hfew : ∀ name ∈ names s, few name = none := by
    rw [hnames]
    decide
  have hone : ∀ name ∈ names s, env name = one name := by
    rw [hnames]
    decide
  obtain ⟨hscans, hvalue, hbraces, hunclosed, -, hcongr⟩ := substitute_scans_once env s
  exact ⟨(hscans _).2 hout, hempty, hname, rfl, hvalue _ "A" _ _ rfl hempty hname rfl, hfilled,
    hbraces _ _ rfl hfilled, hopen, hunclosed _ "C" rfl hopen, hfew,
    (substitute_scans_once few s).2.2.2.2.1 hfew, hone, hcongr one hone⟩

end Typescribe.Placeholder
