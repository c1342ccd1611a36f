/-
The JSON text of a plan says everything about the plan.

Every way of writing used for a plan can be told from what follows it: at the
front of a text it is clear what is written there, so that two texts which
start with different plans are different from that place on.  For strings this
is because a quote inside one is always behind a backslash; for lists and
objects, because behind each item a comma announces another one and a new line
the end, and the empty list closes without a new line.

The layers are put together from two notions.  Two texts are apart when
neither is the start of the other; a way of writing is telling when equal
starts come from equal values.  Signatures are the one place where this holds
of a part of the values only: their text tells them as far as they can be read
back from it.
-/
import Mathlib.Data.List.Forall2
import Typescribe.Plan.Json
import Typescribe.Proofs.Signature.RoundTrip
import Typescribe.Text.Hex

namespace Typescribe

/-! ## Texts told from what follows -/

/-- Neither text is the start of the other, unless they are the same. -/
def Text.Apart (v w : Text) : Prop := ∀ s t, v ++ s = w ++ t → v = w

/-- Values of a class are told by their text, whatever follows it. -/
def Telling {α : Type} (write : α → Text) (P : α → Prop) : Prop :=
  ∀ x y, P x → P y → ∀ s t, write x ++ s = write y ++ t → x = y

namespace Telling

variable {α : Type} {write : α → Text} {P : α → Prop} (h : Telling write P)
include h

theorem apart {x y : α} (hx : P x) (hy : P y) : (write x).Apart (write y) :=
  fun s t he => congrArg write (h x y hx hy s t he)

theorem injective {x y : α} (hx : P x) (hy : P y) (he : write x = write y) : x = y :=
  h x y hx hy [] [] (congrArg (· ++ []) he)

theorem map_injective {xs ys : List α} (hxs : ∀ x ∈ xs, P x) (hys : ∀ y ∈ ys, P y)
    (he : xs.map write = ys.map write) : xs = ys := by
  induction xs generalizing ys with
  | nil => exact (List.map_eq_nil_iff.1 he.symm).symm
  | cons x xs ih =>
      cases ys with
      | nil => cases he
      | cons y ys =>
          rw [List.forall_mem_cons] at hxs hys
          rw [List.map_cons, List.map_cons, List.cons.injEq] at he
          rw [h.injective hxs.1 hys.1 he.1, ih hxs.2 hys.2 he.2]

end Telling

/-- The signature of a property reads back from its text. -/
def Property.IsReadable (p : Property) : Prop := p.signature.leaf.IsReadable

def ModelPlan.IsReadable (p : ModelPlan) : Prop := ∀ q ∈ p.properties, q.IsReadable

namespace Json

/-! ## Strings -/

/-- The character that stands for itself or for an escape behind a backslash,
and what follows it. -/
def escaped? : Text → Option (Char × Text)
  | 'u' :: '0' :: '0' :: high :: low :: rest =>
    some (Char.ofNat (16 * Text.digitValue high + Text.digitValue low), rest)
  | 'b' :: rest => some ('\x08', rest)
  | 'f' :: rest => some ('\x0c', rest)
  | 'n' :: rest => some ('\n', rest)
  | 'r' :: rest => some ('\r', rest)
  | 't' :: rest => some ('\t', rest)
  | c :: rest => some (c, rest)
  | [] => none

/-- The character that a text inside a string starts with, and what follows
it; the closing quote is none. -/
def character? : Text → Option (Char × Text)
  | [] => none
  | c :: rest =>
    if c = '"' then none else if c = '\\' then escaped? rest else some (c, rest)

theorem digitValue_hexDigit : ∀ n, n < 16 → Text.digitValue (hexDigit n) = n := by decide

/-- A character is read back from its escape. -/
theorem character?_escape (c : Char) (rest : Text) :
    character? (escape c ++ rest) = some (c, rest) := by
  unfold escape
  -- the escapes that are a letter or a sign of their own
  iterate 7
    split
    · next h => exact h ▸ rfl
  split
  · next hlow =>
    have hcode : 16 * (c.toNat / 16) + c.toNat % 16 = c.toNat := Nat.div_add_mod c.toNat 16
    show some (Char.ofNat (16 * Text.digitValue (hexDigit (c.toNat / 16)) +
      Text.digitValue (hexDigit (c.toNat % 16))), rest) = _
    rw [digitValue_hexDigit _ (by omega), digitValue_hexDigit _ (by omega), hcode,
      Char.ofNat_toNat]
  · next hquote hslash _ _ _ _ _ _ =>
    show character? (c :: rest) = _
    rw [character?, if_neg hquote, if_neg hslash]

theorem escape_append_injective {c d : Char} {s t : Text} (h : escape c ++ s = escape d ++ t) :
    c = d ∧ s = t := by
  have hread := congrArg character? h
  rw [character?_escape, character?_escape, Option.some.injEq, Prod.mk.injEq] at hread
  exact hread

/-- No escape starts with the quote that closes a string. -/
theorem escape_append_ne_quote (c : Char) (s t : Text) : escape c ++ s ≠ '"' :: t := by
  intro h
  have hread := congrArg character? h
  rw [character?_escape] at hread
  cases hread

/-- What stands in a string is told from the quote that closes it. -/
theorem body_injective {s t : Text} : ∀ {x y : Text},
    x.flatMap escape ++ '"' :: s = y.flatMap escape ++ '"' :: t → x = y := by
  intro x
  induction x with
  | nil =>
      intro y h
      cases y with
      | nil => rfl
      | cons d y =>
          rw [List.flatMap_cons, List.append_assoc] at h
          exact absurd h.symm (escape_append_ne_quote d _ _)
  | cons c x ih =>
      intro y h
      cases y with
      | nil =>
          rw [List.flatMap_cons, List.append_assoc] at h
          exact absurd h (escape_append_ne_quote c _ _)
      | cons d y =>
          rw [List.flatMap_cons, List.flatMap_cons, List.append_assoc, List.append_assoc] at h
          obtain ⟨rfl, hmore⟩ := escape_append_injective h
          rw [ih hmore]

theorem telling_quoted : Telling quoted fun _ => True := by
  intro x y _ _ s t h
  refine body_injective (s := s) (t := t) ?_
  simpa [quoted] using h

theorem quoted_apart (x y : Text) : (quoted x).Apart (quoted y) :=
  telling_quoted.apart trivial trivial

theorem quoted_injective : Function.Injective quoted :=
  fun _ _ h => telling_quoted.injective trivial trivial h

/-! ## Blocks -/

/-- Items behind the first one are told from the new line that ends them. -/
theorem more_injective (level : Nat) {s t : Text} : ∀ {more others : List Text},
    (∀ p ∈ more.zip others, p.1.Apart p.2) →
    more.flatMap (fun other => ',' :: newLine (level + 1) ++ other) ++ '\n' :: s
      = others.flatMap (fun other => ',' :: newLine (level + 1) ++ other) ++ '\n' :: t →
    more = others
  | [], [], _, _ => rfl
  | [], _ :: _, _, h => absurd (List.cons.inj h).1 (by decide)
  | _ :: _, [], _, h => absurd (List.cons.inj h).1 (by decide)
  | item :: more, other :: others, hapart, h => by
      rw [List.zip_cons_cons, List.forall_mem_cons] at hapart
      simp only [List.flatMap_cons, List.append_assoc, List.cons_append, List.cons.injEq,
        List.append_cancel_left_eq, true_and] at h
      obtain rfl : item = other := hapart.1 _ _ h
      rw [more_injective level hapart.2 (List.append_cancel_left h)]

/-- Items that are apart one by one are told from their block. -/
theorem block_injective {opening closing : Char} (hclosing : closing ≠ '\n') {level : Nat}
    {items others : List Text} (hapart : ∀ p ∈ items.zip others, p.1.Apart p.2) {s t : Text}
    (h : block opening closing level items ++ s = block opening closing level others ++ t) :
    items = others := by
  cases items with
  | nil =>
      cases others with
      | nil => rfl
      | cons other others =>
          have := (List.cons.inj (List.cons.inj h).2).1
          exact absurd this hclosing
  | cons item items =>
      cases others with
      | nil =>
          have := (List.cons.inj (List.cons.inj h).2).1
          exact absurd this.symm hclosing
      | cons other others =>
          -- all items are items behind the first one, but for a comma
          refine more_injective level (s := List.replicate (2 * level) ' ' ++ closing :: s)
            (t := List.replicate (2 * level) ' ' ++ closing :: t) hapart ?_
          simpa [block, newLine] using h

/-- A list is told when its items are. -/
theorem telling_list {α : Type} {write : α → Text} {P : α → Prop} (h : Telling write P)
    (level : Nat) :
    Telling (fun xs : List α => list level (xs.map write)) fun xs => ∀ x ∈ xs, P x := by
  intro xs ys hxs hys s t he
  have hclosing : ']' ≠ '\n' := by decide
  refine h.map_injective hxs hys (block_injective hclosing (fun p hp => ?_) he)
  obtain ⟨hx, hy⟩ := List.of_mem_zip hp
  obtain ⟨x, hx, hxp⟩ := List.mem_map.1 hx
  obtain ⟨y, hy, hyp⟩ := List.mem_map.1 hy
  rw [← hxp, ← hyp]
  exact h.apart (hxs x hx) (hys y hy)

/-- An entry of an object, as it is written. -/
def entry (e : Text × Text) : Text := quoted e.1 ++ ": " ++ e.2

theorem entry_append_injective {e f : Text × Text} {s t : Text}
    (h : entry e ++ s = entry f ++ t) : e.1 = f.1 ∧ e.2 ++ s = f.2 ++ t := by
  simp only [entry, List.append_assoc] at h
  have hkey : e.1 = f.1 := telling_quoted _ _ trivial trivial _ _ h
  rw [hkey] at h
  exact ⟨hkey, List.append_cancel_left (List.append_cancel_left h)⟩

/-- Objects with the same keys are told by their values, when these are apart
one by one. -/
theorem object_injective {level : Nat} {entries others : List (Text × Text)} {s t : Text}
    (h : object level entries ++ s = object level others ++ t)
    (hsame : List.Forall₂ (fun e f => e.1 = f.1 ∧ e.2.Apart f.2) entries others) :
    entries = others := by
  have hentry : Function.Injective entry := by
    intro e f hef
    obtain ⟨hkey, hvalue⟩ := entry_append_injective (congrArg (· ++ []) hef)
    exact Prod.ext hkey (List.append_cancel_right hvalue)
  have hclosing : '\x7d' ≠ '\n' := by decide
  refine hentry.list_map (block_injective hclosing (fun p hp => ?_) h)
  rw [List.zip_map] at hp
  obtain ⟨⟨e, f⟩, hmem, rfl⟩ := List.mem_map.1 hp
  obtain ⟨hkey, hvalue⟩ := (List.forall₂_iff_zip.1 hsame).2 hmem
  intro s t hef
  exact congrArg entry (Prod.ext hkey (hvalue s t (entry_append_injective hef).2))

/-! ## Plans -/

theorem telling_bool : Telling bool fun _ => True := by
  intro x y _ _ s t h
  cases x with
  | true => cases y with
    | true => rfl
    | false => cases h
  | false => cases y with
    | true => cases h
    | false => rfl

theorem telling_property (level : Nat) : Telling (property level) Property.IsReadable := by
  intro p q hp hq s t h
  rw [property, property] at h
  have hvalues := object_injective h (.cons ⟨rfl, quoted_apart _ _⟩ (.cons ⟨rfl, quoted_apart _ _⟩
    (.cons ⟨rfl, quoted_apart _ _⟩ (.cons ⟨rfl, telling_bool.apart trivial trivial⟩ .nil))))
  simp only [List.cons.injEq, Prod.mk.injEq, true_and, and_true] at hvalues
  obtain ⟨hdeclared, hemitted, hsignature, hskipped⟩ := hvalues
  have hsignature : p.signature = q.signature := by
    rw [← Signature.ofText_text hp, quoted_injective hsignature, Signature.ofText_text hq]
  cases p
  cases q
  rw [Property.mk.injEq]
  exact ⟨quoted_injective hdeclared, quoted_injective hemitted, hsignature,
    telling_bool.injective trivial trivial hskipped⟩

theorem telling_modelPlan (level : Nat) :
    Telling (modelPlan level) ModelPlan.IsReadable := by
  intro p q hp hq s t h
  rw [modelPlan, modelPlan] at h
  have hproperties := telling_list (telling_property (level + 2)) (level + 1)
  have hskipped := telling_list telling_quoted (level + 1)
  have hall : ∀ names : List Text, ∀ n ∈ names, True := fun _ _ _ => trivial
  have hvalues := object_injective h (.cons ⟨rfl, quoted_apart _ _⟩
    (.cons ⟨rfl, hproperties.apart hp hq⟩
      (.cons ⟨rfl, hskipped.apart (hall _) (hall _)⟩ .nil)))
  simp only [List.cons.injEq, Prod.mk.injEq, true_and, and_true] at hvalues
  cases p
  cases q
  rw [ModelPlan.mk.injEq]
  exact ⟨quoted_injective hvalues.1, hproperties.injective hp hq hvalues.2.1,
    hskipped.injective (hall _) (hall _) hvalues.2.2⟩

/-- A plan is told by its JSON text when the signatures in it read back. -/
theorem telling_plan : Telling plan fun ps => ∀ p ∈ ps, p.IsReadable :=
  telling_list (telling_modelPlan 1) 0

/-- A plan with lists that are empty and lists that are not. -/
example :
    plan [⟨"Edge", [⟨"From", "from", ⟨[.slice], .qualified "model" "Node"⟩, false⟩], []⟩,
        ⟨"Wall", [], ["Old", "Of"]⟩]
      = "[\n" ++
        "  \x7b\n" ++
        "    \"name\": \"Edge\",\n" ++
        "    \"fields\": [\n" ++
        "      \x7b\n" ++
        "        \"declared_name\": \"From\",\n" ++
        "        \"emitted_name\": \"from\",\n" ++
        "        \"signature\": \"[]model.Node\",\n" ++
        "        \"skip\": false\n" ++
        "      \x7d\n" ++
        "    ],\n" ++
        "    \"skipped\": []\n" ++
        "  \x7d,\n" ++
        "  \x7b\n" ++
        "    \"name\": \"Wall\",\n" ++
        "    \"fields\": [],\n" ++
        "    \"skipped\": [\n" ++
        "      \"Old\",\n" ++
        "      \"Of\"\n" ++
        "    ]\n" ++
        "  \x7d\n" ++
        "]" := by
  decide +kernel

end Json

end Typescribe
