import Mathlib.Data.List.TakeWhile
import Mathlib.Data.Option.Basic
import OrderCustody.Text.Blank

namespace OrderCustody.Text

/-!
# What is left by trimming

Trimming takes away what is blank at both ends.  What is left is found without going
through the text: it is the part with nothing but blanks around it that neither starts
nor ends with one.
-/

variable {α : Type} (blank : α → Bool)

/-- Items that neither start nor end with a blank. -/
structure Trimmed (core : List α) : Prop where
  first : ∀ item ∈ core.head?, blank item = false
  last : ∀ item ∈ core.getLast?, blank item = false

instance (core : List α) : Decidable (Trimmed blank core) :=
  decidable_of_iff
    ((∀ item ∈ core.head?, blank item = false) ∧ ∀ item ∈ core.getLast?, blank item = false)
    ⟨fun ⟨first, last⟩ => ⟨first, last⟩, fun ⟨first, last⟩ => ⟨first, last⟩⟩

/-- Items with blanks around them, any number of them on each side. -/
inductive Around (core : List α) : List α → Prop where
  | intro
      {front behind : List α}
      (frontBlank : ∀ item ∈ front, blank item = true)
      (behindBlank : ∀ item ∈ behind, blank item = true) :
      Around core (front ++ core ++ behind)

variable {blank} in
theorem Around.refl (core : List α) : Around blank core core := by
  have around : Around blank core ([] ++ core ++ []) := .intro nofun nofun
  rwa [List.nil_append, List.append_nil] at around

variable {blank} in
theorem Around.append_behind
    {core items behind : List α}
    (around : Around blank core items)
    (behindBlank : ∀ item ∈ behind, blank item = true) :
    Around blank core (items ++ behind) := by
  obtain ⟨frontBlank, innerBlank⟩ := around
  rw [List.append_assoc]
  exact .intro frontBlank (List.forall_mem_append.mpr ⟨innerBlank, behindBlank⟩)

variable {blank} in
theorem Around.append_front
    {core items front : List α}
    (around : Around blank core items)
    (frontBlank : ∀ item ∈ front, blank item = true) :
    Around blank core (front ++ items) := by
  obtain ⟨innerBlank, behindBlank⟩ := around
  rw [← List.append_assoc, ← List.append_assoc]
  exact .intro (List.forall_mem_append.mpr ⟨frontBlank, innerBlank⟩) behindBlank

/-- What is left behind the blanks in front. -/
theorem dropWhile_eq_iff (items rest : List α) :
    items.dropWhile blank = rest ↔
      (∃ front, (∀ item ∈ front, blank item = true) ∧ items = front ++ rest) ∧
        ∀ item ∈ rest.head?, blank item = false := by
  constructor
  · rintro rfl
    refine ⟨⟨items.takeWhile blank, fun _ => List.mem_takeWhile_imp, ?_⟩, ?_⟩
    · exact List.takeWhile_append_dropWhile.symm
    · intro item first
      have visible := List.head?_dropWhile_not blank items
      rw [first] at visible
      exact visible
  · rintro ⟨⟨front, blanks, rfl⟩, visible⟩
    rw [List.dropWhile_append_of_pos blanks]
    cases rest with
    | nil => rfl
    | cons first rest =>
        simp only [List.dropWhile_cons, visible first rfl, Bool.false_eq_true, ↓reduceIte]

/-- What is left between the blanks on both sides. -/
theorem trimmed_eq_iff (items core : List α) :
    ((items.dropWhile blank).reverse.dropWhile blank).reverse = core ↔
      Around blank core items ∧ Trimmed blank core := by
  constructor
  · intro left
    let inner := items.dropWhile blank
    obtain ⟨⟨front, frontBlank, whole⟩, firstVisible⟩ :=
      (dropWhile_eq_iff blank items inner).mp rfl
    obtain ⟨⟨behind, behindBlank, turned⟩, lastVisible⟩ :=
      (dropWhile_eq_iff blank inner.reverse core.reverse).mp
        (List.reverse_eq_iff.mp left)
    have innerParts : inner = core ++ behind.reverse := by
      rw [← List.reverse_reverse inner, turned, List.reverse_append, List.reverse_reverse]
    have behindReversed : ∀ item ∈ behind.reverse, blank item = true := fun item member =>
      behindBlank item (List.mem_reverse.mp member)
    refine ⟨?_, ?_, ?_⟩
    · rw [whole, innerParts, ← List.append_assoc]
      exact .intro frontBlank behindReversed
    · intro item first
      apply firstVisible item
      rw [innerParts, List.head?_append, first]
      rfl
    · intro item last
      apply lastVisible item
      rw [List.head?_reverse]
      exact last
  · rintro ⟨@⟨front, behind, frontBlank, behindBlank⟩, trimmed⟩
    cases core with
    | nil =>
        have allBlank : ∀ item ∈ front ++ [] ++ behind, blank item = true := by
          rw [List.append_nil]
          exact List.forall_mem_append.mpr ⟨frontBlank, behindBlank⟩
        rw [List.dropWhile_eq_nil_iff.mpr allBlank]
        rfl
    | cons first rest =>
        have inner :
            (front ++ first :: rest ++ behind).dropWhile blank = first :: rest ++ behind :=
          (dropWhile_eq_iff blank _ _).mpr
            ⟨⟨front, frontBlank, List.append_assoc _ _ _⟩, trimmed.first⟩
        have turned :
            (first :: rest ++ behind).reverse.dropWhile blank = (first :: rest).reverse := by
          refine (dropWhile_eq_iff blank _ _).mpr ⟨⟨behind.reverse, ?_, ?_⟩, ?_⟩
          · exact fun item member => behindBlank item (List.mem_reverse.mp member)
          · exact List.reverse_append
          · rw [List.head?_reverse]
            exact trimmed.last
        rw [inner, turned, List.reverse_reverse]

/-- What is blank in the images of items is what is blank in the items, so they are
trimmed alike. -/
theorem trimmed_map_iff
    {β : Type}
    {blank : α → Bool}
    {blankImage : β → Bool}
    {image : α → β}
    {items : List α}
    (same : ∀ item ∈ items, blankImage (image item) = blank item) :
    Trimmed blankImage (items.map image) ↔ Trimmed blank items := by
  have first :
      (∀ item ∈ (items.map image).head?, blankImage item = false) ↔
        ∀ item ∈ items.head?, blank item = false := by
    rw [List.head?_map, Option.forall_mem_map]
    exact forall₂_congr fun item here => by rw [same item (List.mem_of_mem_head? here)]
  have last :
      (∀ item ∈ (items.map image).getLast?, blankImage item = false) ↔
        ∀ item ∈ items.getLast?, blank item = false := by
    rw [List.getLast?_map, Option.forall_mem_map]
    exact forall₂_congr fun item here => by rw [same item (List.mem_of_mem_getLast? here)]
  exact ⟨fun trimmed => ⟨first.mp trimmed.first, last.mp trimmed.last⟩,
    fun trimmed => ⟨first.mpr trimmed.first, last.mpr trimmed.last⟩⟩

theorem trim_eq_iff (characters core : List Char) :
    trim characters = core ↔ Around isBlank core characters ∧ Trimmed isBlank core :=
  trimmed_eq_iff isBlank characters core

end OrderCustody.Text
