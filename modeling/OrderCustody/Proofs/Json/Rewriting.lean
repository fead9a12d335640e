import Mathlib.Logic.Relation
import OrderCustody.Proofs.Json.Settling

namespace OrderCustody.Json

/-!
# Rewriting a record without changing what it means

A record means what its members mean, and a member may mean the same by different values.
A record can then be rewritten in many ways: its members in another order, more members
of other names, another value of the same meaning, or a value left out that means what
its absence means.  None of these steps changes the meaning, or whether there is one.
-/

/-! ## Meanings -/

/-- A member with what its values mean. -/
structure Column where
  member : Member
  Meaning : Type
  meaning : member.Value → Meaning

namespace Column

/-- The name of a member. -/
def name (column : Column) : String :=
  column.member.name

/-- What a member means by a value that stands behind its name. -/
def take (column : Column) (tree : Tree) : Option column.Meaning :=
  (column.member.read.taken tree).map column.meaning

/-- What a member means by being left out. -/
def absent (column : Column) : Option column.Meaning :=
  column.member.fallback.map column.meaning

/-- What a member means by all values behind its name. -/
def settle (column : Column) (behind : List Tree) : Option column.Meaning :=
  (column.member.settle none behind).map column.meaning

/-- The order of the values behind a name does not matter: of two values or more none is
taken. -/
theorem settle_perm
    (column : Column)
    {behind other : List Tree}
    (reordered : behind.Perm other) :
    column.settle behind = column.settle other := by
  have sameLength := reordered.length_eq
  match behind, other with
  | [], [] => rfl
  | [tree], [otherTree] =>
      cases List.singleton_perm_singleton.mp reordered
      rfl
  | _ :: _ :: _, _ :: _ :: _ => rfl

end Column

/-- A meaning for every member. -/
def Meanings : List Column → Type
  | [] => Unit
  | column :: columns => column.Meaning × Meanings columns

/-- What the values of the members mean. -/
def Values.meanings :
    (columns : List Column) → Values (columns.map Column.member) → Meanings columns
  | [], _ => ()
  | column :: columns, (value, values) =>
      (column.meaning value, Values.meanings columns values)

/-- What a record means by a value. -/
def Tree.meanings? (columns : List Column) (tree : Tree) : Option (Meanings columns) :=
  (tree.record? (columns.map Column.member)).map (Values.meanings columns)

/-- The meanings of the members, each by what stands behind its name. -/
def settleColumns (written : Written) : (columns : List Column) → Option (Meanings columns)
  | [] => some ()
  | column :: columns =>
      (column.settle (written.behind column.name)).bind fun meaning =>
        (settleColumns written columns).map fun meanings => (meaning, meanings)

/-- The meanings of the members, each by the value in its place. -/
def placeColumns : (columns : List Column) → List Tree → Option (Meanings columns)
  | [], [] => some ()
  | [], _ :: _ => none
  | column :: columns, [] =>
      column.absent.bind fun meaning =>
        (placeColumns columns []).map fun meanings => (meaning, meanings)
  | column :: columns, tree :: elements =>
      (column.take tree).bind fun meaning =>
        (placeColumns columns elements).map fun meanings => (meaning, meanings)

theorem map_meanings_cons
    {column : Column}
    {columns : List Column}
    (value : Option column.member.Value)
    (values : Option (Values (columns.map Column.member))) :
    (value.bind fun value =>
        values.map fun values => ((value, values) :
          Values ((column :: columns).map Column.member))).map
        (Values.meanings (column :: columns)) =
      (value.map column.meaning).bind fun meaning =>
        (values.map (Values.meanings columns)).map fun meanings => (meaning, meanings) := by
  cases value <;> cases values <;> rfl

theorem settle_map_meanings (written : Written) (columns : List Column) :
    ((Row.empty (columns.map Column.member)).settle written
        (columns.map Column.member)).map (Values.meanings columns) =
      settleColumns written columns := by
  induction columns with
  | nil => rfl
  | cons column columns inductionHypothesis =>
      rw [settleColumns, ← inductionHypothesis]
      exact map_meanings_cons _ _

theorem places_map_meanings (columns : List Column) (elements : List Tree) :
    (settlePlaces (columns.map Column.member) elements).map (Values.meanings columns) =
      placeColumns columns elements := by
  induction columns generalizing elements with
  | nil => cases elements <;> rfl
  | cons column columns inductionHypothesis =>
      cases elements with
      | nil =>
          rw [placeColumns, ← inductionHypothesis]
          exact map_meanings_cons _ _
      | cons tree elements =>
          rw [placeColumns, ← inductionHypothesis]
          exact map_meanings_cons _ _

theorem meanings?_object (columns : List Column) (written : Written) :
    Tree.meanings? columns (.object written) =
      if written.named then settleColumns written columns else none := by
  rw [← settle_map_meanings, Tree.meanings?, Tree.record?, Row.settleNamed]
  cases written.named <;> rfl

theorem meanings?_list (columns : List Column) (elements : List Tree) :
    Tree.meanings? columns (.list elements) = placeColumns columns elements :=
  places_map_meanings columns elements

theorem settleColumns_congr
    {written other : Written}
    {columns : List Column}
    (same : ∀ column ∈ columns,
      column.settle (written.behind column.name) =
        column.settle (other.behind column.name)) :
    settleColumns written columns = settleColumns other columns := by
  induction columns with
  | nil => rfl
  | cons column columns inductionHypothesis =>
      have rest := inductionHypothesis fun other inRest =>
        same other (List.mem_cons_of_mem _ inRest)
      rw [settleColumns, settleColumns, same column List.mem_cons_self, rest]

/-- Objects in which every member means the same mean the same. -/
theorem meanings?_object_congr
    {written other : Written}
    {columns : List Column}
    (sameNamed : written.named = other.named)
    (same : ∀ column ∈ columns,
      column.settle (written.behind column.name) =
        column.settle (other.behind column.name)) :
    Tree.meanings? columns (.object written) = Tree.meanings? columns (.object other) := by
  rw [meanings?_object, meanings?_object, sameNamed, settleColumns_congr same]

/-! ## Rewriting -/

section Rewriting

variable
  (names : List String)
  (Respells : String → Tree → Tree → Prop)
  (Omits : String → Tree → Prop)

/-- One step of rewriting a record whose members have these names.  `Respells` says
which values of a member may stand for each other, and `Omits` which may be left out.  A
member of an unknown name may be there or not if its name is Unicode; one whose name is
not makes the record unreadable. -/
inductive Rewrite : Tree → Tree → Prop where
  | reorder {written other : Written} :
      written.Perm other → Rewrite (.object written) (.object other)
  | unknown {name : String} {tree : Tree} {written : Written} :
      name ∉ names → Rewrite (.object written) (.object ((some name, tree) :: written))
  | respell {name : String} {tree other : Tree} {written : Written} :
      Respells name tree other →
        Rewrite (.object ((some name, tree) :: written))
          (.object ((some name, other) :: written))
  | leaveOut {name : String} {tree : Tree} {written : Written} :
      Omits name tree →
        some name ∉ written.map Prod.fst →
          Rewrite (.object written) (.object ((some name, tree) :: written))
  | respellPlace {name : String} {tree other : Tree} {before after : List Tree} :
      names[before.length]? = some name →
        Respells name tree other →
          Rewrite (.list (before ++ tree :: after)) (.list (before ++ other :: after))
  | leaveOutPlace {name : String} {tree : Tree} {elements : List Tree} :
      names[elements.length]? = some name →
        Omits name tree →
          Rewrite (.list elements) (.list (elements ++ [tree]))

end Rewriting

theorem Written.behind_eq_nil
    {name : String}
    {written : Written}
    (absent : some name ∉ written.map Prod.fst) :
    written.behind name = [] := by
  refine List.filterMap_eq_nil_iff.mpr fun ⟨other, tree⟩ member => ?_
  have different : other ≠ some name := by
    rintro rfl
    exact absent (List.mem_map_of_mem member)
  simp only [different, ↓reduceIte]

/-- What stands in later places matters to later members only. -/
theorem placeColumns_append
    {columns : List Column}
    {before after other : List Tree}
    (same :
      placeColumns (columns.drop before.length) after =
        placeColumns (columns.drop before.length) other) :
    placeColumns columns (before ++ after) = placeColumns columns (before ++ other) := by
  induction before generalizing columns with
  | nil => exact same
  | cons first before inductionHypothesis =>
      cases columns with
      | nil => rfl
      | cons column columns =>
          have rest :
              placeColumns columns (before ++ after) =
                placeColumns columns (before ++ other) :=
            inductionHypothesis same
          rw [List.cons_append, List.cons_append, placeColumns, placeColumns, rest]

theorem exists_column_at
    {columns : List Column}
    {name : String}
    {index : Nat}
    (place : (columns.map Column.name)[index]? = some name) :
    ∃ column behind,
      columns.drop index = column :: behind ∧ column ∈ columns ∧ column.name = name := by
  rw [List.getElem?_map] at place
  obtain ⟨column, here, sameName⟩ := Option.map_eq_some_iff.mp place
  obtain ⟨inside, rfl⟩ := List.getElem?_eq_some_iff.mp here
  exact ⟨_, _, List.drop_eq_getElem_cons inside, List.getElem_mem inside, sameName⟩

/-- Rewriting does not change what a record means. -/
theorem Rewrite.meanings?_eq
    {columns : List Column}
    {Respells : String → Tree → Tree → Prop}
    {Omits : String → Tree → Prop}
    (respells : ∀ column ∈ columns, ∀ tree other,
      Respells column.name tree other → column.take tree = column.take other)
    (omits : ∀ column ∈ columns, ∀ tree,
      Omits column.name tree → column.take tree = column.absent)
    {tree other : Tree}
    (rewrite : Rewrite (columns.map Column.name) Respells Omits tree other) :
    tree.meanings? columns = other.meanings? columns := by
  cases rewrite with
  | @reorder written other reordered =>
      refine meanings?_object_congr ?_ fun column _ => ?_
      · exact reordered.all_eq
      · exact column.settle_perm (reordered.filterMap _)
  | @unknown name tree written unknown =>
      refine meanings?_object_congr rfl fun column known => ?_
      have different : name ≠ column.name := by
        rintro rfl
        exact unknown (List.mem_map_of_mem known)
      rw [Written.behind_cons_of_ne different]
  | @respell name tree other written respelled =>
      refine meanings?_object_congr rfl fun column known => ?_
      by_cases here : name = column.name
      · subst here
        have same := respells column known tree other respelled
        rw [Written.behind_cons_self, Written.behind_cons_self]
        cases written.behind column.name with
        | nil => exact same
        | cons => rfl
      · rw [Written.behind_cons_of_ne here, Written.behind_cons_of_ne here]
  | @leaveOut name tree written omitted absent =>
      refine meanings?_object_congr rfl fun column known => ?_
      by_cases here : name = column.name
      · subst here
        rw [Written.behind_cons_self, Written.behind_eq_nil absent]
        exact (omits column known tree omitted).symm
      · rw [Written.behind_cons_of_ne here]
  | @respellPlace name tree other before after place respelled =>
      obtain ⟨column, behind, atPlace, known, rfl⟩ := exists_column_at place
      have same := respells column known tree other respelled
      rw [meanings?_list, meanings?_list]
      refine placeColumns_append ?_
      rw [atPlace, placeColumns, placeColumns, same]
  | @leaveOutPlace name tree elements place omitted =>
      obtain ⟨column, behind, atPlace, known, rfl⟩ := exists_column_at place
      have same := omits column known tree omitted
      have appended :
          placeColumns columns (elements ++ []) =
            placeColumns columns (elements ++ [tree]) := by
        refine placeColumns_append ?_
        rw [atPlace, placeColumns, placeColumns, same]
      rw [meanings?_list, meanings?_list, ← appended, List.append_nil]

theorem Rewrite.ne_null
    {names : List String}
    {Respells : String → Tree → Tree → Prop}
    {Omits : String → Tree → Prop}
    {tree other : Tree}
    (rewrite : Rewrite names Respells Omits tree other) :
    tree ≠ .null ∧ other ≠ .null := by
  cases rewrite <;> exact ⟨nofun, nofun⟩

/-- What no step changes stays the same however often one rewrites, and back. -/
theorem eq_of_eqvGen
    {α : Type}
    {Step : Tree → Tree → Prop}
    {view : Tree → α}
    (unchanged : ∀ tree other, Step tree other → view tree = view other)
    {tree other : Tree}
    (equivalent : Relation.EqvGen Step tree other) :
    view tree = view other := by
  induction equivalent with
  | rel tree other step => exact unchanged tree other step
  | refl => rfl
  | symm _ _ _ inductionHypothesis => exact inductionHypothesis.symm
  | trans _ _ _ _ _ first second => exact first.trans second

end OrderCustody.Json
