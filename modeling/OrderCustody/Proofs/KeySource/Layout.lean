import Mathlib.Data.List.Basic
import OrderCustody.KeySource.Material
import OrderCustody.Proofs.Address
import OrderCustody.Proofs.Bytes.Hex
import OrderCustody.Proofs.Text.Trim

namespace OrderCustody

/-!
# Which texts hold a key

A key stands in its text with blanks around it and at most one mark in front of it.  Every
text can be laid out in this way, whatever is in it, and what is left between the blanks
and behind the mark decides: nothing is no key, digits are the key that they spell, and
anything else is a mistake.
-/

theorem Text.visible_of_all
    {characters : List Char}
    (all : (characters.all fun c => !isBlank c) = true) :
    ∀ c ∈ characters, isBlank c = false := by
  simpa using all

/-- No hexadecimal digit is blank. -/
theorem Hex.IsDigit.not_blank
    {c : Char}
    {value : Nat}
    (digit : IsDigit c value) :
    Text.isBlank c = false := by
  rcases digit with lower | upper
  · exact Text.visible_of_all (by decide) c (List.mem_of_getElem? lower)
  · exact Text.visible_of_all (by decide) c (List.mem_of_getElem? upper)

namespace KeySource

/-! ## Layouts -/

/-- What may stand in front of digits. -/
inductive Mark where
  | absent
  | lower
  | upper
  deriving DecidableEq, Repr

/-- The characters of a mark. -/
def Mark.characters : Mark → List Char
  | absent => []
  | lower => ['0', 'x']
  | upper => ['0', 'X']

/-- The parts of a key text, from front to back. -/
structure Layout where
  front : List Char
  mark : Mark
  body : List Char
  behind : List Char
  deriving DecidableEq, Repr

namespace Layout

/-- What stands between the blanks. -/
def core (layout : Layout) : List Char :=
  layout.mark.characters ++ layout.body

/-- A layout of a text: its parts make up the text, and those at its ends are blank.  The
body may be anything. -/
structure LaysOut (layout : Layout) (text : String) : Prop where
  whole : text.toList = layout.front ++ layout.core ++ layout.behind
  frontBlank : ∀ c ∈ layout.front, Text.isBlank c = true
  behindBlank : ∀ c ∈ layout.behind, Text.isBlank c = true

/-- A layout that leaves neither blanks nor a mark to be taken off. -/
structure Tight (layout : Layout) : Prop where
  trimmed : Text.Trimmed Text.isBlank layout.core
  unmarked : layout.mark = .absent → Address.unmarked? layout.body = none

theorem LaysOut.around
    {layout : Layout}
    {text : String}
    (laysOut : layout.LaysOut text) :
    Text.Around Text.isBlank layout.core text.toList := by
  rw [laysOut.whole]
  exact .intro laysOut.frontBlank laysOut.behindBlank

/-- Every text has a layout that leaves nothing to be taken off. -/
theorem exists_tight (text : String) :
    ∃ layout : Layout, layout.LaysOut text ∧ layout.Tight := by
  obtain ⟨around, trimmed⟩ := (Text.trim_eq_iff text.toList _).mp rfl
  generalize Text.trim text.toList = core at around trimmed
  generalize whole : text.toList = characters at around
  obtain @⟨front, behind, frontBlank, behindBlank⟩ := around
  cases unmarked : Address.unmarked? core with
  | none =>
      exact ⟨⟨front, .absent, core, behind⟩, ⟨whole, frontBlank, behindBlank⟩,
        trimmed, fun _ => unmarked⟩
  | some body =>
      obtain ⟨mark, rfl | rfl, rfl⟩ := (Address.unmarked?_eq_some_iff core body).mp unmarked
      · exact ⟨⟨front, .lower, body, behind⟩, ⟨whole, frontBlank, behindBlank⟩,
          trimmed, nofun⟩
      · exact ⟨⟨front, .upper, body, behind⟩, ⟨whole, frontBlank, behindBlank⟩,
          trimmed, nofun⟩

/-- Digits leave nothing to be taken off, and nor does an empty body. -/
theorem tight_of_digits
    {layout : Layout}
    (digits : ∀ c ∈ layout.body, ∃ value, Hex.IsDigit c value) :
    layout.Tight := by
  have visible : ∀ c ∈ layout.core, Text.isBlank c = false := by
    intro c member
    rcases List.mem_append.mp member with marking | inBody
    · apply Text.visible_of_all ?_ c marking
      cases layout.mark <;> decide
    · obtain ⟨_, digit⟩ := digits c inBody
      exact digit.not_blank
  refine ⟨⟨?_, ?_⟩, fun _ => ?_⟩
  · intro c first
    exact visible c (List.mem_of_mem_head? first)
  · intro c last
    exact visible c (List.mem_of_mem_getLast? last)
  · apply Option.eq_none_iff_forall_ne_some.mpr
    intro rest unmarked
    obtain ⟨mark, letter, body⟩ := (Address.unmarked?_eq_some_iff _ _).mp unmarked
    have inBody : mark ∈ layout.body := by simp [body]
    obtain ⟨value, digit⟩ := digits mark inBody
    have read := (Hex.value?_eq_some_iff mark value).mpr digit
    rcases letter with rfl | rfl
    · cases read
    · cases read

theorem Tight.mark_eq_absent_iff
    {layout : Layout}
    (tight : layout.Tight) :
    layout.mark = .absent ↔ Address.unmarked? layout.core = none := by
  have unmarked := tight.unmarked
  unfold core
  cases mark : layout.mark with
  | absent => exact ⟨fun _ => unmarked mark, fun _ => rfl⟩
  | lower => exact ⟨nofun, nofun⟩
  | upper => exact ⟨nofun, nofun⟩

section Unique

variable {first second : Layout} {text : String}

/-- What stands between the blanks has only one mark and one body. -/
theorem Tight.eq_of_core_eq
    (firstTight : first.Tight)
    (secondTight : second.Tight)
    (same : first.core = second.core) :
    first.mark = second.mark ∧ first.body = second.body := by
  have absence : first.mark = .absent ↔ second.mark = .absent := by
    rw [firstTight.mark_eq_absent_iff, secondTight.mark_eq_absent_iff, same]
  unfold core at same
  cases firstMark : first.mark <;> cases secondMark : second.mark <;>
    simp_all [Mark.characters]

theorem LaysOut.dropWhile_eq
    (laysOut : first.LaysOut text)
    (tight : first.Tight)
    (some : first.core ≠ []) :
    text.toList.dropWhile Text.isBlank = first.core ++ first.behind := by
  refine (Text.dropWhile_eq_iff _ _ _).mpr ⟨⟨first.front, laysOut.frontBlank, ?_⟩, ?_⟩
  · rw [laysOut.whole, List.append_assoc]
  · rw [List.head?_append_of_ne_nil _ some]
    exact tight.trimmed.first

/-- A text with anything in it but blanks has only one layout that leaves nothing to be
taken off. -/
theorem LaysOut.unique
    (firstLaysOut : first.LaysOut text)
    (firstTight : first.Tight)
    (secondLaysOut : second.LaysOut text)
    (secondTight : second.Tight)
    (some : first.core ≠ []) :
    first = second := by
  have sameCore : first.core = second.core := by
    have firstTrim := (Text.trim_eq_iff _ _).mpr ⟨firstLaysOut.around, firstTight.trimmed⟩
    have secondTrim := (Text.trim_eq_iff _ _).mpr ⟨secondLaysOut.around, secondTight.trimmed⟩
    exact firstTrim.symm.trans secondTrim
  have sameBehind : first.behind = second.behind := by
    have firstRest := firstLaysOut.dropWhile_eq firstTight some
    have secondRest := secondLaysOut.dropWhile_eq secondTight (sameCore ▸ some)
    rw [firstRest, sameCore] at secondRest
    exact List.append_cancel_left secondRest
  have sameFront : first.front = second.front := by
    have whole := firstLaysOut.whole.symm.trans secondLaysOut.whole
    rw [sameCore, sameBehind] at whole
    exact List.append_cancel_right (List.append_cancel_right whole)
  obtain ⟨sameMark, sameBody⟩ := firstTight.eq_of_core_eq secondTight sameCore
  cases first
  cases second
  simp_all

end Unique

end Layout

/-! ## Reading -/

/-- What comes of reading a body. -/
inductive Reading (body : List Char) : Except TextFault Bytes → Prop where
  | empty
      (nothing : body = []) :
      Reading body (.error .empty)
  | key
      {key : Bytes}
      (some : body ≠ [])
      (spells : Hex.Spells body key) :
      Reading body (.ok key)
  | notHex
      (some : body ≠ [])
      (unspelled : ∀ key, ¬ Hex.Spells body key) :
      Reading body (.error .notHex)

namespace Layout

variable {layout : Layout} {text : String}

/-- A text is read by its body, whatever its layout takes off. -/
theorem LaysOut.reading
    (laysOut : layout.LaysOut text)
    (tight : layout.Tight) :
    Reading layout.body (readKey text) := by
  have trimmed : Text.trim text.toList = layout.core :=
    (Text.trim_eq_iff _ _).mpr ⟨laysOut.around, tight.trimmed⟩
  have body : (Address.unmarked? layout.core).getD layout.core = layout.body := by
    have unmarked := tight.unmarked
    unfold core
    cases mark : layout.mark with
    | absent =>
        rw [Mark.characters, List.nil_append, unmarked mark]
        rfl
    | lower => rfl
    | upper => rfl
  unfold readKey
  rw [trimmed]
  dsimp only
  rw [body]
  split
  · next nothing => exact .empty (List.isEmpty_iff.mp nothing)
  next some =>
    have some : layout.body ≠ [] := fun nothing => some (List.isEmpty_iff.mpr nothing)
    split
    · next decoded => exact .key some ((Hex.bytes?_eq_some_iff _ _).mp decoded)
    · next undecoded =>
        refine .notHex some fun key spells => ?_
        rw [(Hex.bytes?_eq_some_iff _ _).mpr spells] at undecoded
        cases undecoded

theorem LaysOut.readKey_of_spells
    {key : Bytes}
    (laysOut : layout.LaysOut text)
    (some : layout.body ≠ [])
    (spells : Hex.Spells layout.body key) :
    readKey text = .ok key := by
  have digits := ((Hex.exists_spells_iff layout.body).mp ⟨key, spells⟩).2
  have reading := laysOut.reading (tight_of_digits digits)
  generalize readKey text = result at reading
  cases reading with
  | empty nothing => exact absurd nothing some
  | key _ spelled => rw [spelled.unique spells]
  | notHex _ unspelled => exact absurd spells (unspelled key)

theorem LaysOut.readKey_of_nothing
    (laysOut : layout.LaysOut text)
    (nothing : layout.body = []) :
    readKey text = .error .empty := by
  have digits : ∀ c ∈ layout.body, ∃ value, Hex.IsDigit c value := by
    rw [nothing]
    exact nofun
  have reading := laysOut.reading (tight_of_digits digits)
  generalize readKey text = result at reading
  cases reading with
  | empty => rfl
  | key some => exact absurd nothing some
  | notHex some => exact absurd nothing some

/-- A body that is neither spelled out nor missing has an odd length or something in it
that is no digit. -/
theorem LaysOut.readKey_of_mistake
    (laysOut : layout.LaysOut text)
    (tight : layout.Tight)
    (mistake :
      layout.body.length % 2 = 1 ∨
        ∃ c ∈ layout.body, ∀ value, ¬ Hex.IsDigit c value) :
    readKey text = .error .notHex := by
  have reading := laysOut.reading tight
  generalize readKey text = result at reading
  cases reading with
  | empty nothing => simp [nothing] at mistake
  | key _ spells => exact absurd spells ((Hex.unspelled_iff layout.body).mpr mistake _)
  | notHex => rfl

end Layout

/-- Key text never holds an empty key. -/
theorem ne_nil_of_readKey
    {text : String}
    {key : Bytes}
    (read : readKey text = .ok key) :
    key ≠ [] := by
  obtain ⟨layout, laysOut, tight⟩ := Layout.exists_tight text
  have reading := laysOut.reading tight
  rw [read] at reading
  cases reading with
  | key some spells =>
      rintro rfl
      exact some (List.length_eq_zero_iff.mp spells.length_eq)

/--
A key text is read by its grammar, whatever characters are in it.

A key is read exactly from blanks, one mark or none, digits of either case that spell the
key, two for each byte and at least two, and blanks, in this order.  A text of nothing but
blanks and one mark or none is empty.  Every other text is a mistake: once the blanks at
both ends and one mark are taken off, there is an odd number of characters left, or one
that is no digit, such as a blank or the letter of a second mark.  A text that holds a key
can be laid out in one way only, and the key is not empty.
-/
theorem keys_read_by_layout (text : String) :
    (∀ key,
      readKey text = .ok key ↔
        ∃ layout : Layout,
          layout.LaysOut text ∧ layout.body ≠ [] ∧ Hex.Spells layout.body key) ∧
    (readKey text = .error .empty ↔
      ∃ layout : Layout, layout.LaysOut text ∧ layout.body = []) ∧
    (readKey text = .error .notHex ↔
      ∀ layout : Layout,
        layout.LaysOut text →
        layout.body ≠ [] ∧ ∀ key, ¬ Hex.Spells layout.body key) ∧
    (readKey text = .error .notHex ↔
      ∃ layout : Layout,
        layout.LaysOut text ∧
          layout.Tight ∧
          (layout.body.length % 2 = 1 ∨
            ∃ c ∈ layout.body, ∀ value, ¬ Hex.IsDigit c value)) ∧
    ∀ key,
      readKey text = .ok key →
      key ≠ [] ∧
        ∃! layout : Layout, layout.LaysOut text ∧ Hex.Spells layout.body key := by
  obtain ⟨tightest, laysOut, tight⟩ := Layout.exists_tight text
  have accepted :
      ∀ key,
        readKey text = .ok key →
        tightest.body ≠ [] ∧ Hex.Spells tightest.body key := by
    intro key read
    have reading := laysOut.reading tight
    rw [read] at reading
    cases reading with
    | key some spells => exact ⟨some, spells⟩
  refine ⟨fun key => ⟨fun read => ?_, ?_⟩, ⟨fun read => ?_, ?_⟩, ⟨fun read => ?_, fun other => ?_⟩,
    ⟨fun read => ?_, ?_⟩, fun key read => ?_⟩
  · exact ⟨tightest, laysOut, accepted key read⟩
  · rintro ⟨layout, laysOut, some, spells⟩
    exact laysOut.readKey_of_spells some spells
  · have reading := laysOut.reading tight
    rw [read] at reading
    cases reading with
    | empty nothing => exact ⟨tightest, laysOut, nothing⟩
  · rintro ⟨layout, laysOut, nothing⟩
    exact laysOut.readKey_of_nothing nothing
  · intro layout laysOut
    have some : layout.body ≠ [] := by
      intro nothing
      cases read.symm.trans (laysOut.readKey_of_nothing nothing)
    refine ⟨some, fun key spells => ?_⟩
    cases read.symm.trans (laysOut.readKey_of_spells some spells)
  · obtain ⟨some, unspelled⟩ := other tightest laysOut
    have reading := laysOut.reading tight
    generalize readKey text = result at reading
    cases reading with
    | empty nothing => exact absurd nothing some
    | key _ spells => exact absurd spells (unspelled _)
    | notHex => rfl
  · have reading := laysOut.reading tight
    rw [read] at reading
    cases reading with
    | notHex _ unspelled => exact ⟨tightest, laysOut, tight, (Hex.unspelled_iff _).mp unspelled⟩
  · rintro ⟨layout, laysOut, tight, mistake⟩
    exact laysOut.readKey_of_mistake tight mistake
  · obtain ⟨some, spells⟩ := accepted key read
    refine ⟨ne_nil_of_readKey read, tightest, ⟨laysOut, spells⟩, ?_⟩
    rintro layout ⟨otherLaysOut, otherSpells⟩
    have digits := ((Hex.exists_spells_iff layout.body).mp ⟨key, otherSpells⟩).2
    have core : tightest.core ≠ [] := List.append_ne_nil_of_right_ne_nil _ some
    exact (laysOut.unique tight otherLaysOut (Layout.tight_of_digits digits) core).symm

/-- An ideographic space is blank, and a zero-width space is not. -/
example :
    readKey "\u3000 0X0a0B\n" = .ok [10, 11] ∧
      readKey "\u200b0X0a0B\n" = .error .notHex := by
  decide +kernel

end KeySource

end OrderCustody
