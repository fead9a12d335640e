import OrderCustody.Audit.Trail
import OrderCustody.Proofs.Bytes.Text

namespace OrderCustody.Audit

/-!
# What a file takes

A device that takes something at every call takes all that is logged, however small the
pieces: then the file of a trail has the trail's text.  A device that takes nothing leaves
the file empty, whatever is logged.
-/

/-- A device that takes something at every call. -/
def Device.Takes (device : Device) : Prop :=
  ∀ call, 0 < device call

/-- A device that fails at every call. -/
def Device.full : Device :=
  fun _ => 0

namespace Writer

/-- What was put: what the file has taken, and what is still in the buffer. -/
def whole (writer : Writer) : Bytes :=
  writer.taken ++ writer.pending

/-! ## Devices that take something -/

section Taking

variable
  {device : Device}
  (takes : device.Takes)

include takes

theorem offer_of_takes (writer : Writer) (bytes : Bytes) :
    (writer.offer device bytes).2 = [] ∧
      (writer.offer device bytes).1.taken = writer.taken ++ bytes ∧
      (writer.offer device bytes).1.pending = writer.pending := by
  induction writer, bytes using offer.induct device with
  | case1 writer => simp [offer]
  | case2 writer byte rest failed => exact absurd (takes writer.calls) (by omega)
  | case3 writer called byte rest more answer inductionHypothesis =>
      obtain ⟨left, taken, pending⟩ := inductionHypothesis
      rw [offer.eq_3 _ _ _ _ _ answer]
      refine ⟨left, ?_, pending⟩
      rw [taken, List.append_assoc, List.cons_append, List.take_append_drop]

theorem flush_of_takes (writer : Writer) :
    (writer.flush device).taken = writer.whole ∧ (writer.flush device).pending = [] := by
  obtain ⟨left, taken, -⟩ := offer_of_takes takes writer writer.pending
  exact ⟨taken, left⟩

theorem makeRoom_of_takes (writer : Writer) (count : Nat) :
    (writer.makeRoom device count).whole = writer.whole ∧
      (writer.room < count → (writer.makeRoom device count).pending = []) := by
  unfold makeRoom
  split
  · obtain ⟨taken, emptied⟩ := flush_of_takes takes writer
    exact ⟨by rw [whole, taken, emptied, List.append_nil], fun _ => emptied⟩
  · next enough => exact ⟨rfl, fun full => absurd full enough⟩

theorem put_of_takes (writer : Writer) (bytes : Bytes) :
    (writer.put device bytes).2 = true ∧
      (writer.put device bytes).1.whole = writer.whole ++ bytes := by
  obtain ⟨same, emptied⟩ := makeRoom_of_takes takes writer bytes.length
  unfold put
  dsimp only
  split
  · next failed => exact absurd (emptied failed.1) failed.2
  split
  · exact ⟨rfl, by rw [← same]; exact (List.append_assoc _ _ _).symm⟩
  · next large =>
      generalize ready : writer.makeRoom device bytes.length = other at same emptied
      have nothing : other.pending = [] := by
        by_cases full : writer.room < bytes.length
        · exact emptied full
        · have kept : other = writer := ready.symm.trans (if_neg full)
          rw [kept]
          apply List.eq_nil_of_length_eq_zero
          simp only [room, capacity] at full large
          omega
      obtain ⟨left, offered, kept⟩ := offer_of_takes takes other bytes
      refine ⟨by rw [left]; rfl, ?_⟩
      rw [whole, offered, kept, ← same, whole, nothing, List.append_nil, List.append_nil]

/-- A line that is logged is in the file at once, behind all that was put before. -/
theorem log_of_takes (writer : Writer) (line : String) :
    (writer.log device line).taken = writer.whole ++ Bytes.ofText (line ++ "\n") ∧
      (writer.log device line).pending = [] := by
  obtain ⟨isPut, begun⟩ := put_of_takes takes writer (Bytes.ofText line)
  have logged : writer.log device line =
      ((writer.put device (Bytes.ofText line)).1.put device (Bytes.ofText "\n")).1.flush
        device :=
    congrArg (flush device) (if_pos isPut)
  rw [logged]
  obtain ⟨taken, emptied⟩ := flush_of_takes takes
    ((writer.put device (Bytes.ofText line)).1.put device (Bytes.ofText "\n")).1
  refine ⟨?_, emptied⟩
  rw [taken, (put_of_takes takes _ _).2, begun, Bytes.ofText_append, List.append_assoc]

end Taking

/-! ## Devices that take nothing -/

theorem offer_full (writer : Writer) (bytes : Bytes) :
    (writer.offer .full bytes).1.taken = writer.taken := by
  cases bytes with
  | nil => rw [offer.eq_1]
  | cons byte rest => rw [offer.eq_2 _ _ _ _ rfl]

theorem flush_full (writer : Writer) : (writer.flush .full).taken = writer.taken :=
  offer_full writer writer.pending

theorem makeRoom_full (writer : Writer) (count : Nat) :
    (writer.makeRoom .full count).taken = writer.taken := by
  unfold makeRoom
  split
  · exact flush_full writer
  · rfl

theorem put_full (writer : Writer) (bytes : Bytes) :
    (writer.put .full bytes).1.taken = writer.taken := by
  have same := makeRoom_full writer bytes.length
  unfold put
  dsimp only
  split
  · exact same
  split
  · exact same
  · exact (offer_full _ bytes).trans same

/-- A line that is logged to a device that takes nothing is not in the file. -/
theorem log_full (writer : Writer) (line : String) :
    (writer.log .full line).taken = writer.taken := by
  have begun := put_full writer (Bytes.ofText line)
  rw [log, flush_full]
  split
  · rw [put_full, begun]
  · exact begun

end Writer

namespace Trail

variable (trail : Trail)

/-- On a device that takes something at every call the file has the text of the trail. -/
theorem stored_of_takes
    {device : Device}
    (takes : device.Takes) :
    trail.stored device = Bytes.ofText trail.text := by
  have logged (lines : List String) (writer : Writer) :
      writer.pending = [] →
      (lines.foldl (Writer.log device) writer).taken =
        writer.taken ++ Bytes.ofText (String.join (lines.map (· ++ "\n"))) := by
    induction lines generalizing writer with
    | nil =>
        intro _
        have nothing : Bytes.ofText "" = [] := by rw [Bytes.ofText_eq_ofChars]; rfl
        rw [List.map_nil, String.join_nil, nothing, List.append_nil, List.foldl_nil]
    | cons line lines inductionHypothesis =>
        intro nothing
        obtain ⟨taken, pending⟩ := Writer.log_of_takes takes writer line
        rw [List.foldl_cons, inductionHypothesis _ pending, taken, Writer.whole, nothing,
          List.append_nil, List.append_assoc, ← Bytes.ofText_append, List.map_cons,
          String.join_cons]
  rw [stored, logged _ _ rfl, text, List.map_map]
  rfl

/-- On a device that takes nothing the file stays empty. -/
theorem stored_full : trail.stored .full = [] := by
  have logged (lines : List String) (writer : Writer) :
      (lines.foldl (Writer.log .full) writer).taken = writer.taken := by
    induction lines generalizing writer with
    | nil => rfl
    | cons line lines inductionHypothesis =>
        rw [List.foldl_cons, inductionHypothesis, Writer.log_full]
  exact logged _ _

/-- Where nothing is logged, nothing is in the file. -/
theorem stored_of_silent
    {trail : Trail}
    (silent : trail.events = [])
    (device : Device) :
    trail.stored device = [] := by
  rw [stored, silent]
  rfl

/-- What is logged alone is the only line in the file, if the device takes it. -/
theorem stored_of_single
    {trail : Trail}
    {event : Event}
    {device : Device}
    (single : trail.file = some [event])
    (takes : device.Takes) :
    trail.stored device = Bytes.ofText (event.line ++ "\n") := by
  rw [trail.stored_of_takes takes, text, events, single]
  simp

end Trail

end OrderCustody.Audit
