import OrderCustody.Proofs.Audit.Writing
import OrderCustody.Proofs.Calendar.Rfc3339
import OrderCustody.Proofs.Json.Writing

namespace OrderCustody.Audit

/-!
# Audit files decode

The line of an event is read back as that event, and no line holds a line feed.  So
the lines of a trail's text are those of its events, and what was logged can be read
off the text alone.  Of the events that can be made, only those with a leap second that
no clock shows are read back at another time.
-/

open Json (Member Reader Reads Row Values)

/-! ## One event -/

theorem choose_kind (kind : Kind) : Json.choose Kind.choices kind.name = .ok kind := by
  cases kind <;> rfl

theorem reads_timestamp (timestamp : Calendar.Timestamp) :
    Reads Event.timestampReader (.text timestamp.text) timestamp.named := by
  intro rest _
  have read :=
    Json.textNamed_writeText "an RFC 3339 formatted date and time string" timestamp.text rest
  rw [Json.Value.write]
  simp only [Event.timestampReader, read, Calendar.Timestamp.parse_text, bind, Except.bind]
  rfl

/-- A text that is left out when it is absent is read back in either case. -/
theorem yields_present
    {members : List Member}
    {row : Row members}
    {written : List (String × Json.Value)}
    {values : Values members}
    (name : String)
    (value : Option String)
    (yields : Row.Yields members row written values) :
    Row.Yields (Member.optional name Reader.text :: members) (none, row)
      (Event.present name value ++ written) (value, values) := by
  cases value with
  | none => exact .leftOut rfl yields
  | some text => exact .next ((Json.reads_text text).optional nofun) yields

/-- The event that a line names: at the time that its text names. -/
def Event.named (event : Event) : Event :=
  { event with timestamp := event.timestamp.named }

/-- An event is the one that its line names exactly if a clock can show its time. -/
theorem Event.named_eq_self_iff (event : Event) :
    event.named = event ↔ event.timestamp.IsRegular := by
  rw [← event.timestamp.named_eq_self_iff]
  constructor
  · exact congrArg Event.timestamp
  · intro same
    rw [Event.named, same]

theorem Event.reads_toJson (event : Event) :
    Reads Event.reader event.toJson event.named := by
  have distinct : (Event.members.map Member.name).Nodup := by decide
  have rewritten : event.toJson = .record
      (("timestamp", .text event.timestamp.text) ::
        ("event_type", .text event.entry.kind.name) ::
        ("instance_id", .text event.instanceId) ::
        (Event.present "address" event.entry.address ++
          (Event.present "order_value" event.entry.orderValue ++
            (Event.present "value_used" event.entry.valueUsed ++
              (Event.present "max_value_limit" event.entry.maxValueLimit ++
                (Event.present "reason" event.entry.reason ++ [])))))) := by
    simp only [Event.toJson, List.append_assoc, List.append_nil]
  have yields :
      Row.Yields Event.members (Row.empty Event.members) _
        (event.timestamp.named, event.entry.kind, event.instanceId, event.entry.address,
          event.entry.orderValue, event.entry.valueUsed, event.entry.maxValueLimit,
          event.entry.reason, ()) :=
    .next (reads_timestamp event.timestamp) <|
      .next (Json.reads_choice (choose_kind event.entry.kind)) <|
        .next (Json.reads_text event.instanceId) <|
          yields_present "address" event.entry.address <|
            yields_present "order_value" event.entry.orderValue <|
              yields_present "value_used" event.entry.valueUsed <|
                yields_present "max_value_limit" event.entry.maxValueLimit <|
                  yields_present "reason" event.entry.reason .done
  rw [rewritten]
  exact (Json.reads_record "AuditEvent" distinct yields).map Event.ofValues

/-- A line is read as the event that it names. -/
theorem Event.ofJson_line (event : Event) :
    Event.ofJson (Bytes.ofText event.line) = .ok event.named :=
  event.reads_toJson.run

/-- An event at a time that a clock can show is read back from its line. -/
theorem Event.ofJson_line_of_isRegular
    {event : Event}
    (regular : event.timestamp.IsRegular) :
    Event.ofJson (Bytes.ofText event.line) = .ok event := by
  rw [event.ofJson_line, event.named_eq_self_iff.mpr regular]

theorem Event.lineFeed_not_mem_line (event : Event) : '\n' ∉ event.line.toList := by
  intro member
  rw [Event.line, Json.Value.render, String.toList_ofList] at member
  exact absurd (Json.visible_of_mem_write member) (by decide)

/-! ## Whole files -/

theorem Trail.file_foldl_log
    {trail : Trail}
    {past : List Event}
    (attached : trail.file = some past)
    (events : List Event) :
    (events.foldl Trail.log trail).file = some (past ++ events) := by
  induction events generalizing trail past with
  | nil => simpa using attached
  | cons event events inductionHypothesis =>
      have logged : (trail.log event).file = some (past ++ [event]) := by
        simp [Trail.log, attached]
      rw [List.foldl_cons, inductionHypothesis logged, List.append_assoc,
        List.singleton_append]

/-- Texts without line feeds are the pieces of the text that has each on its line. -/
theorem split_join
    {lines : List String}
    (whole : ∀ line ∈ lines, '\n' ∉ line.toList) :
    ((String.join (lines.map (· ++ "\n"))).split '\n').toList.map (·.copy) =
      lines ++ [""] := by
  rw [String.toList_split_char]
  induction lines with
  | nil => simp
  | cons line lines inductionHypothesis =>
      have first : '\n' ∉ line.toList := whole line List.mem_cons_self
      have others : ∀ other ∈ lines, '\n' ∉ other.toList := fun other member =>
        whole other (List.mem_cons_of_mem _ member)
      have ended :
          (String.join ((line :: lines).map (· ++ "\n"))).toList =
            line.toList ++ '\n' :: (String.join (lines.map (· ++ "\n"))).toList := by
        simp
      rw [ended, List.splitOn_append_cons_self_of_not_mem first, List.map_cons,
        inductionHypothesis others, String.ofList_toList, List.cons_append]

/--
Events that are logged one after the other make a text of one line for each, in order,
each ended by a line feed and without any other; and on a device that takes something at
every call this is what the file has.

Every line is read back as an event that is equal in everything but its time, and in its
time too if a clock can show it, that is, if a leap second follows the last second of a
minute or there is none.  A leap second after any other second has the text of the next
second, and is read back as that.
-/
theorem logged_events_decode (instanceId : String) (events : List Event) :
    let trail := events.foldl Trail.log (Trail.detached instanceId).attach
    let pieces := (trail.text.split '\n').toList.map (·.copy)
    (∀ device : Device, device.Takes → trail.stored device = Bytes.ofText trail.text) ∧
      pieces = events.map Event.line ++ [""] ∧
      (∀ event ∈ events, '\n' ∉ event.line.toList) ∧
      pieces.dropLast.map (fun line => Event.ofJson (Bytes.ofText line)) =
        events.map (fun event => .ok { event with timestamp := event.timestamp.named }) ∧
      ∀ event ∈ events, event.timestamp.named = event.timestamp ↔ event.timestamp.IsRegular := by
  intro trail pieces
  have logged : trail.events = events := by
    have file : trail.file = some ([] ++ events) := Trail.file_foldl_log rfl events
    simp only [Trail.events, file, Option.getD_some, List.nil_append]
  have split : pieces = events.map Event.line ++ [""] := by
    have whole : ∀ line ∈ events.map Event.line, '\n' ∉ line.toList := by
      intro line member
      obtain ⟨event, -, rfl⟩ := List.mem_map.mp member
      exact event.lineFeed_not_mem_line
    have text :
        trail.text = String.join ((events.map Event.line).map (· ++ "\n")) := by
      rw [Trail.text, logged, List.map_map]
      rfl
    rw [← split_join whole, ← text]
  refine ⟨fun device takes => trail.stored_of_takes takes, split,
    fun event _ => event.lineFeed_not_mem_line, ?_,
    fun event _ => event.timestamp.named_eq_self_iff⟩
  rw [split, List.dropLast_concat, List.map_map]
  exact List.map_congr_left fun event _ => event.ofJson_line

/-- A signature half a second into a leap second, at the end of a year. -/
def yearEnd : Event where
  timestamp := ⟨⟨2016, 12, 31, by decide⟩, 86399, 1500000000, by decide⟩
  instanceId := "desk"
  entry := { kind := .orderSigned, reason := some "\n" }

/-- It is read back from a file on a device that takes one byte at a time. -/
theorem logged_events_decode_yearEnd :
    let trail := [yearEnd, yearEnd].foldl Trail.log (Trail.detached "desk").attach
    let device : Device := fun _ => 1
    device.Takes ∧
      yearEnd.timestamp.IsRegular ∧
      trail.stored device = Bytes.ofText trail.text ∧
      Event.ofJson (Bytes.ofText yearEnd.line) = .ok yearEnd := by
  intro trail device
  have takes : device.Takes := fun _ => Nat.one_pos
  have regular : yearEnd.timestamp.IsRegular := by decide
  obtain ⟨stored, split, -, decoded, named⟩ := logged_events_decode "desk" [yearEnd, yearEnd]
  rw [split, List.dropLast_concat, List.map_map] at decoded
  have first :
      Event.ofJson (Bytes.ofText yearEnd.line) =
        .ok { yearEnd with timestamp := yearEnd.timestamp.named } :=
    (List.cons.inj decoded).1
  rw [(named yearEnd List.mem_cons_self).mpr regular] at first
  exact ⟨takes, regular, stored device takes, first⟩

/-- A signature four seconds after 23:56, within a leap second. -/
def strayLeap : Event where
  timestamp := ⟨⟨2015, 9, 8, by decide⟩, 86164, 1333333333, by decide⟩
  instanceId := "desk"
  entry := { kind := .orderSigned }

/-- A leap second that no clock shows is lost: the line says the next second.  And where the
device takes nothing, the line itself is lost. -/
theorem strayLeap_not_read_back :
    strayLeap.timestamp.text = "2015-09-08T23:56:05.333333333Z" ∧
      Event.ofJson (Bytes.ofText strayLeap.line) ≠ .ok strayLeap ∧
      ((Trail.detached "desk").attach.log strayLeap).stored .full = [] := by
  refine ⟨by decide, fun readBack => ?_, Trail.stored_full _⟩
  rw [strayLeap.ofJson_line, Except.ok.injEq, Event.named_eq_self_iff] at readBack
  exact absurd readBack (by decide)

end OrderCustody.Audit
