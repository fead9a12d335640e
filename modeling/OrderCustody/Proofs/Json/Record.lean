import OrderCustody.Json.Record
import OrderCustody.Proofs.Json.Text

namespace OrderCustody.Json

/-!
# Written records are read back

Each reader takes back the value it is for, whatever follows it in a record.  A record
is read member by member: reading one of them changes a row only at that member, so
what a row comes to once all members have been read is an invariant of the loop.
-/

open Bytes (ofChars)

/-! ## Single values -/

/-- What can follow a value that was written: its record goes on, or all ends. -/
def Delimited (rest : Bytes) : Prop :=
  ∀ byte ∈ rest.head?, byte = ascii ',' ∨ byte = ascii '}'

/-- A reader takes back what was written for a value, up to what follows it. -/
def Reads {α : Type} (reader : Reader α) (written : Value) (value : α) : Prop :=
  ∀ rest, Delimited rest → reader (ofChars written.write ++ rest) = .ok (value, rest)

theorem skipBlanks_cons
    {byte : UInt8}
    {rest : Bytes}
    (visible : isBlank byte = false) :
    skipBlanks (byte :: rest) = byte :: rest := by
  simp only [skipBlanks, List.dropWhile_cons, visible, Bool.false_eq_true, ↓reduceIte]

theorem textNamed_writeText (expected text : String) (rest : Bytes) :
    Reader.textNamed expected (ofChars (writeText text) ++ rest) = .ok (text, rest) := by
  have quoteVisible : isBlank (ascii '"') = false := by decide
  rw [ofChars_writeText, List.cons_append]
  simp only [Reader.textNamed, skipBlanks_cons quoteVisible, ↓reduceIte,
    textBody_written]

theorem reads_text (text : String) : Reads Reader.text (.text text) text := by
  intro rest _
  exact textNamed_writeText "a string" text rest

theorem reads_choice
    {α : Type}
    {choices : List (String × α)}
    {name : String}
    {choice : α}
    (chosen : choose choices name = .ok choice) :
    Reads (Reader.choice choices) (.text name) choice := by
  intro rest _
  have quoteVisible : isBlank (ascii '"') = false := by decide
  rw [Value.write, ofChars_writeText, List.cons_append]
  simp only [Reader.choice, skipBlanks_cons quoteVisible, ↓reduceIte,
    textBody_written, chosen, bind, Except.bind]
  rfl

theorem Reads.map
    {α β : Type}
    {reader : Reader α}
    {written : Value}
    {value : α}
    (reads : Reads reader written value)
    (arrange : α → β) :
    Reads (reader.map arrange) written (arrange value) := by
  intro rest delimited
  simp only [Reader.map, reads rest delimited, bind, Except.bind]
  rfl

/-- A value is read back from the whole text it was written to. -/
theorem Reads.run
    {α : Type}
    {reader : Reader α}
    {written : Value}
    {value : α}
    (reads : Reads reader written value) :
    reader.run (Bytes.ofText written.render) = .ok value := by
  have ended : Delimited [] := by
    intro byte isFirst
    cases isFirst
  have read := reads [] ended
  rw [List.append_nil] at read
  simp only [Reader.run, Value.render, Bytes.ofText_ofList, read, bind, Except.bind]
  rfl

/-! ## Rows -/

/-- A row comes to these values by the members that were written: the value of each
member is in the row, or comes next in what was written, or is left out there. -/
inductive Row.Yields :
    (members : List Member) →
      Row members → List (String × Value) → Values members → Prop where
  | done : Yields [] () [] ()
  | filled
      {member : Member}
      {members : List Member}
      {row : Row members}
      {written : List (String × Value)}
      {value : member.Value}
      {values : Values members} :
      Yields members row written values →
        Yields (member :: members) (some value, row) written (value, values)
  | leftOut
      {member : Member}
      {members : List Member}
      {row : Row members}
      {written : List (String × Value)}
      {value : member.Value}
      {values : Values members} :
      member.fallback = some value →
        Yields members row written values →
          Yields (member :: members) (none, row) written (value, values)
  | next
      {member : Member}
      {members : List Member}
      {row : Row members}
      {written : List (String × Value)}
      {text : Value}
      {value : member.Value}
      {values : Values members} :
      Reads member.read text value →
        Yields members row written values →
          Yields (member :: members) (none, row) ((member.name, text) :: written)
            (value, values)

section Rows

variable
  {members : List Member}
  {row : Row members}
  {written : List (String × Value)}
  {values : Values members}

theorem Row.Yields.mem_names
    {name : String}
    {text : Value}
    (yields : Row.Yields members row written values)
    (member : (name, text) ∈ written) :
    name ∈ members.map Member.name := by
  induction yields with
  | done => cases member
  | filled _ inductionHypothesis =>
      exact List.mem_cons_of_mem _ (inductionHypothesis member)
  | leftOut _ _ inductionHypothesis =>
      exact List.mem_cons_of_mem _ (inductionHypothesis member)
  | next _ _ inductionHypothesis =>
      rcases List.mem_cons.mp member with isNext | later
      · cases isNext
        exact List.mem_cons_self
      · exact List.mem_cons_of_mem _ (inductionHypothesis later)

theorem Row.Yields.ne_of_distinct
    {name : String}
    {text : Value}
    {member : Member}
    (yields : Row.Yields members row ((name, text) :: written) values)
    (distinct : ((member :: members).map Member.name).Nodup) :
    name ≠ member.name := by
  rintro rfl
  have fresh := (List.nodup_cons.mp distinct).1
  exact fresh (yields.mem_names List.mem_cons_self)

theorem Row.Yields.complete
    (yields : Row.Yields members row [] values) :
    row.complete members = .ok values := by
  generalize nothing : ([] : List (String × Value)) = written at yields
  induction yields with
  | done => rfl
  | filled _ inductionHypothesis =>
      simp only [Row.complete, inductionHypothesis nothing, Option.orElse_eq_orElse,
        Option.orElse_some, bind, Except.bind]
      rfl
  | leftOut fallback _ inductionHypothesis =>
      simp only [Row.complete, inductionHypothesis nothing, Option.orElse_eq_orElse,
        Option.orElse_none, fallback, bind, Except.bind]
      rfl
  | next => cases nothing

theorem colon_cons (rest : Bytes) : colon (ascii ':' :: rest) = .ok rest := by
  have colonVisible : isBlank (ascii ':') = false := by decide
  simp only [colon, skipBlanks_cons colonVisible, ↓reduceIte]

theorem Row.readMember_of_ne
    {name : String}
    {member : Member}
    {value : Option member.Value}
    {after : Row members}
    {bytes rest : Bytes}
    (other : name ≠ member.name)
    (read : row.readMember name members bytes = some (.ok (after, rest))) :
    Row.readMember name (member :: members) (value, row) bytes =
      some (.ok ((value, after), rest)) := by
  simp only [Row.readMember, other, ↓reduceIte, read, Option.map_some, bind, Except.bind]
  rfl

/-- Reading the member that comes next fills the row at its place only: those in front of it
are in the row already or left out, and their names differ from its name. -/
theorem Row.Yields.readMember
    {name : String}
    {text : Value}
    (yields : Row.Yields members row ((name, text) :: written) values)
    (distinct : (members.map Member.name).Nodup) :
    ∃ after,
      Row.Yields members after written values ∧
        ∀ rest,
          Delimited rest →
            row.readMember name members (ascii ':' :: (ofChars text.write ++ rest)) =
              some (.ok (after, rest)) := by
  generalize pending : (name, text) :: written = all at yields
  induction yields with
  | done => cases pending
  | @filled _ _ _ _ value _ later inductionHypothesis =>
      subst pending
      have other := later.ne_of_distinct distinct
      obtain ⟨after, yields, read⟩ :=
        inductionHypothesis (List.nodup_cons.mp distinct).2 rfl
      exact ⟨(some value, after), .filled yields, fun rest delimited =>
        Row.readMember_of_ne other (read rest delimited)⟩
  | leftOut fallback later inductionHypothesis =>
      subst pending
      have other := later.ne_of_distinct distinct
      obtain ⟨after, yields, read⟩ :=
        inductionHypothesis (List.nodup_cons.mp distinct).2 rfl
      exact ⟨(none, after), .leftOut fallback yields, fun rest delimited =>
        Row.readMember_of_ne other (read rest delimited)⟩
  | @next _ _ row _ _ value _ reads later =>
      cases pending
      refine ⟨(some value, row), .filled later, fun rest delimited => ?_⟩
      simp only [Row.readMember, ↓reduceIte, colon_cons, reads rest delimited, bind,
        Except.bind]
      rfl

/-! ## Objects -/

theorem delimited_writeRest (written : List (String × Value)) (rest : Bytes) :
    Delimited (ofChars (writeRest written) ++ rest) := by
  intro byte isFirst
  cases written with
  | nil =>
      rw [writeRest, Bytes.ofChars_cons_of_lt (by decide)] at isFirst
      cases isFirst
      exact .inr rfl
  | cons =>
      rw [writeRest, Bytes.ofChars_cons_of_lt (by decide)] at isFirst
      cases isFirst
      exact .inl rfl

theorem length_lt_writeRest (written : List (String × Value)) :
    written.length < (ofChars (writeRest written)).length := by
  induction written with
  | nil => decide
  | cons member written inductionHypothesis =>
      rw [writeRest, Bytes.ofChars_cons_of_lt (by decide)]
      simp only [Bytes.ofChars_append, Bytes.ofChars_cons, List.length_cons,
        List.length_append]
      omega

/-- The bytes of a member as it is written: its name, a colon and its value. -/
theorem ofChars_member (name : String) (text : Value) (others : List Char) (rest : Bytes) :
    ofChars (writeText name ++ ':' :: (text.write ++ others)) ++ rest =
      ascii '"' :: (ofChars (name.toList.flatMap escaped ++ ['"']) ++
        (ascii ':' :: (ofChars text.write ++ (ofChars others ++ rest)))) := by
  have colonByte : ofChars (':' :: (text.write ++ others)) =
      ascii ':' :: ofChars (text.write ++ others) :=
    Bytes.ofChars_cons_of_lt (by decide)
  rw [Bytes.ofChars_append, ofChars_writeText, colonByte, Bytes.ofChars_append _ others]
  simp only [List.cons_append, List.append_assoc]

/-- One round of the loop reads the member that comes next. -/
theorem Row.Yields.readMembers_cons
    {name : String}
    {text : Value}
    (yields : Row.Yields members row ((name, text) :: written) values)
    (distinct : (members.map Member.name).Nodup) :
    ∃ after,
      Row.Yields members after written values ∧
        ∀ steps rest,
          readMembers members (steps + 1) true row
                (ofChars (writeText name ++ ':' :: (text.write ++ writeRest written)) ++
                  rest) =
              readMembers members steps false after (ofChars (writeRest written) ++ rest) ∧
            readMembers members (steps + 1) false row
                (ofChars (writeRest ((name, text) :: written)) ++ rest) =
              readMembers members steps false after
                (ofChars (writeRest written) ++ rest) := by
  obtain ⟨after, later, read⟩ := yields.readMember distinct
  refine ⟨after, later, fun steps rest => ?_⟩
  have readHere := read _ (delimited_writeRest written rest)
  have quoteVisible : isBlank (ascii '"') = false := by decide
  have commaVisible : isBlank (ascii ',') = false := by decide
  have quoteNotBrace : ascii '"' ≠ ascii '}' := by decide
  have commaNotBrace : ascii ',' ≠ ascii '}' := by decide
  constructor
  · rw [ofChars_member]
    simp only [readMembers, skipBlanks_cons quoteVisible, quoteNotBrace, ↓reduceIte,
      textBody_written, readHere, bind, Except.bind]
  · rw [writeRest, Bytes.ofChars_cons_of_lt (by decide), List.cons_append, ofChars_member]
    change readMembers members (steps + 1) false row (ascii ',' :: _) = _
    simp only [readMembers, skipBlanks_cons commaVisible, skipBlanks_cons quoteVisible,
      commaNotBrace, Bool.false_eq_true, ↓reduceIte, textBody_written, readHere, bind,
      Except.bind]

theorem Row.Yields.readMembers_writeRest
    (yields : Row.Yields members row written values)
    (distinct : (members.map Member.name).Nodup)
    {steps : Nat}
    (enough : written.length < steps)
    (rest : Bytes) :
    ∃ full,
      readMembers members steps false row (ofChars (writeRest written) ++ rest) =
          .ok (full, rest) ∧
        full.complete members = .ok values := by
  induction written generalizing row steps with
  | nil =>
      obtain ⟨steps, rfl⟩ := Nat.exists_eq_add_one_of_ne_zero (Nat.ne_zero_of_lt enough)
      have closeVisible : isBlank (ascii '}') = false := by decide
      refine ⟨row, ?_, yields.complete⟩
      rw [writeRest, Bytes.ofChars_cons_of_lt (by decide), List.cons_append]
      change readMembers members (steps + 1) false row (ascii '}' :: rest) = _
      simp only [readMembers, skipBlanks_cons closeVisible, ↓reduceIte]
  | cons first written inductionHypothesis =>
      obtain ⟨steps, rfl⟩ := Nat.exists_eq_add_one_of_ne_zero (Nat.ne_zero_of_lt enough)
      obtain ⟨after, later, round⟩ := yields.readMembers_cons distinct
      obtain ⟨full, read, complete⟩ :=
        inductionHypothesis later (Nat.lt_of_succ_lt_succ enough)
      exact ⟨full, (round steps rest).2.trans read, complete⟩

end Rows

/-- A record is read back from its members as they were written. -/
theorem reads_record
    {members : List Member}
    {written : List (String × Value)}
    {values : Values members}
    (name : String)
    (distinct : (members.map Member.name).Nodup)
    (yields : Row.Yields members (Row.empty members) written values) :
    Reads (Reader.record name members) (.record written) values := by
  intro rest _
  have openVisible : isBlank (ascii '{') = false := by decide
  have closeVisible : isBlank (ascii '}') = false := by decide
  cases written with
  | nil =>
      have bytes : ofChars (Value.record []).write = [ascii '{', ascii '}'] := by decide
      have closes :
          readMembers members ((ascii '}' :: rest).length + 1) true (Row.empty members)
            (ascii '}' :: rest) = .ok (Row.empty members, rest) := by
        simp only [readMembers, skipBlanks_cons closeVisible, ↓reduceIte]
      rw [bytes]
      simp only [Reader.record, List.cons_append, List.nil_append,
        skipBlanks_cons openVisible, ↓reduceIte, closes, yields.complete, bind, Except.bind]
      rfl
  | cons first written =>
      obtain ⟨firstName, text⟩ := first
      obtain ⟨after, later, round⟩ := yields.readMembers_cons distinct
      rw [Value.write, Bytes.ofChars_cons_of_lt (by decide), List.cons_append]
      let body :=
        ofChars (writeText firstName ++ ':' :: (text.write ++ writeRest written)) ++ rest
      have enough : written.length < body.length := by
        have shorter := length_lt_writeRest written
        simp only [body, Bytes.ofChars_append, Bytes.ofChars_cons, List.length_append]
        omega
      obtain ⟨full, read, complete⟩ :=
        later.readMembers_writeRest distinct enough rest
      have loop : readMembers members (body.length + 1) true (Row.empty members) body =
          .ok (full, rest) :=
        (round body.length rest).1.trans read
      change Reader.record name members (ascii '{' :: body) = _
      simp only [Reader.record, skipBlanks_cons openVisible, ↓reduceIte, loop, complete,
        bind, Except.bind]
      rfl

end OrderCustody.Json
