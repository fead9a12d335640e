import OrderCustody.Json.Reader

namespace OrderCustody.Json

/-!
# Records

A record has a fixed list of members.  It is written as an object, in any order
of members and with unknown ones passed over, or as a list of the members'
values in their order.  A member with a fallback may be left out; in a list,
only at the end.
-/

/-- A member of a record. -/
structure Member where
  name : String
  Value : Type
  read : Reader Value
  fallback : Option Value

namespace Member

/-- A member that has to be there. -/
def required {α : Type} (name : String) (read : Reader α) : Member where
  name := name
  Value := α
  read := read
  fallback := none

/-- A member that has a value of its own when it is left out. -/
def withFallback {α : Type} (name : String) (read : Reader α) (fallback : α) :
    Member where
  name := name
  Value := α
  read := read
  fallback := some fallback

/-- A member that may be left out or `null`. -/
def optional {α : Type} (name : String) (read : Reader α) : Member where
  name := name
  Value := Option α
  read := read.optional
  fallback := some none

end Member

/-- A value for every member. -/
def Values : List Member → Type
  | [] => Unit
  | member :: members => member.Value × Values members

/-- A value for some of the members. -/
def Row : List Member → Type
  | [] => Unit
  | member :: members => Option member.Value × Row members

namespace Row

/-- A value for no member. -/
def empty : (members : List Member) → Row members
  | [] => ()
  | _ :: members => (none, empty members)

/-- Read the value of the member with a given name, from before its colon;
nothing if no member has that name. -/
def readMember (name : String) :
    (members : List Member) → Row members → Bytes →
      Option (Except Cause (Row members × Bytes))
  | [], _, _ => none
  | member :: members, (value, row), bytes =>
      if name = member.name then
        some <|
          match value with
          | some _ => .error (.duplicateMember name)
          | none => do
              let rest ← colon bytes
              let (value, rest) ← member.read rest
              return ((some value, row), rest)
      else
        (readMember name members row bytes).map fun read => do
          let (row, rest) ← read
          return ((value, row), rest)

/-- All values, with fallbacks for those left out. -/
def complete : (members : List Member) → Row members → Except Cause (Values members)
  | [], _ => .ok ()
  | member :: members, (value, row) =>
      match value <|> member.fallback with
      | some value => do
          let values ← complete members row
          return (value, values)
      | none => .error (.missingMember member.name)

end Row

/-- The members of an object up to its closing brace, at most `steps` of them;
`first` says whether none came before. -/
def readMembers (members : List Member) :
    (steps : Nat) → (first : Bool) → Row members → Reader (Row members)
  | 0, _, _, _ => .error (.unfinished .object)
  | steps + 1, first, row, bytes =>
      let key (bytes : Bytes) : Except Cause (Row members × Bytes) := do
        let (name, rest) ← textBody bytes
        match row.readMember name members rest with
        | some read => do
            let (row, rest) ← read
            readMembers members steps false row rest
        | none => do
            let rest ← colon rest
            let rest ← skipValue rest
            readMembers members steps false row rest
      match skipBlanks bytes with
      | [] => .error (.unfinished .object)
      | byte :: rest =>
          if byte = ascii '}' then .ok (row, rest)
          else if first then
            if byte = ascii '"' then key rest else .error .keyNotText
          else if byte = ascii ',' then
            match skipBlanks rest with
            | [] => .error (.unfinished .value)
            | byte :: rest =>
                if byte = ascii '"' then key rest
                else if byte = ascii '}' then .error .trailingComma
                else .error .keyNotText
          else .error .expectedCommaOrBrace

/-- The end of a list behind its last expected value. -/
def listEnd (bytes : Bytes) : Except Cause Bytes :=
  match skipBlanks bytes with
  | [] => .error (.unfinished .list)
  | byte :: rest =>
      if byte = ascii ']' then .ok rest
      else if byte = ascii ',' then
        match skipBlanks rest with
        | next :: _ =>
            if next = ascii ']' then .error .trailingComma
            else .error .trailingCharacters
        | [] => .error .trailingCharacters
      else .error .trailingCharacters

/-- Fallbacks for the members that a list leaves out at its end; the first one
without a fallback makes the list too short. -/
def fallbacks (record : String) (size : Nat) :
    (index : Nat) → (members : List Member) → Except Cause (Values members)
  | _, [] => .ok ()
  | index, member :: members =>
      match member.fallback with
      | some value => do
          let values ← fallbacks record size (index + 1) members
          return (value, values)
      | none => .error (.wrongLength index record size)

/-- The values of a list up to its closing bracket. -/
def readElements (record : String) (size : Nat) :
    (index : Nat) → (members : List Member) → Reader (Values members)
  | _, [], bytes => do
      let rest ← listEnd bytes
      return ((), rest)
  | index, member :: members, bytes =>
      let element (bytes : Bytes) : Except Cause (Values (member :: members) × Bytes) := do
        let (value, rest) ← member.read bytes
        let (values, rest) ← readElements record size (index + 1) members rest
        return ((value, values), rest)
      match skipBlanks bytes with
      | [] => .error (.unfinished .list)
      | byte :: rest =>
          if byte = ascii ']' then do
            let values ← fallbacks record size index (member :: members)
            return (values, rest)
          else if index = 0 then element (byte :: rest)
          else if byte = ascii ',' then
            match skipBlanks rest with
            | [] => .error (.unfinished .value)
            | byte :: rest =>
                if byte = ascii ']' then .error .trailingComma
                else element (byte :: rest)
          else .error .expectedCommaOrBracket

/-- A record of the given name and members. -/
def Reader.record (name : String) (members : List Member) :
    Reader (Values members) := fun bytes =>
  match skipBlanks bytes with
  | [] => .error (.unfinished .value)
  | byte :: rest =>
      if byte = ascii '{' then do
        let (row, rest) ←
          readMembers members (rest.length + 1) true (Row.empty members) rest
        let values ← row.complete members
        return (values, rest)
      else if byte = ascii '[' then
        readElements name members.length 0 members rest
      else .error (wrongKind ("struct " ++ name) (byte :: rest))

/-- A reader whose value is rearranged. -/
def Reader.map {α β : Type} (arrange : α → β) (reader : Reader α) : Reader β :=
  fun bytes => do
    let (value, rest) ← reader bytes
    return (arrange value, rest)

end OrderCustody.Json
