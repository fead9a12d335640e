import OrderCustody.Json.Skip

namespace OrderCustody.Json

/-!
# Readers of single values

One reader per kind of value.  A value of another kind is named in the refusal,
after as much of it has been read as naming it takes.
-/

/-- Why the value at hand is refused where another kind is expected. -/
def wrongKind (expected : String) : Bytes → Cause
  | [] => .unfinished .value
  | byte :: rest =>
      let named (found : Found) : Cause := .wrongKind found expected
      let literally (letters : List Char) (found : Found) : Cause :=
        match literal letters rest with
        | .ok _ => named found
        | .error cause => cause
      let numerically (read : Except Cause (Number × Bytes)) : Cause :=
        match read with
        | .ok (number, _) => named (.number number)
        | .error cause => cause
      if byte = ascii 'n' then literally ['u', 'l', 'l'] .null
      else if byte = ascii 't' then literally ['r', 'u', 'e'] (.flag true)
      else if byte = ascii 'f' then
        literally ['a', 'l', 's', 'e'] (.flag false)
      else if byte = ascii '-' then numerically (numberBody true rest)
      else if isDigit byte then numerically (numberBody false (byte :: rest))
      else if byte = ascii '"' then
        match textBody rest with
        | .ok (text, _) => named (.text text)
        | .error cause => cause
      else if byte = ascii '[' then named .list
      else if byte = ascii '{' then named .object
      else .expectedValue

/-- A text, named as `expected` in refusals. -/
def Reader.textNamed (expected : String) : Reader String := fun bytes =>
  match skipBlanks bytes with
  | [] => .error (.unfinished .value)
  | byte :: rest =>
      if byte = ascii '"' then textBody rest
      else .error (wrongKind expected (byte :: rest))

/-- A text. -/
def Reader.text : Reader String :=
  Reader.textNamed "a string"

/-- A truth value. -/
def Reader.flag : Reader Bool := fun bytes =>
  match skipBlanks bytes with
  | [] => .error (.unfinished .value)
  | byte :: rest =>
      if byte = ascii 't' then do
        let after ← literal ['r', 'u', 'e'] rest
        return (true, after)
      else if byte = ascii 'f' then do
        let after ← literal ['a', 'l', 's', 'e'] rest
        return (false, after)
      else .error (wrongKind "a boolean" (byte :: rest))

/-- A natural number below a bound, named as `expected` in refusals. -/
def Reader.natural (bound : Nat) (expected : String) : Reader Nat := fun bytes =>
  let bounded (read : Except Cause (Number × Bytes)) :
      Except Cause (Nat × Bytes) :=
    match read with
    | .error cause => .error cause
    | .ok (.natural value, rest) =>
        if value < bound then .ok (value, rest)
        else .error (.outOfRange (.natural value) expected)
    | .ok (.negative value, _) =>
        .error (.outOfRange (.negative value) expected)
    | .ok (.rounded negative magnitude, _) =>
        .error (.wrongKind (.number (.rounded negative magnitude)) expected)
  match skipBlanks bytes with
  | [] => .error (.unfinished .value)
  | byte :: rest =>
      if byte = ascii '-' then bounded (numberBody true rest)
      else if isDigit byte then bounded (numberBody false (byte :: rest))
      else .error (wrongKind expected (byte :: rest))

/-- A number of eight bits. -/
def Reader.byte : Reader UInt8 := fun bytes => do
  let (value, rest) ← Reader.natural UInt8.size "u8" bytes
  return (UInt8.ofNat value, rest)

/-- A number of 64 bits. -/
def Reader.word : Reader UInt64 := fun bytes => do
  let (value, rest) ← Reader.natural UInt64.size "u64" bytes
  return (UInt64.ofNat value, rest)

/-- A value, or nothing for `null`. -/
def Reader.optional {α : Type} (reader : Reader α) : Reader (Option α) :=
  fun bytes =>
    let value : Except Cause (Option α × Bytes) := do
      let (value, rest) ← reader bytes
      return (some value, rest)
    match skipBlanks bytes with
    | [] => value
    | byte :: rest =>
        if byte = ascii 'n' then do
          let after ← literal ['u', 'l', 'l'] rest
          return (none, after)
        else value

/-- The choice that a name stands for. -/
def choose {α : Type} (choices : List (String × α)) (name : String) :
    Except Cause α :=
  match choices.find? (·.1 == name) with
  | some (_, choice) => .ok choice
  | none => .error (.unknownChoice name (choices.map (·.1)))

/-- One of several named choices: its name, or an object whose only member has
that name and the value `null`. -/
def Reader.choice {α : Type} (choices : List (String × α)) : Reader α :=
  fun bytes =>
    match skipBlanks bytes with
    | [] => .error (.unfinished .value)
    | byte :: rest =>
        if byte = ascii '"' then do
          let (name, rest) ← textBody rest
          let choice ← choose choices name
          return (choice, rest)
        else if byte = ascii '{' then do
          let (name, rest) ← Reader.textNamed "variant identifier" rest
          let choice ← choose choices name
          let rest ← colon rest
          let rest ←
            match skipBlanks rest with
            | [] => throw (.unfinished .value)
            | byte :: rest =>
                if byte = ascii 'n' then literal ['u', 'l', 'l'] rest
                else throw (wrongKind "unit" (byte :: rest))
          match skipBlanks rest with
          | [] => throw (.unfinished .object)
          | byte :: rest =>
              if byte = ascii '}' then return (choice, rest)
              else throw .expectedValue
        else .error .expectedValue

/-- A whole text: one value, and nothing but blanks behind it. -/
def Reader.run {α : Type} (reader : Reader α) (bytes : Bytes) :
    Except Cause α := do
  let (value, rest) ← reader bytes
  if (skipBlanks rest).isEmpty then return value
  throw .trailingCharacters

end OrderCustody.Json
