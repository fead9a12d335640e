import OrderCustody.Json.Lexer

namespace OrderCustody.Json

/-!
# Values that are not read

A member that no record asks for is passed over.  Its value has to follow the
grammar and may nest to any depth; texts are not checked to be Unicode, halves
of surrogate pairs may stand alone, and numbers may have any size.  Open lists
and objects are kept on a stack.
-/

/-- Pass over an escape, from behind the backslash. -/
def skipEscape : Bytes → Except Cause Bytes
  | [] => .error (.unfinished .text)
  | letter :: rest =>
      if (simpleEscape? letter).isSome then .ok rest
      else if letter = ascii 'u' then
        match hexEscape rest with
        | .error cause => .error cause
        | .ok (_, after) => .ok after
      else .error .invalidEscape

theorem length_skipEscape_lt
    {bytes rest : Bytes}
    (skipped : skipEscape bytes = .ok rest) :
    rest.length < bytes.length := by
  unfold skipEscape at skipped
  split at skipped
  · cases skipped
  · split at skipped
    · cases skipped
      simp
    · split at skipped
      · split at skipped
        · cases skipped
        · next hex =>
            cases skipped
            have shorter := length_hexEscape_lt hex
            simp only [List.length_cons]
            omega
      · cases skipped

/-- Pass over a text, from behind its opening quote. -/
def skipText : Bytes → Except Cause Bytes
  | [] => .error (.unfinished .text)
  | byte :: rest =>
      if byte = ascii '"' then .ok rest
      else if byte = ascii '\\' then
        match _skipped : skipEscape rest with
        | .error cause => .error cause
        | .ok after => skipText after
      else if byte < 0x20 then .error .controlCharacter
      else skipText rest
termination_by bytes => bytes.length
decreasing_by
  · have shorter := length_skipEscape_lt _skipped
    simp only [List.length_cons]
    omega
  · simp

/-- Pass over one digit or more. -/
def skipDigits : Bytes → Except Cause Bytes
  | [] => .error .invalidNumber
  | byte :: rest =>
      if isDigit byte then .ok (rest.dropWhile isDigit)
      else .error .invalidNumber

/-- Pass over an exponent, if there is one. -/
def skipExponent : Bytes → Except Cause Bytes
  | [] => .ok []
  | byte :: rest =>
      if byte = ascii 'e' ∨ byte = ascii 'E' then
        match rest with
        | sign :: digits =>
            if sign = ascii '+' ∨ sign = ascii '-' then skipDigits digits
            else skipDigits rest
        | [] => .error .invalidNumber
      else .ok (byte :: rest)

/-- Pass over a fraction and an exponent, if there are any. -/
def skipFraction : Bytes → Except Cause Bytes
  | [] => .ok []
  | byte :: rest =>
      if byte = ascii '.' then
        match skipDigits rest with
        | .error cause => .error cause
        | .ok after => skipExponent after
      else skipExponent (byte :: rest)

/-- Pass over a number, from behind its sign. -/
def skipNumber : Bytes → Except Cause Bytes
  | [] => .error .invalidNumber
  | first :: rest =>
      if first = ascii '0' then
        match rest with
        | digit :: _ =>
            if isDigit digit then .error .invalidNumber else skipFraction rest
        | [] => .ok []
      else if isDigit first then skipFraction (rest.dropWhile isDigit)
      else .error .invalidNumber

/-- A list or an object that has been opened. -/
inductive Frame where
  | list
  | object
  deriving DecidableEq, Repr

namespace Frame

/-- The byte that closes a frame. -/
def closing : Frame → UInt8
  | list => ascii ']'
  | object => ascii '}'

/-- Why a text may not end inside a frame. -/
def unfinished : Frame → Cause
  | list => .unfinished .list
  | object => .unfinished .object

/-- Why something other than a comma or the end may not follow a value. -/
def expectedComma : Frame → Cause
  | list => .expectedCommaOrBracket
  | object => .expectedCommaOrBrace

end Frame

/-- Pass over a colon, from before it. -/
def colon (bytes : Bytes) : Except Cause Bytes :=
  match skipBlanks bytes with
  | [] => .error (.unfinished .object)
  | byte :: rest =>
      if byte = ascii ':' then .ok rest else .error .expectedColon

/-- Pass over the key and colon that come before a value in an object. -/
def skipKey : Frame → Bytes → Except Cause Bytes
  | .list, bytes => .ok bytes
  | .object, bytes =>
      match skipBlanks bytes with
      | [] => .error (.unfinished .object)
      | byte :: rest =>
          if byte = ascii '"' then
            match skipText rest with
            | .error cause => .error cause
            | .ok after => colon after
          else .error .keyNotText

/-- Close every frame that ends here.  The remaining frames are those inside
which another value follows; `afterValue` says whether a value came before. -/
def closeFrames (afterValue : Bool) :
    List Frame → Bytes → Except Cause (List Frame × Bytes)
  | [], bytes => .ok ([], bytes)
  | frame :: stack, bytes =>
      match skipBlanks bytes with
      | [] => .error frame.unfinished
      | byte :: rest =>
          if byte = frame.closing then closeFrames true stack rest
          else if !afterValue then do
            let after ← skipKey frame (byte :: rest)
            return (frame :: stack, after)
          else if byte = ascii ',' then do
            let after ← skipKey frame rest
            return (frame :: stack, after)
          else .error frame.expectedComma

/-- Pass over a literal, number or text, or open a list or an object. -/
def skipAtom (stack : List Frame) : Bytes → Except Cause (List Frame × Bytes)
  | [] => .error (.unfinished .value)
  | byte :: rest =>
      let atom (skipped : Except Cause Bytes) :=
        match skipped with
        | .error cause => .error cause
        | .ok after => closeFrames true stack after
      if byte = ascii 'n' then atom (literal ['u', 'l', 'l'] rest)
      else if byte = ascii 't' then atom (literal ['r', 'u', 'e'] rest)
      else if byte = ascii 'f' then atom (literal ['a', 'l', 's', 'e'] rest)
      else if byte = ascii '-' then atom (skipNumber rest)
      else if isDigit byte then atom (skipNumber (byte :: rest))
      else if byte = ascii '"' then atom (skipText rest)
      else if byte = ascii '[' then closeFrames false (.list :: stack) rest
      else if byte = ascii '{' then closeFrames false (.object :: stack) rest
      else .error .expectedValue

/-- Pass over values until every frame is closed, at most `steps` of them. -/
def skipValues : (steps : Nat) → List Frame → Bytes → Except Cause Bytes
  | 0, _, _ => .error (.unfinished .value)
  | steps + 1, stack, bytes =>
      match skipAtom stack (skipBlanks bytes) with
      | .error cause => .error cause
      | .ok ([], rest) => .ok rest
      | .ok (frame :: frames, rest) => skipValues steps (frame :: frames) rest

/-- Pass over a value.  Each step takes at least one byte, so the length of the
text bounds their number. -/
def skipValue (bytes : Bytes) : Except Cause Bytes :=
  skipValues (bytes.length + 1) [] bytes

end OrderCustody.Json
