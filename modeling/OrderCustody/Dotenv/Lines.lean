import OrderCustody.Bytes.Basic
import OrderCustody.Text.Blank

namespace OrderCustody.Dotenv

/-!
# Lines of an environment file

A line goes on in the next one while a quote is open or an escape waits for its
character.  A comment behind a single blank ends the line, and a line that is
nothing but a comment is empty.
-/

/-- What the end of a line so far leaves open. -/
inductive Openness where
  /-- Nothing is open. -/
  | closed
  /-- The last character was a blank. -/
  | blank
  /-- The last character was a backslash outside quotes. -/
  | escape
  | strong
  | strongEscape
  | weak
  | weakEscape
  /-- A comment has started. -/
  | comment
  deriving DecidableEq, Repr

/-- What is open behind a character. -/
def Openness.next (openness : Openness) (c : Char) : Openness :=
  match openness with
  | .comment => .comment
  | .escape => .closed
  | .weakEscape => .weak
  | .strongEscape => .strong
  | .weak => if c = '\\' then .weakEscape else if c = '"' then .closed else .weak
  | .strong => if c = '\\' then .strongEscape else if c = '\'' then .closed else .strong
  | .blank =>
      if c = '#' then .comment
      else if c = '\\' then .escape
      else if c = '"' then .weak
      else if c = '\'' then .strong
      else .closed
  | .closed =>
      if Text.isBlank c ∧ c ≠ '\n' ∧ c ≠ '\r' then .blank
      else if c = '\\' then .escape
      else if c = '"' then .weak
      else if c = '\'' then .strong
      else .closed

/-- Read one written line: what stands in front of a comment, and what is open
behind it. -/
def scan : Openness → List Char → List Char × Openness
  | openness, [] => ([], openness)
  | openness, c :: rest =>
      match openness.next c with
      | .comment => ([], .comment)
      | next =>
          let (before, last) := scan next rest
          (c :: before, last)

/-- The written lines of a file, each with its line feed. -/
def written (bytes : Bytes) : List Bytes :=
  let (first, lines) := bytes.foldr
    (fun byte (current, lines) =>
      if byte = 10 then ([byte], if current.isEmpty then lines else current :: lines)
      else (byte :: current, lines))
    ([], [])
  if first.isEmpty then lines else first :: lines

/-- The written lines in front of the first that holds bytes that are no text. -/
def readable : List Bytes → List (List Char)
  | [] => []
  | line :: lines =>
      match line.toText? with
      | some text => text.toList :: readable lines
      | none => []

/-- The bytes of a file without the mark that some editors put in front. -/
def withoutMark : Bytes → Bytes
  | 0xef :: 0xbb :: 0xbf :: rest => rest
  | bytes => bytes

/-- A line without its line feed, and without the carriage return in front of
that. -/
def withoutEnd (line : List Char) : List Char :=
  match line.reverse with
  | '\n' :: '\r' :: rest => rest.reverse
  | '\n' :: rest => rest.reverse
  | _ => line

/-- Whether a line is nothing but a comment. -/
def isComment (line : List Char) : Bool :=
  (Text.trimStart line).head? == some '#'

/-- The lines that go together, with those read before; nothing for a last line
that is left open. -/
def join : List Char → Openness → List (List Char) → List (Option (List Char))
  | _, .closed, [] => []
  | _, _, [] => [none]
  | before, openness, line :: lines =>
      let whole := before ++ line
      if isComment whole then some [] :: join [] .closed lines
      else
        match scan openness line with
        | (_, .closed) => some (withoutEnd whole) :: join [] .closed lines
        | (kept, .comment) => some (before ++ kept) :: join [] .closed lines
        | (_, next) => join whole next lines

/-- The lines of a file, those that a quote or a backslash leaves open joined with what
follows them. -/
def lines (bytes : Bytes) : List (Option (List Char)) :=
  join [] .closed (readable (written (withoutMark bytes)))

end OrderCustody.Dotenv
