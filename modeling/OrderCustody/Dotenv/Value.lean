import OrderCustody.KeySource.Basic
import OrderCustody.Text.Alphanumeric

namespace OrderCustody.Dotenv

/-!
# Values of an environment file

A value may be quoted in parts, strongly or weakly, may carry escapes, and may
name variables behind a dollar sign, with braces around the name or without.
Behind an unquoted blank only a comment may follow.
-/

/-- How the next character of a value is read. -/
inductive Mode where
  | plain
  /-- Behind a backslash. -/
  | escape
  /-- Inside strong quotes. -/
  | strong
  /-- In a name behind a dollar sign. -/
  | name
  /-- In a name inside braces. -/
  | bracedName
  /-- Behind an unquoted blank. -/
  | ending
  deriving DecidableEq, Repr

/-- A value that is being read. -/
structure Draft where
  mode : Mode
  /-- Whether weak quotes are open. -/
  weak : Bool
  /-- The name of a variable so far. -/
  name : List Char
  output : List Char

namespace Draft

/-- Nothing has been read. -/
def start : Draft where
  mode := .plain
  weak := false
  name := []
  output := []

/-- The value so far with a character that stands for itself. -/
def push (draft : Draft) (c : Char) : Draft :=
  { draft with mode := .plain, output := draft.output ++ [c] }

/-- The value so far with the variable that was named. -/
def substitute (valueOf : String → String) (draft : Draft) : Draft :=
  { draft with
    mode := .plain
    name := []
    output := draft.output ++ (valueOf (String.ofList draft.name)).toList }

/-- A character that starts or ends something, or stands for itself. -/
def plainStep (draft : Draft) (c : Char) : Draft :=
  if c = '$' then { draft with mode := .name }
  else if c = '\\' then { draft with mode := .escape }
  else if draft.weak then
    if c = '"' then { draft with weak := false } else draft.push c
  else if c = '\'' then { draft with mode := .strong }
  else if c = '"' then { draft with weak := true }
  else if c = ' ' ∨ c = '\t' then { draft with mode := .ending }
  else draft.push c

/-- One more character of a value; nothing if it may not stand there. -/
def step? (valueOf : String → String) (draft : Draft) (c : Char) : Option Draft :=
  match draft.mode with
  | .ending => if c = ' ' ∨ c = '\t' then some draft else none
  | .escape =>
      if c = 'n' then some (draft.push '\n')
      else if c = '\\' ∨ c = '\'' ∨ c = '"' ∨ c = '$' ∨ c = ' ' then some (draft.push c)
      else none
  | .strong =>
      if c = '\'' then some { draft with mode := .plain }
      else some { draft with output := draft.output ++ [c] }
  | .name =>
      if Text.isAlphanumeric c then some { draft with name := draft.name ++ [c] }
      else if c = '{' ∧ draft.name = [] then some { draft with mode := .bracedName }
      else
        let substituted := draft.substitute valueOf
        if c = '$' then some { substituted with mode := .name }
        else some (substituted.push c)
  | .bracedName =>
      if c = '}' then some (draft.substitute valueOf)
      else some { draft with name := draft.name ++ [c] }
  | .plain => some (draft.plainStep c)

/-- All characters of a value, up to a comment behind a blank. -/
def run? (valueOf : String → String) (draft : Draft) : List Char → Option Draft
  | [] => some draft
  | c :: rest =>
      if draft.mode = .ending ∧ c = '#' then some draft
      else do
        let next ← draft.step? valueOf c
        next.run? valueOf rest

end Draft

/-- The value that a text denotes, if no quote and no brace is left open. -/
def value? (valueOf : String → String) (text : List Char) : Option String := do
  let draft ← Draft.start.run? valueOf text
  if draft.mode = .strong ∨ draft.mode = .bracedName ∨ draft.weak then none
  else some (String.ofList (draft.substitute valueOf).output)

end OrderCustody.Dotenv
