import StyledMap.Table
import StyledMap.Text.Affix
import StyledMap.Text.Alphanumeric

/-! # Values of assigned variables

A value in a file of variables is read one character at a time.

* `AssignedValue.Mode` is what the next character stands inside of: nothing, quotes, an escape,
  the name of another variable, or what follows the value.
* `AssignedValue.valueOf?` is the value of another variable.
* `AssignedValue.step` reads a character, and `AssignedValue.finish?` is the value at the end.
* `AssignedValue.read?` reads a whole value.

A blank ends a value and only a comment may follow it. Single quotes keep everything, double
quotes keep blanks, a backslash keeps the next character, and `$NAME` stands for the value of a
variable. The character that ends such a name is kept as it is, whatever it means elsewhere;
braces around the name avoid that. A name in braces may hold any character. An environment keeps
each variable as one text, `NAME=value`, and a name stands for what follows it and an equals sign
there; so where `X` is `B=C`, the name `X=B` stands for `C`.
-/

set_option autoImplicit false

namespace StyledMap.AssignedValue

/-- What the next character of a value stands inside of. `quoted` tells whether double quotes are
open, and `name` holds a name in reverse. -/
inductive Mode
  | bare
  | single
  | double
  | escape (quoted : Bool)
  | name (quoted : Bool) (name : List Char)
  | braced (quoted : Bool) (name : List Char)
  | ended
  | comment
  deriving DecidableEq, Repr

/-- The mode outside of escapes and names. -/
def Mode.plain (quoted : Bool) : Mode :=
  if quoted then double else bare

/-- A value under way: its mode, and its text in reverse. -/
structure Reading where
  mode : Mode
  text : List Char

def escaped? (c : Char) : Option Char :=
  if c = 'n' then some '\n'
  else if c = '\\' ∨ c = '\'' ∨ c = '"' ∨ c = '$' ∨ c = ' ' then some c
  else none

/-- The value of a variable. Beyond an equals sign a name goes on into the value. -/
def valueOf? (env : Table String) (name : List Char) : Option (List Char) :=
  let (key, beyond) := name.span (· ≠ '=')
  (env.get? (String.ofList key)).bind fun value =>
    match beyond with
    | [] => some value.toList
    | _ :: front => Text.after? (front ++ ['=']) value.toList

/-- Adds the value of a variable to a text, both in reverse. A variable that is not set adds
nothing. -/
def substitute (env : Table String) (name text : List Char) : List Char :=
  ((valueOf? env name.reverse).getD []).reverse ++ text

/-- Reads a character outside of quotes. -/
def stepBare (c : Char) (text : List Char) : Reading :=
  if c = '$' then ⟨.name false [], text⟩
  else if c = '\'' then ⟨.single, text⟩
  else if c = '"' then ⟨.double, text⟩
  else if c = '\\' then ⟨.escape false, text⟩
  else if c = ' ' ∨ c = '\t' then ⟨.ended, text⟩
  else ⟨.bare, c :: text⟩

def stepDouble (c : Char) (text : List Char) : Reading :=
  if c = '$' then ⟨.name true [], text⟩
  else if c = '"' then ⟨.bare, text⟩
  else if c = '\\' then ⟨.escape true, text⟩
  else ⟨.double, c :: text⟩

def stepName (env : Table String) (quoted : Bool) (name : List Char) (c : Char)
    (text : List Char) : Reading :=
  if Text.isAlphanumeric c then ⟨.name quoted (c :: name), text⟩
  else if c = '\x7b' ∧ name = [] then ⟨.braced quoted [], text⟩
  else
    let text := substitute env name text
    if c = '$' then ⟨.name quoted [], text⟩ else ⟨.plain quoted, c :: text⟩

def step (env : Table String) (r : Reading) (c : Char) : Option Reading :=
  match r.mode with
  | .bare => some (stepBare c r.text)
  | .single => some (if c = '\'' then ⟨.bare, r.text⟩ else ⟨.single, c :: r.text⟩)
  | .double => some (stepDouble c r.text)
  | .escape quoted => (escaped? c).map fun e => ⟨.plain quoted, e :: r.text⟩
  | .name quoted name => some (stepName env quoted name c r.text)
  | .braced quoted name =>
    some (if c = '\x7d' then ⟨.plain quoted, substitute env name r.text⟩
      else ⟨.braced quoted (c :: name), r.text⟩)
  | .ended =>
    if c = ' ' ∨ c = '\t' then some r
    else if c = '#' then some ⟨.comment, r.text⟩
    else none
  | .comment => some r

/-- The value at the end of the characters, unless quotes or braces are open. -/
def finish? (env : Table String) (r : Reading) : Option String :=
  match r.mode with
  | .bare | .ended | .comment | .escape false => some (String.ofList r.text.reverse)
  | .name false name => some (String.ofList (substitute env name r.text).reverse)
  | .single | .double | .braced _ _ | .escape true | .name true _ => none

def read? (env : Table String) (cs : List Char) : Option String :=
  (cs.foldlM (step env) ⟨.bare, []⟩).bind (finish? env)

end StyledMap.AssignedValue
