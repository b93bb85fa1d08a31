import FieldSelect.Text.Case
import FieldSelect.Text.Pieces

/-! The guide to the language of filters, an overview and a text for each topic. -/
namespace FieldSelect

inductive Topic where
  | selectors
  | wildcards
  | functions
  | views
  | stages
  deriving DecidableEq

/-- A name that no topic has. -/
structure UnknownTopic where
  name : String
  deriving DecidableEq

def UnknownTopic.message (error : UnknownTopic) : String :=
  "Unknown category: '" ++ error.name ++ "'\nRun 'prune docs' to see available categories."

namespace Guide

/-- Letters of either case, and dashes for underscores, make no difference. -/
def read (name : String) : Except UnknownTopic Topic :=
  match replaceText "-" "_" (lowerText name) with
  | "syntax" => .ok .selectors
  | "wildcards" | "wildcard" | "patterns" => .ok .wildcards
  | "functions" | "function" | "fns" => .ok .functions
  | "views" | "view" => .ok .views
  | "stages" | "stage" | "pipes" => .ok .stages
  | _ => .error ⟨name⟩

def overview : String :=
"PRUNE DOCUMENTATION

Prune is a field-selection language. A filter names the fields of a JSON
document to keep, how deep to descend into them, and how to rewrite their
keys and values on the way out.

DOCUMENTATION CATEGORIES

  syntax            Selectors, nesting, negation, and dotted paths
  wildcards         *, **, depth bounds, globs, regexes, and variables
  functions         Key and value functions and the built-in library
  views             Named property groups of typed records
  stages            Sequential filter passes separated by |

QUICK REFERENCE

  id,name           Keep id and name
  owner\x7bemail\x7d      Keep owner, and only its email
  owner\x7b\x7d           Keep owner but none of its fields
  -secret           Keep everything except secret
  a.b               Same as a\x7bb\x7d
  **\x7b1,3\x7d           Any field one or two levels down
  name.upper()      Transform a value
  name:upper()      Transform a key
  id | **           Run a second pass over the output

Run 'prune doc <category>' for detailed documentation.
"

def selectors : String :=
"SYNTAX - Selectors and Nesting

FIELD SELECTION
  id,name
    Keep the named fields. Everything else is dropped. A kept field keeps
    everything beneath it.

    Example:
      Input:  \x7b\"id\": 1, \"name\": \"Ada\", \"token\": \"x\"\x7d
      Filter: id,name
      Output: \x7b\"id\": 1, \"name\": \"Ada\"\x7d

NESTED SELECTION
  owner\x7bemail,name\x7d
    Keep owner, and within it only email and name.

    Example:
      Input:  \x7b\"owner\": \x7b\"email\": \"a@b.c\", \"name\": \"Ada\", \"hash\": \"...\"\x7d\x7d
      Filter: owner\x7bemail\x7d
      Output: \x7b\"owner\": \x7b\"email\": \"a@b.c\"\x7d\x7d

  owner\x7b\x7d
    Keep owner but descend no further. An object becomes \x7b\x7d, a list of
    objects a list of \x7b\x7d, and a scalar is kept as it is.

    Example:
      Input:  \x7b\"owner\": \x7b\"email\": \"a@b.c\"\x7d, \"id\": 1\x7d
      Filter: owner\x7b\x7d
      Output: \x7b\"owner\": \x7b\x7d\x7d

DOTTED PATHS
  owner.email
    Shorthand for owner\x7bemail\x7d. Sibling paths with the same head merge:
    owner.email,owner.name is owner\x7bemail,name\x7d.

NEGATION
  -token
    Drop token. A block containing only negated selectors keeps everything
    else, so -token alone means \"all fields but token\".

    Example:
      Input:  \x7b\"id\": 1, \"token\": \"x\"\x7d
      Filter: -token
      Output: \x7b\"id\": 1\x7d

  Constraints:
    - The most specific matching selector decides: \x7bid,-*\x7d keeps id
    - Equally specific selectors: the first one written wins

NAMES
  Plain names use letters, digits, _, $ and -. Quote anything else:
    \"display name\",'x.y'
"

def wildcards : String :=
"WILDCARDS - Patterns and Depth

ANY FIELD
  *
    Any field at this level.

  **
    Any field at any depth. An empty filter means **.

DEPTH BOUNDS
  **\x7bmin,max\x7d
    Any field from min levels below the declaration, up to but not
    including max. **\x7bn\x7d and **\x7bn,\x7d only set the minimum.

    Example:
      Input:  \x7b\"v\": \x7b\"x\": 1, \"y\": \x7b\"p\": \x7b\"q\": 1\x7d\x7d\x7d, \"w\": 1\x7d
      Filter: v\x7bx\x7d,**\x7b1,3\x7d
      Output: \x7b\"v\": \x7b\"x\": 1, \"y\": \x7b\"p\": \x7b\x7d\x7d\x7d\x7d

GLOBS
  na*e, *Id
    * inside a name matches any run of characters.

REGEXES
  ~user_.+~
  ~ID~i
    Full-match regular expression; the trailing i ignores case.

VARIABLES
  @field
    The field named by the request variable 'field'. Unbound variables act
    like *.

    Example:
      prune check '@f' --var f=name --input '\x7b\"id\": 1, \"name\": \"Ada\"\x7d'
      => \x7b\"name\": \"Ada\"\x7d

PRECEDENCE
  exact name > glob or regex (longer literal text first) > * > **
"

def functions : String :=
"FUNCTIONS - Rewriting Keys and Values

VALUE FUNCTIONS
  name.upper()
  name[upper()]
  name[trim().upper()]
    Run after the field's own projection, left to right.

KEY FUNCTIONS
  name:upper()
    Rewrite the emitted key. Key functions must return a string.

ARGUMENTS
  \"text\"  'text'  42  -1  2.5  true  false  null  @variable

STRING FUNCTIONS
  reverse()             Reverse characters
  upper() / lower()     Change case
  trim()                Strip surrounding whitespace
  split(sep)            Split into an array
  substring(start)      Characters from start
  substring(start,end)  Characters in [start, end)
  replace(from,to)      Replace every occurrence
  matches(regex)        true when the regex matches anywhere
  prefix(text)          Prepend text
  suffix(text)          Append text

COLLECTION FUNCTIONS
  length() / size()     Length of a string, array or object
  reverse()             Reverse an array
  first() / last()      First or last element, or null
  sort()                Sort ascending
  unique()              Drop duplicates
  flatten()             Flatten one level
  join(sep)             Join elements into a string
  keys() / values()     Keys or values of an object

NULLS
  default(value)        Replace null with value

  Constraints:
    - An unknown function is an error, reported with its position
    - The overload is chosen by the types of the input and arguments
"

def views : String :=
"VIEWS - Property Groups of Typed Records

Typed records declare which of their properties belong to which views.

BASE VIEW
  Properties that declare no view belong to 'base'. Records are projected
  with the base view unless another view is requested:

    prune check '*' --view detail

INHERITANCE
  Other views also contain the base properties. The 'full' view always
  does, and when no property declares 'full' it contains every property.

SELECTING A VIEW
  id,detail
    A selector naming a view adds that view's properties to the record.

UNWRAPPED PROPERTIES
  A property marked unwrapped contributes its own fields to its parent
  instead of appearing as a nested object.
"

def stages : String :=
"STAGES - Sequential Passes

  stage | stage | ...
    Each stage runs over the output of the previous one.

    Example:
      Input:  \x7b\"id\": 1, \"name\": \"abc\", \"token\": \"x\"\x7d
      Filter: id,name | **,name.reverse()
      Output: \x7b\"id\": 1, \"name\": \"cba\"\x7d

  An empty stage means **, so 'id |' is the same as 'id'.
"

def text : Topic → String
  | .selectors => selectors
  | .wildcards => wildcards
  | .functions => functions
  | .views => views
  | .stages => stages

/-- The text of the topic with a given name. -/
def topicText (name : String) : Except UnknownTopic String := (read name).map text

end Guide
end FieldSelect
