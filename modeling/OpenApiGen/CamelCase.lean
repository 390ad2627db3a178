import OpenApiGen.UnicodeCase

/-! # Words of a text and their camel case -/

namespace OpenApiGen.CamelCase
open Unicode

/-- The last character with case that was passed in the current word. -/
inductive Mode
  | boundary | lower | upper
deriving DecidableEq

def Mode.after (mode : Mode) (c : Char) : Mode :=
  if isLowercase c then .lower else if isUppercase c then .upper else mode

/-- The words of a run of letters and digits. A word ends before an upper-case letter behind a
lower-case one, and before the last of several upper-case letters where a lower-case one follows.
`word` holds the current word, last character first. -/
def splitWords (mode : Mode) (word : List Char) : List Char → List (List Char)
  | [] => []
  | [c] => [(c :: word).reverse]
  | c :: next :: rest =>
    if mode.after c = .lower ∧ isUppercase next then
      (c :: word).reverse :: splitWords .boundary [] (next :: rest)
    else if mode = .upper ∧ isUppercase c ∧ isLowercase next then
      word.reverse :: splitWords .boundary [c] (next :: rest)
    else splitWords (mode.after c) (c :: word) (next :: rest)

def words (cs : List Char) : List (List Char) :=
  (cs.splitOnP (!isAlphanumeric ·)).flatMap (splitWords .boundary [])

/-- A capital sigma at the end becomes the final form. -/
def lowerWord : List Char → List Char
  | [] => []
  | ['Σ'] => ['ς']
  | c :: rest => lowerChar c ++ lowerWord rest

def capitalWord : List Char → List Char
  | [] => []
  | c :: rest => upperChar c ++ lowerWord rest

/-- The first word in lower case, all others with a capital. -/
def lowerCamel (cs : List Char) : List Char :=
  match words cs with
  | [] => []
  | first :: rest => lowerWord first ++ rest.flatMap capitalWord

end OpenApiGen.CamelCase
