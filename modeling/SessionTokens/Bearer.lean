import SessionTokens.Text.Blank

/-! # Bearer values

A token may be presented as the value of an authorization header: with white space around it, and
after the scheme `Bearer` in any case. `token` gives the token itself.
-/

namespace SessionTokens.Bearer

/-- The scheme and the space after it, in lower case. -/
def scheme : List Char := ['b', 'e', 'a', 'r', 'e', 'r', ' ']

/-- What follows the scheme, if the text starts with it. -/
def afterScheme? (cs : List Char) : Option (List Char) :=
  if (cs.take scheme.length).map Char.toLower = scheme then some (cs.drop scheme.length) else none

/-- The token of a presented value, over its characters. -/
def strip (cs : List Char) : List Char :=
  match afterScheme? (Text.trim cs) with
  | some rest => Text.trimStart rest
  | none => Text.trim cs

/-- The token of a presented value. -/
def token (raw : String) : String := String.ofList (strip raw.toList)

end SessionTokens.Bearer
