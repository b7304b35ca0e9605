/-! # Store keys

Every entry of the session store belongs to one subject and has a key of the form
`namespace:subject:id`:

* `access:{subject}:{session}` and `refresh:{subject}:{session}` hold the identifier of the one live
  token of their kind in the session;
* `family:{subject}:{family}` says that a line of refresh tokens is still good;
* `used:{subject}:{token}` fences a refresh token that has been used up;
* `redeemed:{subject}:{digest}` says that a reset token has been redeemed.
-/

namespace SessionTokens

/-- The first part of a key. -/
inductive Namespace where
  | access
  | refresh
  | family
  | used
  | redeemed
deriving DecidableEq, Repr

namespace Namespace

/-- The namespace as keys spell it. -/
def name : Namespace → String
  | .access => "access"
  | .refresh => "refresh"
  | .family => "family"
  | .used => "used"
  | .redeemed => "redeemed"

/-- The namespaces that hold a subject's sessions. -/
def session : List Namespace := [.access, .refresh, .family, .used]

end Namespace

namespace Key

/-- What every key of a subject in a namespace starts with. -/
def lead (ns subject : String) : String := ns ++ ":" ++ subject ++ ":"

/-- The key of an entry. -/
def make (ns subject id : String) : String := lead ns subject ++ id

/-- The key of a session's live access token. -/
def access (subject session : String) : String := make Namespace.access.name subject session

/-- The key of a session's live refresh token. -/
def refresh (subject session : String) : String := make Namespace.refresh.name subject session

/-- The key of a family of refresh tokens. -/
def family (subject family : String) : String := make Namespace.family.name subject family

/-- The key of the fence of a used refresh token. -/
def used (subject token : String) : String := make Namespace.used.name subject token

/-- The key of a redeemed reset token. -/
def redeemed (subject digest : String) : String := make Namespace.redeemed.name subject digest

/-- What a family's key holds. -/
def familyMark : String := "active"

/-- What a fence's key holds. -/
def usedMark : String := "used"

/-- What the key of a redeemed token holds. -/
def redeemedMark : String := "redeemed"

/-- The characters that mean something in a glob pattern. -/
def isMeta (c : Char) : Bool :=
  c = '*' || c = '?' || c = '[' || c = ']' || c = '\\' || c = '^'

/-- A text as a pattern that means just it, over its characters. -/
def escapeChars : List Char → List Char
  | [] => []
  | c :: cs => if isMeta c then '\\' :: c :: escapeChars cs else c :: escapeChars cs

/-- A text as a pattern that means just it. -/
def escapeGlob (raw : String) : String := String.ofList (escapeChars raw.toList)

/-- The pattern of every key of a subject in a namespace. -/
def subjectPattern (ns subject : String) : String := ns ++ ":" ++ escapeGlob subject ++ ":*"

/-- The key is one of this subject's own: nothing but an identifier, with no colon in it, follows
the lead. A subject that goes on with a colon has keys with the same lead, and they are not
its own. -/
def belongsTo (key ns subject : String) : Bool :=
  let lead := (lead ns subject).toList
  lead.isPrefixOf key.toList &&
    let id := key.toList.drop lead.length
    !id.isEmpty && !id.contains ':'

end Key

end SessionTokens
