import SessionTokens.Password.Wordlist.Names
import SessionTokens.Password.Wordlist.Passwords
import SessionTokens.Password.Wordlist.Phrases
import SessionTokens.Password.Wordlist.Plain

/-! # The list of words

Words that are tried first when a password is guessed.
-/

namespace SessionTokens.Password

/-- A word with its place in the list, from one on. -/
structure ListedWord where
  place : Nat
  letters : List Char
deriving DecidableEq, Repr

/-- The words in lower case, in the order in which they are tried. -/
def wordlist : List ListedWord :=
  ((Wordlist.passwords ++ Wordlist.phrases ++ Wordlist.names ++ Wordlist.plain).zipIdx 1).map
    fun w => ⟨w.2, w.1.toList⟩

end SessionTokens.Password
