/-! # The user directory

The accounts that tokens are issued to, by identifier.
-/

namespace SessionTokens

/-- An account. -/
structure User where
  id : String
  email : String
  passwordHash : String
  isActive : Bool
  isVerified : Bool
deriving DecidableEq, Repr

/-- The accounts by identifier. -/
structure Directory where
  find? : String → Option User

namespace Directory

/-- A directory without accounts. -/
def empty : Directory := ⟨fun _ => none⟩

instance : Inhabited Directory := ⟨empty⟩

/-- Sets or removes the account of an identifier. -/
def put (d : Directory) (id : String) (u : Option User) : Directory :=
  ⟨fun key => if key = id then u else d.find? key⟩

@[simp] theorem find?_put_self (d : Directory) (id : String) (u : Option User) :
    (d.put id u).find? id = u := by simp [put]

theorem find?_put_of_ne {d : Directory} {id key : String} {u : Option User} (h : key ≠ id) :
    (d.put id u).find? key = d.find? key := by simp [put, h]

/-- Changes an account, if there is one, and tells whether there was. -/
def update (d : Directory) (id : String) (f : User → User) : Bool × Directory :=
  match d.find? id with
  | some u => (true, d.put id (some (f u)))
  | none => (false, d)

end Directory

/-- The calls that a directory answers. -/
inductive DirectoryCall where
  | find
  | updateHash
  | markVerified
deriving DecidableEq, Repr

end SessionTokens
