import AuthProfile.Like
import AuthProfile.OrderBy
import AuthProfile.Strip
import AuthProfile.UseCases.Auth

set_option autoImplicit false

namespace AuthProfile

open Relation Process UserRepository

-- str.replace with one character to replace.
def replaceChar (old : Char) (new text : String) : String :=
  String.ofList (text.toList.flatMap fun c => if c = old then new.toList else [c])

def likeFragment (query : String) : String := replaceChar '_' "!_" (replaceChar '%' "!%" (replaceChar '!' "!!" query))

def MIN_QUERY_LENGTH : Nat := 2

def MAX_RESULTS : Nat := 8

def likePattern (pattern : String) : Except Error (List Like.Token) :=
  match Like.parse '!' pattern.toList with
  | none => .error (.data "LIKE pattern must not end with escape character")
  | some tokens => .ok tokens

-- The case rules and the collation are the database's.
section Search

variable {κ : Type} [Preorder κ] {collate : String → κ} (fold : Char → Char)
  (byName : OrderBy fun row : UserRow => collate row.displayName.text)

def searchActive (query : String) (limit : Nat) (excludeUserId : String) : Prog Db Error (List User) :=
  let fragment := likeFragment (strip query)
  let prefixed := fragment ++ "%"
  let word := "% " ++ fragment ++ "%"
  select [prefixed, word, excludeUserId] (fun db : Db => do
    let starting ← likePattern prefixed
    let within ← likePattern word
    let matching := db.users.rows.filter fun row => row.state = .active &&
      (Like.accepts fold starting row.email.text.toList || Like.accepts fold starting row.displayName.text.toList ||
        Like.accepts fold within row.displayName.text.toList) && (excludeUserId = "" || row.id.text ≠ excludeUserId)
    return ((byName.arrange matching).take limit).map toDomainUser) >>= Prog.ofExcept

def suggestRecipients (query excludeUserId : String) : Prog Db Error (List User) :=
  let needle := strip query
  if needle.length < MIN_QUERY_LENGTH then return []
  else searchActive fold byName needle MAX_RESULTS excludeUserId

end Search

-- `lower` is Python's; func.lower is the database's.
def findActiveByDisplayName (dbLower lower : Lower) (displayName : String) : Prog Db Error (List User) :=
  let name := lower (strip displayName)
  select [name] fun db : Db =>
    (db.users.rows.filter fun row => dbLower row.displayName.text = name && row.state = .active).map toDomainUser

def findRecipient (dbLower lower : Lower) (query : String) : Prog Db Error User := do
  let candidate := strip query
  if candidate = "" then .raise (.domain (.recipientNotFound query))
  else if '@' ∈ candidate.toList then do
    match ← getUserByEmail (lower candidate) with
    | none => .raise (.domain (.recipientNotFound candidate))
    | some user => if user.state ≠ .active then .raise (.domain (.recipientNotFound candidate)) else return user
  else do
    match ← findActiveByDisplayName dbLower lower candidate with
    | [] => .raise (.domain (.recipientNotFound candidate))
    | [user] => return user
    | found => .raise (.domain (.recipientNotUnique candidate found.length))

end AuthProfile
