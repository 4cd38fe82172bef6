import AuthProfile.Domain.Auth
import AuthProfile.Process.Server
import AuthProfile.Process.Wp

/- A model of the tables, not of SQLAlchemy or PostgreSQL. What they do with a text is a premise:
   a String(n) column drops the spaces past its n-th character and refuses a text with anything else
   there; U+0000 is refused wherever it comes, also in the parameter of a WHERE; an Integer column
   refuses what four bytes do not hold. A text is a list of Unicode scalar values: the lone surrogates
   that a Python str can hold have no value here, and asyncpg cannot encode them. JSON numbers are
   integers where this service writes them; what json.loads makes of any other text is a parameter of
   the relay. Time is exact. Locks, connection pools and deadlines are not modelled. -/

set_option autoImplicit false

namespace AuthProfile

open Process

-- What a program can raise: a domain error, or something of the layers below.
-- `connection` stands for every failure the surroundings inject, `notAMember` for the ValueError
-- of an enumeration, whose message is made of the two.
inductive Error where
  | domain (error : DomainError)
  | profileNotFound (userId : String)
  | http (status : Nat) (detail : String)
  | integrity (constraint : String)
  | data (column : String)
  | stale (table : String)
  | attribute (text : String)
  | key (name : String)
  | value (message : String)
  | notAMember (enumeration value : String)
  | malformedEnvelope (message : String)
  | multipleResults
  | cache (message : String)
  | jsonDecode (text : String)
  | unicodeDecode
  | kafka
  | missingGreenlet
  | connection
deriving DecidableEq, Repr

def Storable (text : String) : Prop := '\x00' ∉ text.toList

instance (text : String) : Decidable (Storable text) := inferInstanceAs (Decidable (¬ _))

-- A text that a String(n) column keeps as it is.
def Varchar.Fits (width : Nat) (text : String) : Prop := text.length ≤ width ∧ Storable text

instance (width : Nat) (text : String) : Decidable (Varchar.Fits width text) := inferInstanceAs (Decidable (_ ∧ _))

structure Varchar (width : Nat) where
  text : String
  fits : Varchar.Fits width text
deriving DecidableEq, Repr

namespace Varchar

def cut (width : Nat) (text : String) : String := String.ofList (text.toList.take width)

def Takes (width : Nat) (text : String) : Prop := Storable text ∧ ∀ c ∈ text.toList.drop width, c = ' '

-- Only the characters of the text are gone through.
instance (width : Nat) (text : String) : Decidable (Takes width text) :=
  @instDecidableAnd _ _ _ (List.decidableBAll _ _)

theorem cut_fits (width : Nat) (text : String) (storable : Storable text) : Fits width (cut width text) := by
  refine ⟨?_, fun here => storable ?_⟩
  · rw [cut, String.length_ofList]
    exact List.length_take_le width text.toList
  · rw [cut, String.toList_ofList] at here
    exact List.mem_of_mem_take here

@[simp] theorem cut_short (width : Nat) (text : String) (short : text.length ≤ width) : cut width text = text := by
  apply String.toList_inj.mp
  rw [cut, String.toList_ofList, List.take_of_length_le]
  rw [String.length_toList]
  exact short

theorem cut_not_empty (width : Nat) (text : String) (some : 0 < width) (given : text ≠ "") : cut width text ≠ "" := by
  intro empty
  have nothing : text.toList.take width = [] := by
    rw [← String.toList_ofList (l := text.toList.take width)]
    exact congrArg String.toList empty
  rcases List.take_eq_nil_iff.mp nothing with none | none
  · omega
  · exact given (String.toList_inj.mp none)

theorem takes_fits (width : Nat) (text : String) (fits : Fits width text) : Takes width text := by
  refine ⟨fits.2, fun c member => ?_⟩
  rw [List.drop_of_length_le] at member
  · cases member
  · rw [String.length_toList]
    exact fits.1

-- VARCHAR(n): the spaces past the width are dropped without a word.
def store (width : Nat) (column text : String) : Except Error (Varchar width) :=
  if takes : Takes width text then .ok ⟨cut width text, cut_fits width text takes.1⟩ else .error (.data column)

def storeOption (width : Nat) (column : String) : Option String → Except Error (Option (Varchar width))
  | none => .ok none
  | some text => (store width column text).map some

def change (width : Nat) (column : String) (old : Varchar width) : Option String → Except Error (Varchar width)
  | none => .ok old
  | some text => store width column text

def changeOption (width : Nat) (column : String) (old : Option (Varchar width)) :
    Option (Option String) → Except Error (Option (Varchar width))
  | none => .ok old
  | some value => storeOption width column value

theorem ext (width : Nat) (a b : Varchar width) (same : a.text = b.text) : a = b := by
  cases a
  cases b
  cases same
  rfl

theorem store_ok (width : Nat) (column text : String) (stored : Varchar width) :
    store width column text = .ok stored ↔ Takes width text ∧ stored.text = cut width text := by
  by_cases takes : Takes width text
  · rw [store, dif_pos takes, Except.ok.injEq]
    exact ⟨fun same => ⟨takes, same ▸ rfl⟩, fun ⟨_, same⟩ => ext width _ _ same.symm⟩
  · rw [store, dif_neg takes]
    exact ⟨(fun refused => nomatch refused), fun ⟨wrong, _⟩ => absurd wrong takes⟩

theorem store_fits (width : Nat) (column text : String) (fits : Fits width text) :
    store width column text = .ok ⟨text, fits⟩ :=
  (store_ok width column text _).mpr ⟨takes_fits width text fits, (cut_short width text fits.1).symm⟩

theorem store_text (width : Nat) (column : String) (stored : Varchar width) :
    store width column stored.text = .ok stored := store_fits width column stored.text stored.fits

theorem cut_text (width : Nat) (stored : Varchar width) : cut width stored.text = stored.text :=
  cut_short width stored.text stored.fits.1

end Varchar

end AuthProfile
