/-! Variables and their values. -/
namespace NumberedBasic

/-- Names in the order of their first assignment. -/
structure Store where
  entries : List (String × Int64)
  deriving DecidableEq, Repr

namespace Store

def empty : Store := ⟨[]⟩

def getEntry (name : String) : List (String × Int64) → Option Int64
  | [] => none
  | (key, value) :: rest => if name = key then some value else getEntry name rest

def get? (s : Store) (name : String) : Option Int64 := getEntry name s.entries

def setEntry (name : String) (value : Int64) : List (String × Int64) → List (String × Int64)
  | [] => [(name, value)]
  | (key, old) :: rest =>
      if name = key then (key, value) :: rest else (key, old) :: setEntry name value rest

def set (s : Store) (name : String) (value : Int64) : Store := ⟨setEntry name value s.entries⟩

@[simp] theorem get?_empty (name : String) : empty.get? name = none := rfl

/-- An assignment changes the one variable it names. -/
theorem get?_set (s : Store) (name other : String) (value : Int64) :
    (s.set name value).get? other = if other = name then some value else s.get? other := by
  obtain ⟨entries⟩ := s
  simp only [get?, set]
  induction entries with
  | nil => by_cases h : other = name <;> simp [setEntry, getEntry, h]
  | cons entry rest ih =>
      obtain ⟨key, old⟩ := entry
      by_cases hk : name = key
      · by_cases h : other = key <;> simp [setEntry, getEntry, hk, h]
      · by_cases h : other = key
        · simp [setEntry, getEntry, hk, h, Ne.symm hk]
        · simp [setEntry, getEntry, hk, h, ih]

end Store

end NumberedBasic
