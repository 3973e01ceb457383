/-!
# Named fields

Finite maps from names to values, listed in strictly rising order of the names, so that a map has one listing only.
The order is that of the code points of the names.
-/

namespace Verdict

/-- Names with values. The names rise strictly, and they come after the bound if there is one. -/
inductive Fields (α : Type) : (bound : Option String := none) → Type
  | nil {bound : Option String} : Fields α bound
  | cons {bound : Option String} (name : String) (above : ∀ b ∈ bound, b < name) (value : α)
      (rest : Fields α (some name)) : Fields α bound

namespace Fields

variable {α β : Type}

instance {bound : Option String} : Inhabited (Fields α bound) := ⟨nil⟩

/-- The names with their values, in order. -/
def toList {bound : Option String} : Fields α bound → List (String × α)
  | nil => []
  | cons name _ value rest => (name, value) :: toList rest

/-- The value of a field. -/
def get? {bound : Option String} (name : String) : Fields α bound → Option α
  | nil => none
  | cons key _ value rest => if name = key then some value else get? name rest

def contains (name : String) (fields : Fields α) : Bool := (get? name fields).isSome

/-- Sets a field whose name comes after the bound: in its place among the others, or in place of the value that it
had. -/
def insertAbove {bound : Option String} (name : String) (value : α) (above : ∀ b ∈ bound, b < name) :
    Fields α bound → Fields α bound
  | nil => cons name above value nil
  | cons key habove old rest =>
    if hname : name = key then cons key habove value rest
    else if hlt : name < key then cons name above value (cons key (fun _ hb => Option.some.inj hb ▸ hlt) old rest)
    else
      have hkey : key < name := Std.lt_of_le_of_ne (Std.not_lt.mp hlt) (Ne.symm hname)
      cons key habove old (insertAbove name value (fun _ hb => Option.some.inj hb ▸ hkey) rest)

def insert (name : String) (value : α) (fields : Fields α) : Fields α :=
  insertAbove name value (fun _ hb => nomatch hb) fields

/-- Sets fields one after another, so that of two with one name the later one stays. -/
def insertAll (fields : Fields α) (more : List (String × α)) : Fields α :=
  more.foldl (fun fields (name, value) => insert name value fields) fields

/-- The map of some pairs, the later of two with one name. -/
def ofList (pairs : List (String × α)) : Fields α := insertAll nil pairs

/-- Takes over the fields of another map. -/
def merge (fields more : Fields α) : Fields α := insertAll fields more.toList

/-- A list with something for each field, in order. -/
def map (f : String × α → β) (fields : Fields α) : List β := fields.toList.map f

def names (fields : Fields α) : List String := fields.map Prod.fst

end Fields

end Verdict
