/-!
Lists of pairs kept in ascending order of their keys, each key at most once.
-/

namespace Compliance.Keyed

variable {α : Type}

def insert (key : String) (value : α) : List (String × α) → List (String × α)
  | [] => [(key, value)]
  | (other, kept) :: rest =>
      if key < other then (key, value) :: (other, kept) :: rest
      else if key = other then (key, value) :: rest
      else (other, kept) :: insert key value rest

def get? (key : String) (entries : List (String × α)) : Option α :=
  entries.lookup key

def keys (entries : List (String × α)) : List String :=
  entries.map Prod.fst

/-- Later entries win over earlier ones with the same key. -/
def ofList (entries : List (String × α)) : List (String × α) :=
  entries.foldl (fun sorted entry => insert entry.1 entry.2 sorted) []

end Compliance.Keyed
