/-!
# Dictionaries in order of insertion

A dictionary lists its entries in the order in which their keys first came.
Giving a key a new value keeps its place.

**Main statements.**  A look-up after an insertion, and the keys after an
insertion.
-/

namespace Literate

/-- A finite map whose entries stand in the order in which their keys were first inserted. -/
structure Dictionary (κ ν : Type) where
  /-- The entries in order, each key once. -/
  entries : List (κ × ν) := []
deriving DecidableEq, Inhabited

namespace Dictionary

variable {κ ν : Type} [DecidableEq κ]

/-- The dictionary without entries. -/
def empty : Dictionary κ ν := ⟨[]⟩

/-- The value of a key in a list of entries. -/
def lookup (k : κ) : List (κ × ν) → Option ν
  | [] => none
  | (k', v) :: rest => if k' = k then some v else lookup k rest

/-- The entries after giving a key a value. -/
def put (k : κ) (v : ν) : List (κ × ν) → List (κ × ν)
  | [] => [(k, v)]
  | (k', v') :: rest => if k' = k then (k', v) :: rest else (k', v') :: put k v rest

/-- The value of a key. -/
def get? (d : Dictionary κ ν) (k : κ) : Option ν :=
  lookup k d.entries

/-- Whether the key has a value. -/
def contains (d : Dictionary κ ν) (k : κ) : Bool :=
  (d.get? k).isSome

/-- The dictionary after giving a key a value: a known key keeps its place, a new one comes last. -/
def insert (d : Dictionary κ ν) (k : κ) (v : ν) : Dictionary κ ν :=
  ⟨put k v d.entries⟩

/-- The dictionary after giving a key a value unless it has one. -/
def insertIfNew (d : Dictionary κ ν) (k : κ) (v : ν) : Dictionary κ ν :=
  if d.contains k then d else d.insert k v

/-- The dictionary after inserting the entries of another one in their order. -/
def update (d e : Dictionary κ ν) : Dictionary κ ν :=
  e.entries.foldl (fun acc entry => acc.insert entry.1 entry.2) d

/-- The dictionary built from pairs: a repeated key keeps its first place and its last value. -/
def ofPairs (pairs : List (κ × ν)) : Dictionary κ ν :=
  pairs.foldl (fun acc entry => acc.insert entry.1 entry.2) empty

/-- The keys in order. -/
def keys (d : Dictionary κ ν) : List κ :=
  d.entries.map Prod.fst

/-- The number of entries. -/
def size (d : Dictionary κ ν) : Nat :=
  d.entries.length

/-- Whether two dictionaries have the same keys with the same values, in whatever order. -/
def sameEntries [DecidableEq ν] (d e : Dictionary κ ν) : Bool :=
  d.size == e.size && d.entries.all fun entry => e.get? entry.1 = some entry.2

theorem lookup_put (k k' : κ) (v : ν) (entries : List (κ × ν)) :
    lookup k' (put k v entries) = if k = k' then some v else lookup k' entries := by
  induction entries with
  | nil => simp [put, lookup]
  | cons entry rest ih =>
      by_cases same : entry.1 = k
      · by_cases hit : k = k' <;> simp [put, lookup, same, hit]
      · by_cases hit : entry.1 = k'
        · have other : ¬ k = k' := fun eq => same (hit.trans eq.symm)
          rw [put, if_neg same, lookup, if_pos hit, if_neg other, lookup, if_pos hit]
        · rw [put, if_neg same, lookup, if_neg hit, ih, lookup, if_neg hit]

/-- A look-up after an insertion finds the new value at the key and the old ones elsewhere. -/
theorem get?_insert (d : Dictionary κ ν) (k k' : κ) (v : ν) :
    (d.insert k v).get? k' = if k = k' then some v else d.get? k' :=
  lookup_put k k' v d.entries

theorem keys_put (k : κ) (v : ν) (entries : List (κ × ν)) :
    (put k v entries).map Prod.fst =
      if k ∈ entries.map Prod.fst then entries.map Prod.fst else entries.map Prod.fst ++ [k] := by
  induction entries with
  | nil => simp [put]
  | cons entry rest ih =>
      by_cases same : entry.1 = k
      · simp [put, same]
      · by_cases known : k ∈ rest.map Prod.fst
        · simp [put, same, ih, known]
        · have new : ¬ k = entry.1 := fun eq => same eq.symm
          simp_all [put]

/-- An insertion adds the key at the end unless it is there. -/
theorem keys_insert (d : Dictionary κ ν) (k : κ) (v : ν) :
    (d.insert k v).keys = if k ∈ d.keys then d.keys else d.keys ++ [k] :=
  keys_put k v d.entries

end Dictionary

end Literate
