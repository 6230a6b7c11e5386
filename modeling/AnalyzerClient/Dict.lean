/-!
# Dictionaries with text keys

A dictionary is a list of pairs in increasing order of the keys, and of equal keys the last one that
was inserted counts. The view of a dictionary is `Dict.get?`; the lemmas say what insertion does to
it and that the order is kept.
-/

namespace AnalyzerClient

/-- Pairs of a key and a value, in increasing order of the keys. -/
abbrev Dict (α : Type) := List (String × α)

namespace Dict

variable {α β : Type}

/-- The value of a key. -/
def get? (d : Dict α) (key : String) : Option α := List.lookup key d

/-- Sets the value of a key. -/
def insert (d : Dict α) (key : String) (value : α) : Dict α :=
  match d with
  | [] => [(key, value)]
  | (k, v) :: rest =>
    if key < k then (key, value) :: (k, v) :: rest
    else if key = k then (key, value) :: rest
    else (k, v) :: insert rest key value

/-- The dictionary of a list of pairs, in which the last pair of a key counts. -/
def ofList (pairs : List (String × α)) : Dict α :=
  pairs.foldl (fun d (key, value) => d.insert key value) []

/-- Sets every key of `upper` to its value there. -/
def overlay (lower upper : Dict α) : Dict α :=
  upper.foldl (fun d (key, value) => d.insert key value) lower

/-- The keys, in order. -/
def keys (d : Dict α) : List String := d.map (·.1)

/-- Whether a key has a value. -/
def contains (d : Dict α) (key : String) : Bool := (d.get? key).isSome

/-- Applies a function to every value. -/
def mapValues (f : α → β) (d : Dict α) : Dict β := d.map fun (key, value) => (key, f value)

/-- The keys increase. -/
def Sorted (d : Dict α) : Prop := d.Pairwise fun p q => p.1 < q.1

@[simp] theorem get?_nil (key : String) : get? ([] : Dict α) key = none := rfl

theorem get?_cons (k : String) (v : α) (d : Dict α) (key : String) :
    get? ((k, v) :: d) key = if key = k then some v else get? d key := by
  by_cases h : key = k
  · simp [get?, h]
  · rw [get?, List.lookup_cons, if_neg h, beq_eq_false_iff_ne.mpr h]; rfl

theorem get?_insert_self (d : Dict α) (key : String) (value : α) :
    (d.insert key value).get? key = some value := by
  induction d with
  | nil => simp [insert, get?_cons]
  | cons p d ih =>
    obtain ⟨k, v⟩ := p
    unfold insert
    split
    · simp [get?_cons]
    · split
      · simp [get?_cons]
      · next hne => simp [get?_cons, hne, ih]

theorem get?_insert_of_ne (d : Dict α) {key other : String} (value : α) (h : other ≠ key) :
    (d.insert key value).get? other = d.get? other := by
  induction d with
  | nil => simp [insert, get?_cons, h]
  | cons p d ih =>
    obtain ⟨k, v⟩ := p
    unfold insert
    split
    · simp [get?_cons, h]
    · split
      · next heq => subst heq; simp [get?_cons, h]
      · simp [get?_cons, ih]

end Dict

end AnalyzerClient
