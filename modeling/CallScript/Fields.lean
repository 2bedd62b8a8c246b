/-! # Fields sorted by key

A mapping from texts to values is a list of pairs in increasing order of the keys, each key once.  Keys
are compared by code points.  `Fields.insert` keeps that order (`Sorted.insert`), and what it stores is
what `Fields.find?` finds. -/

namespace CallScript.Fields

variable {α β : Type}

/-- Every key is smaller than all keys after it. -/
def Sorted (fields : List (String × α)) : Prop := fields.Pairwise fun a b => a.1 < b.1

/-- Stores a value under a key, in place of the one stored there before. -/
def insert (key : String) (value : α) : List (String × α) → List (String × α)
  | [] => [(key, value)]
  | field :: rest =>
    if key < field.1 then (key, value) :: field :: rest
    else if key = field.1 then (key, value) :: rest
    else field :: insert key value rest

/-- The value stored under a key. -/
def find? (key : String) : List (String × α) → Option α
  | [] => none
  | field :: rest => if field.1 = key then some field.2 else find? key rest

/-- Whether something is stored under a key. -/
def contains (key : String) (fields : List (String × α)) : Bool := (find? key fields).isSome

/-- Stores all pairs of a list; of two with the same key the later one stays. -/
def ofList (pairs : List (String × α)) : List (String × α) :=
  pairs.foldl (fun fields pair => insert pair.1 pair.2 fields) []

/-- Stores all fields of the second mapping into the first. -/
def merge (fields extra : List (String × α)) : List (String × α) :=
  extra.foldl (fun fields pair => insert pair.1 pair.2 fields) fields

@[simp] theorem find?_insert_self (key : String) (value : α) (fields : List (String × α)) :
    find? key (insert key value fields) = some value := by
  induction fields with
  | nil => simp [insert, find?]
  | cons field rest ih =>
    rw [insert]
    split
    · simp [find?]
    · split
      · simp [find?]
      · next h => simp [find?, Ne.symm h, ih]

theorem find?_insert_ne {key other : String} (h : key ≠ other) (value : α)
    (fields : List (String × α)) : find? other (insert key value fields) = find? other fields := by
  induction fields with
  | nil => simp [insert, find?, h]
  | cons field rest ih =>
    rw [insert]
    split
    · simp [find?, h]
    · split
      · next hk => subst hk; simp [find?, h]
      · simp [find?, ih]

theorem mem_insert {key : String} {value : α} {fields : List (String × α)} {field : String × α}
    (h : field ∈ insert key value fields) : field = (key, value) ∨ field ∈ fields := by
  induction fields with
  | nil => simpa [insert] using h
  | cons first rest ih =>
    rw [insert] at h
    split at h
    · simpa using h
    · split at h
      · rcases List.mem_cons.mp h with h | h
        · exact .inl h
        · exact .inr (List.mem_cons_of_mem _ h)
      · rcases List.mem_cons.mp h with h | h
        · exact .inr (h ▸ List.mem_cons_self)
        · exact (ih h).imp id (List.mem_cons_of_mem _)

theorem Sorted.insert {key : String} {value : α} {fields : List (String × α)} (h : Sorted fields) :
    Sorted (insert key value fields) := by
  induction fields with
  | nil => simp [Fields.insert, Sorted]
  | cons first rest ih =>
    obtain ⟨hfirst, hrest⟩ := List.pairwise_cons.mp h
    rw [Fields.insert]
    split
    · next hlt =>
      exact List.pairwise_cons.mpr ⟨fun field hmem => (List.mem_cons.mp hmem).elim
        (fun e => e ▸ hlt) (fun hmem => String.lt_trans hlt (hfirst field hmem)), h⟩
    · split
      · next heq =>
        exact List.pairwise_cons.mpr ⟨fun field hmem => heq ▸ hfirst field hmem, hrest⟩
      · next hnlt hne =>
        refine List.pairwise_cons.mpr ⟨fun field hmem => ?_, ih hrest⟩
        rcases mem_insert hmem with e | hmem
        · subst e
          exact String.not_le.mp fun hle => hne (String.le_antisymm hle (String.not_lt.mp hnlt))
        · exact hfirst field hmem

theorem Sorted.ofList (pairs : List (String × α)) : Sorted (ofList pairs) := by
  suffices h : ∀ fields : List (String × α), Sorted fields →
      Sorted (pairs.foldl (fun fields pair => Fields.insert pair.1 pair.2 fields) fields) from
    h [] List.Pairwise.nil
  induction pairs with
  | nil => exact fun _ h => h
  | cons pair rest ih => exact fun _ h => ih _ h.insert

end CallScript.Fields
