import CallScript.Fields
import Mathlib.Data.List.Forall2
import Mathlib.Data.List.Induction
import Mathlib.Data.List.Nodup

/-! # Fields and the pairs that they store

Storing pairs with different keys neither drops nor changes one (`ofList_perm`), and fields in order of
their keys are determined by their pairs (`eq_of_perm`).  So the order in which such pairs are stored does
not matter (`ofList_eq_of_perm`).  Of pairs with the same key the last one stays (`find?_ofList`), and fields
in order are also determined by what is found under each key (`eq_of_find?_eq`).  Under that view fields
that are stored into others come first (`find?_merge`), from which the laws of merging follow.  Where nothing
is stored but the keys, fields are sets: `eq_of_contains_eq`, `mem_keys_merge`. -/

namespace CallScript.Fields

variable {α : Type} {key : String} {value : α} {fields pairs : List (String × α)}

theorem contains_iff : contains key fields = true ↔ key ∈ fields.map Prod.fst := by
  unfold contains
  induction fields with
  | nil => simp [find?]
  | cons field rest ih =>
      rw [find?, List.map_cons, List.mem_cons]
      by_cases same : field.1 = key
      · simp [same]
      · simp [same, ih, Ne.symm same]

theorem mem_keys_insert {other : String} : other ∈ (insert key value fields).map Prod.fst ↔
    other = key ∨ other ∈ fields.map Prod.fst := by
  rw [← contains_iff, ← contains_iff]
  unfold contains
  by_cases same : key = other
  · subst same
    simp
  · rw [find?_insert_ne same]
    simp [Ne.symm same]

theorem insert_perm (value : α) (new : key ∉ fields.map Prod.fst) :
    (insert key value fields).Perm ((key, value) :: fields) := by
  induction fields with
  | nil => exact .refl _
  | cons field rest ih =>
      rw [List.map_cons, List.mem_cons, not_or] at new
      rw [insert]
      split
      · exact .refl _
      · rw [if_neg new.1]
        exact ((ih new.2).cons field).trans (.swap (key, value) field rest)

theorem foldl_insert_perm (stored : List (String × α))
    (new : ∀ pair ∈ pairs, pair.1 ∉ stored.map Prod.fst) (different : (pairs.map Prod.fst).Nodup) :
    (pairs.foldl (fun fields pair => insert pair.1 pair.2 fields) stored).Perm (pairs ++ stored) := by
  induction pairs generalizing stored with
  | nil => exact .refl _
  | cons pair rest ih =>
      rw [List.map_cons, List.nodup_cons] at different
      have new_rest : ∀ other ∈ rest, other.1 ∉ (insert pair.1 pair.2 stored).map Prod.fst := by
        intro other member again
        rcases mem_keys_insert.mp again with same | before
        · rw [← same] at different
          exact different.1 (List.mem_map_of_mem member)
        · exact new other (List.mem_cons_of_mem _ member) before
      have first := insert_perm pair.2 (new pair List.mem_cons_self)
      exact (ih _ new_rest different.2).trans
        ((first.append_left rest).trans List.perm_middle)

theorem ofList_perm (different : (pairs.map Prod.fst).Nodup) : (ofList pairs).Perm pairs := by
  have stored := foldl_insert_perm [] (fun _ _ => List.not_mem_nil) different
  rw [List.append_nil] at stored
  exact stored

theorem Sorted.nodup_keys (h : Sorted fields) : (fields.map Prod.fst).Nodup := by
  apply List.pairwise_map.mpr
  exact h.imp fun less => String.ne_of_lt less

theorem Sorted.of_keys (keys : List String) (same : fields.map Prod.fst = keys)
    (ordered : keys.Pairwise (· < ·)) : Sorted fields := by
  rw [← same] at ordered
  exact List.pairwise_map.mp ordered

theorem Sorted.of_keys_eq {β : Type} {others : List (String × β)} (sorted : Sorted fields)
    (same : others.map Prod.fst = fields.map Prod.fst) : Sorted others :=
  .of_keys _ same (List.pairwise_map.mpr sorted)

/-- Fields in order are determined by their pairs. -/
theorem eq_of_perm {others : List (String × α)} (h : fields.Perm others) (sorted : Sorted fields)
    (others_sorted : Sorted others) : fields = others := by
  apply h.eq_of_pairwise _ sorted others_sorted
  intro a b _ _ less greater
  exact absurd greater (String.lt_asymm less)

/-- Storing the pairs of fields that are in order, one by one and in any order, gives the fields. -/
theorem ofList_eq_of_perm (h : pairs.Perm fields) (sorted : Sorted fields) : ofList pairs = fields := by
  have different : (pairs.map Prod.fst).Nodup := (h.map Prod.fst).nodup_iff.mpr sorted.nodup_keys
  exact eq_of_perm ((ofList_perm different).trans h) (Sorted.ofList pairs) sorted

/-- Of pairs with the same key the last one is found. -/
theorem find?_ofList (key : String) (pairs : List (String × α)) :
    find? key (ofList pairs) = (pairs.filter (·.1 = key)).getLast?.map Prod.snd := by
  induction pairs using List.reverseRecOn with
  | nil => rfl
  | append_singleton pairs pair ih =>
      have stored : ofList (pairs ++ [pair]) = insert pair.1 pair.2 (ofList pairs) := by
        unfold ofList
        rw [List.foldl_append]
        rfl
      rw [stored, List.filter_append]
      by_cases same : pair.1 = key
      · subst same
        simp
      · rw [find?_insert_ne same, ih]
        simp [same]

theorem mem_of_find?_eq_some (found : find? key fields = some value) : (key, value) ∈ fields := by
  induction fields with
  | nil => cases found
  | cons field rest ih =>
      rw [find?] at found
      split at found
      next same =>
        cases found
        rw [← same]
        exact List.mem_cons_self
      · exact List.mem_cons_of_mem _ (ih found)

theorem find?_eq_some_iff (sorted : Sorted fields) :
    find? key fields = some value ↔ (key, value) ∈ fields := by
  induction fields with
  | nil => simp [find?]
  | cons field rest ih =>
      obtain ⟨first, others⟩ := List.pairwise_cons.mp sorted
      rw [find?, List.mem_cons]
      by_cases same : field.1 = key
      · subst same
        have once : (field.1, value) ∉ rest := fun member =>
          String.lt_irrefl field.1 (first (field.1, value) member)
        simp [Prod.ext_iff, once, eq_comm]
      · have other : (key, value) ≠ field := fun e => same (congrArg Prod.fst e).symm
        simp [same, other, ih others]

/-- Fields in order are determined by what is found under each key. -/
theorem eq_of_find?_eq {others : List (String × α)} (sorted : Sorted fields) (others_sorted : Sorted others)
    (h : ∀ key, find? key fields = find? key others) : fields = others := by
  have same_pairs : ∀ pair, pair ∈ fields ↔ pair ∈ others := by
    rintro ⟨key, value⟩
    rw [← find?_eq_some_iff sorted, ← find?_eq_some_iff others_sorted, h]
  have different {l : List (String × α)} (ordered : Sorted l) : l.Nodup :=
    .of_map Prod.fst ordered.nodup_keys
  have perm := (List.perm_ext_iff_of_nodup (different sorted) (different others_sorted)).mpr same_pairs
  exact eq_of_perm perm sorted others_sorted

/-- Sets of keys in order are determined by the keys that they hold. -/
theorem eq_of_contains_eq {keys others : List (String × Unit)} (sorted : Sorted keys)
    (others_sorted : Sorted others) (h : ∀ key, contains key keys = contains key others) : keys = others := by
  apply eq_of_find?_eq sorted others_sorted
  intro key
  have same : (find? key keys).isSome = (find? key others).isSome := h key
  cases found : find? key keys <;> cases found' : find? key others <;> simp [found, found'] at same ⊢

/-! ### Merging -/

section

variable {base extra : List (String × α)}

theorem Sorted.merge (sorted : Sorted base) (extra : List (String × α)) : Sorted (merge base extra) := by
  unfold Fields.merge
  induction extra generalizing base with
  | nil => exact sorted
  | cons pair rest ih => exact ih sorted.insert

theorem mem_keys_merge : key ∈ (merge base extra).map Prod.fst ↔
    key ∈ base.map Prod.fst ∨ key ∈ extra.map Prod.fst := by
  unfold merge
  induction extra generalizing base with
  | nil => simp
  | cons pair rest ih =>
      rw [List.foldl_cons, ih, mem_keys_insert, List.map_cons, List.mem_cons, or_assoc, or_left_comm]

/-- What is stored last is found first. -/
theorem find?_merge (sorted : Sorted extra) (base : List (String × α)) (key : String) :
    find? key (merge base extra) = (find? key extra).or (find? key base) := by
  unfold merge
  induction extra generalizing base with
  | nil => rfl
  | cons pair rest ih =>
      obtain ⟨first, others⟩ := List.pairwise_cons.mp sorted
      rw [List.foldl_cons, ih others, find?]
      by_cases same : pair.1 = key
      · subst same
        have once : find? pair.1 rest = none := by
          cases found : find? pair.1 rest with
          | none => rfl
          | some value =>
              exact absurd (first (pair.1, value) (mem_of_find?_eq_some found)) (String.lt_irrefl pair.1)
        rw [once, find?_insert_self, if_pos rfl, Option.none_or, Option.some_or]
      · rw [find?_insert_ne same, if_neg same]

theorem merge_assoc {upper : List (String × α)} (base_sorted : Sorted base) (sorted : Sorted extra)
    (upper_sorted : Sorted upper) : merge (merge base extra) upper = merge base (merge extra upper) := by
  apply eq_of_find?_eq ((base_sorted.merge extra).merge upper) (base_sorted.merge (merge extra upper))
  intro key
  rw [find?_merge upper_sorted, find?_merge sorted, find?_merge (sorted.merge upper),
    find?_merge upper_sorted, Option.or_assoc]

theorem nil_merge (sorted : Sorted extra) : merge [] extra = extra := by
  have empty_sorted : Sorted ([] : List (String × α)) := List.Pairwise.nil
  apply eq_of_find?_eq (empty_sorted.merge extra) sorted
  intro key
  rw [find?_merge sorted, find?, Option.or_none]

theorem merge_self (sorted : Sorted base) : merge base base = base := by
  apply eq_of_find?_eq (sorted.merge base) sorted
  intro key
  rw [find?_merge sorted, Option.or_self]

end

/-! ### Related values under the same keys -/

section

variable {β : Type} {R : String × α → String × β → Prop} {others : List (String × β)}

theorem map_fst_eq_of_forall₂ (same_key : ∀ a b, R a b → a.1 = b.1) (h : List.Forall₂ R fields others) :
    fields.map Prod.fst = others.map Prod.fst := by
  induction h with
  | nil => rfl
  | cons first _ ih => rw [List.map_cons, List.map_cons, same_key _ _ first, ih]

theorem forall₂_insert {other : β} (same_key : ∀ a b, R a b → a.1 = b.1) (stored : R (key, value) (key, other))
    (h : List.Forall₂ R fields others) : List.Forall₂ R (insert key value fields) (insert key other others) := by
  induction h with
  | nil => exact .cons stored .nil
  | @cons a b rest rest' first h ih =>
      rw [insert, insert, same_key a b first]
      by_cases less : key < b.1
      · rw [if_pos less, if_pos less]
        exact .cons stored (.cons first h)
      · rw [if_neg less, if_neg less]
        by_cases same : key = b.1
        · rw [if_pos same, if_pos same]
          exact .cons stored h
        · rw [if_neg same, if_neg same]
          exact .cons first ih

theorem forall₂_ofList {pairs : List (String × α)} (same_key : ∀ a b, R a b → a.1 = b.1)
    (h : List.Forall₂ R pairs others) : List.Forall₂ R (ofList pairs) (ofList others) := by
  have stored {fields : List (String × α)} {fields' : List (String × β)} (before : List.Forall₂ R fields fields') :
      List.Forall₂ R (pairs.foldl (fun fields pair => insert pair.1 pair.2 fields) fields)
        (others.foldl (fun fields pair => insert pair.1 pair.2 fields) fields') := by
    induction h generalizing fields fields' with
    | nil => exact before
    | @cons a b _ _ first _ ih =>
        obtain ⟨key, value⟩ := a
        obtain ⟨key', value'⟩ := b
        obtain rfl : key = key' := same_key _ _ first
        exact ih (forall₂_insert same_key first before)
  exact stored .nil

end

end CallScript.Fields
