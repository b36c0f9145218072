/-!
# Dictionaries

Entries in ascending order of their keys, each key once. Strings are ordered by code point, which is
also the byte order of their encoding, so the order that a dictionary is written in is its own. Two
dictionaries with the same entries are equal.
-/

namespace Remedy

variable {β γ : Type}

/-- Put a value at its place; a value under the same key is replaced. -/
def insertSorted (k : String) (v : β) : List (String × β) → List (String × β)
  | [] => [(k, v)]
  | (k', v') :: rest =>
    if k = k' then (k, v) :: rest
    else if k < k' then (k, v) :: (k', v') :: rest
    else (k', v') :: insertSorted k v rest

def Ascending (entries : List (String × β)) : Prop :=
  entries.Pairwise fun a b => a.1 < b.1

theorem mem_insertSorted {k : String} {v : β} {e : String × β} :
    ∀ {entries : List (String × β)}, e ∈ insertSorted k v entries → e = (k, v) ∨ e ∈ entries
  | [], h => by simpa [insertSorted] using h
  | (k', v') :: rest, h => by
    unfold insertSorted at h
    split at h
    · rcases List.mem_cons.1 h with h | h
      · exact .inl h
      · exact .inr (List.mem_cons_of_mem _ h)
    · split at h
      · rcases List.mem_cons.1 h with h | h
        · exact .inl h
        · exact .inr h
      · rcases List.mem_cons.1 h with h | h
        · exact .inr (h ▸ List.mem_cons_self)
        · exact (mem_insertSorted h).imp id (List.mem_cons_of_mem _)

theorem lt_of_ne_of_not_lt {a b : String} (ne : a ≠ b) (nlt : ¬ a < b) : b < a :=
  Std.lt_of_le_of_ne (Std.not_lt.mp nlt) ne.symm

theorem ascending_insertSorted {k : String} {v : β} :
    ∀ {entries : List (String × β)}, Ascending entries → Ascending (insertSorted k v entries)
  | [], _ => by simp [Ascending, insertSorted]
  | (k', v') :: rest, h => by
    obtain ⟨hd, tl⟩ := List.pairwise_cons.1 h
    unfold insertSorted
    split
    · next e => exact List.pairwise_cons.2 ⟨fun x hx => e ▸ hd x hx, tl⟩
    · next ne =>
      split
      · next lt =>
        refine List.pairwise_cons.2 ⟨fun x hx => ?_, h⟩
        rcases List.mem_cons.1 hx with hx | hx
        · exact hx ▸ lt
        · exact String.lt_trans lt (hd x hx)
      · next nlt =>
        refine List.pairwise_cons.2 ⟨fun x hx => ?_, ascending_insertSorted tl⟩
        rcases mem_insertSorted hx with hx | hx
        · exact hx ▸ lt_of_ne_of_not_lt ne nlt
        · exact hd x hx

theorem lookup_insertSorted {k : String} {v : β} (k' : String) (entries : List (String × β)) :
    (insertSorted k v entries).lookup k' = if k' = k then some v else entries.lookup k' := by
  induction entries with
  | nil =>
    by_cases hk : k' = k
    · simp [insertSorted, hk]
    · simp [insertSorted, List.lookup_cons, hk, beq_false_of_ne hk]
  | cons e rest ih =>
    obtain ⟨k₀, v₀⟩ := e
    unfold insertSorted
    split
    · next same =>
      subst same
      by_cases hk : k' = k
      · simp [hk]
      · simp [List.lookup_cons, hk, beq_false_of_ne hk]
    · next other =>
      split
      · by_cases hk : k' = k
        · simp [hk]
        · simp [List.lookup_cons, hk, beq_false_of_ne hk]
      · by_cases hk : k' = k₀
        · have hne : k₀ ≠ k := fun h => other h.symm
          simp [hk, hne]
        · rw [List.lookup_cons, List.lookup_cons, beq_false_of_ne hk]
          exact ih

theorem lookup_eq_none_of_lt {k : String} {entries : List (String × β)}
    (below : ∀ e ∈ entries, k < e.1) : entries.lookup k = none := by
  rw [List.lookup_eq_none_iff]
  intro e he
  have hne : k ≠ e.1 := fun h => String.lt_irrefl k (h ▸ below e he)
  simpa using hne

theorem lookup_filter {p : String → β → Bool} (k : String) {entries : List (String × β)}
    (h : Ascending entries) :
    (entries.filter fun e => p e.1 e.2).lookup k = (entries.lookup k).filter (p k) := by
  induction entries with
  | nil => rfl
  | cons e rest ih =>
    obtain ⟨k₀, v₀⟩ := e
    obtain ⟨hd, tl⟩ := List.pairwise_cons.1 h
    have tail := ih tl
    by_cases hk : k = k₀
    · subst hk
      have gone : rest.lookup k = none := lookup_eq_none_of_lt hd
      rw [gone] at tail
      by_cases hp : p k v₀ = true
      · simp [Option.filter, hp]
      · simp only [List.filter_cons, hp, Bool.false_eq_true, if_false, List.lookup_cons_self]
        simpa [Option.filter, hp] using tail
    · have hf : (k == k₀) = false := beq_false_of_ne hk
      by_cases hp : p k₀ v₀ = true
      · simpa [List.lookup_cons, hp, hf] using tail
      · simpa [List.lookup_cons, hp, hf] using tail

theorem map_insertSorted (f : β → γ) (k : String) (v : β) (entries : List (String × β)) :
    (insertSorted k v entries).map (fun e => (e.1, f e.2)) =
      insertSorted k (f v) (entries.map fun e => (e.1, f e.2)) := by
  induction entries with
  | nil => rfl
  | cons e rest ih =>
    simp only [insertSorted, List.map_cons]
    split
    · rfl
    · split
      · rfl
      · rw [List.map_cons, ih]

theorem insertSorted_of_lookup {k : String} {v : β} {entries : List (String × β)}
    (h : Ascending entries) (held : entries.lookup k = some v) :
    insertSorted k v entries = entries := by
  induction entries with
  | nil => cases held
  | cons e rest ih =>
    obtain ⟨k₀, v₀⟩ := e
    obtain ⟨hd, tl⟩ := List.pairwise_cons.1 h
    by_cases same : k = k₀
    · subst same
      rw [List.lookup_cons_self, Option.some_inj] at held
      simp [insertSorted, held]
    · rw [List.lookup_cons, beq_false_of_ne same] at held
      by_cases lt : k < k₀
      · have gone : rest.lookup k = none :=
          lookup_eq_none_of_lt fun e he => String.lt_trans lt (hd e he)
        rw [gone] at held
        cases held
      · simp [insertSorted, same, lt, ih tl held]

theorem not_lt_of_lookup {k k' : String} {v v' : β} {rest rest' : List (String × β)}
    (h' : Ascending ((k', v') :: rest'))
    (same : ∀ k₀, ((k, v) :: rest).lookup k₀ = ((k', v') :: rest').lookup k₀) : ¬ k < k' := by
  intro lt
  have first := same k
  have above : ∀ e ∈ (k', v') :: rest', k < e.1 :=
    List.forall_mem_cons.2 ⟨lt, fun e he => String.lt_trans lt ((List.pairwise_cons.1 h').1 e he)⟩
  rw [List.lookup_cons_self, lookup_eq_none_of_lt above] at first
  cases first

theorem eq_of_lookup {entries entries' : List (String × β)} (h : Ascending entries)
    (h' : Ascending entries') (same : ∀ k, entries.lookup k = entries'.lookup k) :
    entries = entries' := by
  induction entries generalizing entries' with
  | nil =>
    cases entries' with
    | nil => rfl
    | cons e' rest' =>
      have first := same e'.1
      rw [List.lookup_cons_self] at first
      cases first
  | cons e rest ih =>
    cases entries' with
    | nil =>
      have first := same e.1
      rw [List.lookup_cons_self] at first
      cases first
    | cons e' rest' =>
      obtain ⟨k, v⟩ := e
      obtain ⟨k', v'⟩ := e'
      obtain ⟨hd, tl⟩ := List.pairwise_cons.1 h
      obtain ⟨hd', tl'⟩ := List.pairwise_cons.1 h'
      have keys : k = k' := Decidable.byContradiction fun ne =>
        not_lt_of_lookup h (fun k₀ => (same k₀).symm)
          (lt_of_ne_of_not_lt ne (not_lt_of_lookup h' same))
      subst keys
      have values := same k
      rw [List.lookup_cons_self, List.lookup_cons_self, Option.some_inj] at values
      rw [values, ih tl tl' fun k₀ => ?_]
      by_cases own : k₀ = k
      · rw [own, lookup_eq_none_of_lt hd, lookup_eq_none_of_lt hd']
      · have rests := same k₀
        rw [List.lookup_cons, List.lookup_cons, beq_false_of_ne own] at rests
        exact rests

structure Dict (β : Type) where
  entries : List (String × β)
  ascending : Ascending entries

namespace Dict

theorem ext {a b : Dict β} (h : a.entries = b.entries) : a = b := by
  cases a; cases b; cases h; rfl

def empty : Dict β := ⟨[], List.Pairwise.nil⟩

instance : Inhabited (Dict β) := ⟨empty⟩

def isEmpty (d : Dict β) : Bool := d.entries.isEmpty

def size (d : Dict β) : Nat := d.entries.length

def keys (d : Dict β) : List String := d.entries.map (·.1)

def get? (d : Dict β) (k : String) : Option β := d.entries.lookup k

def contains (d : Dict β) (k : String) : Bool := (d.get? k).isSome

def insert (d : Dict β) (k : String) (v : β) : Dict β :=
  ⟨insertSorted k v d.entries, ascending_insertSorted d.ascending⟩

/-- Of several values under one key the last is kept. -/
def ofList (entries : List (String × β)) : Dict β :=
  entries.foldl (fun d e => d.insert e.1 e.2) empty

/-- Entries of the second dictionary replace those of the first. -/
def union (a b : Dict β) : Dict β :=
  b.entries.foldl (fun d e => d.insert e.1 e.2) a

def filter (p : String → β → Bool) (d : Dict β) : Dict β :=
  ⟨d.entries.filter fun e => p e.1 e.2, d.ascending.sublist List.filter_sublist⟩

def map (f : β → γ) (d : Dict β) : Dict γ :=
  ⟨d.entries.map fun e => (e.1, f e.2),
    by simpa [Ascending, List.pairwise_map] using d.ascending⟩

theorem get?_insert (d : Dict β) (k : String) (v : β) (k' : String) :
    (d.insert k v).get? k' = if k' = k then some v else d.get? k' :=
  lookup_insertSorted k' d.entries

theorem get?_filter (d : Dict β) (p : String → β → Bool) (k : String) :
    (d.filter p).get? k = (d.get? k).filter (p k) :=
  lookup_filter k d.ascending

theorem get?_map (d : Dict β) (f : β → γ) (k : String) : (d.map f).get? k = (d.get? k).map f := by
  have h : ∀ entries : List (String × β),
      (entries.map fun e => (e.1, f e.2)).lookup k = (entries.lookup k).map f := by
    intro entries
    induction entries with
    | nil => rfl
    | cons e rest ih =>
      obtain ⟨k₀, v₀⟩ := e
      simp only [List.map_cons, List.lookup_cons]
      cases k == k₀ <;> simp [ih]
  exact h d.entries

theorem map_map {δ : Type} (d : Dict β) (f : β → γ) (g : γ → δ) :
    (d.map f).map g = d.map fun v => g (f v) :=
  ext (by simp [map])

theorem map_insert (d : Dict β) (f : β → γ) (k : String) (v : β) :
    (d.insert k v).map f = (d.map f).insert k (f v) :=
  ext (map_insertSorted f k v d.entries)

theorem insert_of_get? {d : Dict β} {k : String} {v : β} (held : d.get? k = some v) :
    d.insert k v = d :=
  ext (insertSorted_of_lookup d.ascending held)

theorem get?_union (a b : Dict β) (k : String) : (a.union b).get? k = (b.get? k).or (a.get? k) := by
  have fold : ∀ (entries : List (String × β)) (d : Dict β), Ascending entries →
      (entries.foldl (fun d e => d.insert e.1 e.2) d).get? k =
        (entries.lookup k).or (d.get? k) := by
    intro entries
    induction entries with
    | nil => intros; rfl
    | cons e rest ih =>
      intro d h
      obtain ⟨k₀, v₀⟩ := e
      obtain ⟨hd, tl⟩ := List.pairwise_cons.1 h
      rw [List.foldl_cons, ih _ tl, get?_insert, List.lookup_cons]
      by_cases same : k = k₀
      · subst same
        simp [lookup_eq_none_of_lt hd]
      · simp [same, beq_false_of_ne same]
  exact fold b.entries a b.ascending

theorem eq_of_get? {a b : Dict β} (same : ∀ k, a.get? k = b.get? k) : a = b :=
  ext (eq_of_lookup a.ascending b.ascending same)

theorem keys_isEmpty_iff (d : Dict β) : d.keys.isEmpty = true ↔ ∀ k, d.get? k = none := by
  obtain ⟨entries, h⟩ := d
  cases entries with
  | nil => simp [keys, get?]
  | cons e rest =>
    simp only [keys, List.map_cons, List.isEmpty_cons, Bool.false_eq_true, false_iff]
    intro none
    have first := none e.1
    rw [get?, List.lookup_cons_self] at first
    cases first

end Dict

/-- A finite set of names, listed in ascending order. -/
abbrev NameSet : Type := Dict Unit

namespace NameSet

def ofList (names : List String) : NameSet := Dict.ofList (names.map fun n => (n, ()))

def insert (s : NameSet) (name : String) : NameSet := Dict.insert s name ()

def contains (s : NameSet) (name : String) : Bool := Dict.contains s name

def names (s : NameSet) : List String := Dict.keys s

end NameSet

end Remedy
