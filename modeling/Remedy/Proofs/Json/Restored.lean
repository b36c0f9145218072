import Remedy.Identifier
import Remedy.Proofs.Text.Identifiers
import Remedy.Proofs.Time.Stamps

/-!
# Values that their JSON form gives back

A value is restored when decoding its JSON form gives the value itself. For a type without loss that
holds of every value; for a stable type it holds of every value that was decoded, whatever the
document looked like. A record is restored when its fields are.
-/

namespace Remedy

namespace Dict

variable {β : Type}

theorem insertSorted_of_above {k : String} {v : β} {entries : List (String × β)}
    (above : ∀ e ∈ entries, e.1 < k) : insertSorted k v entries = entries ++ [(k, v)] := by
  induction entries with
  | nil => rfl
  | cons e rest ih =>
    obtain ⟨k', v'⟩ := e
    have lt : k' < k := above (k', v') List.mem_cons_self
    have ne : k ≠ k' := fun same => String.lt_irrefl k (same ▸ lt)
    have nlt : ¬ k < k' := fun gt => String.lt_irrefl k (String.lt_trans gt lt)
    have tail := ih fun e among => above e (List.mem_cons_of_mem _ among)
    simp [insertSorted, ne, nlt, tail]

theorem entries_foldl_insert {entries : List (String × β)} {d : Dict β}
    (h : Ascending (d.entries ++ entries)) :
    (entries.foldl (fun d e => d.insert e.1 e.2) d).entries = d.entries ++ entries := by
  induction entries generalizing d with
  | nil => simp
  | cons e rest ih =>
    have above : ∀ e' ∈ d.entries, e'.1 < e.1 := fun e' among =>
      (List.pairwise_append.1 h).2.2 e' among e List.mem_cons_self
    have inserted : (d.insert e.1 e.2).entries = d.entries ++ [e] := insertSorted_of_above above
    rw [List.foldl_cons, ih (by rw [inserted]; simpa using h), inserted]
    simp

theorem ofList_entries (d : Dict β) : ofList d.entries = d :=
  ext (entries_foldl_insert d.ascending)

theorem mem_entries_foldl {entries : List (String × β)} {d : Dict β} {e : String × β}
    (h : e ∈ (entries.foldl (fun d e => d.insert e.1 e.2) d).entries) :
    e ∈ d.entries ∨ e ∈ entries := by
  induction entries generalizing d with
  | nil => exact .inl h
  | cons first rest ih =>
    rcases ih h with before | later
    · rcases mem_insertSorted before with same | among
      · exact .inr (same ▸ List.mem_cons_self)
      · exact .inl among
    · exact .inr (List.mem_cons_of_mem _ later)

theorem mem_of_mem_ofList {entries : List (String × β)} {e : String × β}
    (h : e ∈ (ofList entries).entries) : e ∈ entries :=
  (mem_entries_foldl h).resolve_left List.not_mem_nil

end Dict

namespace Json

/-! ## Values in canonical form -/

theorem canonicalItems_eq (items : List Json) : canonicalItems items = items.map canonical := by
  induction items with
  | nil => rfl
  | cons j rest ih => rw [canonicalItems, ih, List.map_cons]

theorem canonicalMembers_eq (members : List (String × Json)) :
    canonicalMembers members = members.map fun m => (m.1, m.2.canonical) := by
  induction members with
  | nil => rfl
  | cons m rest ih => rw [canonicalMembers, ih, List.map_cons]

mutual

/-- A written value is read in canonical form. -/
theorem json?_raw : ∀ j : Json, j.raw.json? = some j.canonical
  | .null => rfl
  | .bool _ => rfl
  | .num _ => rfl
  | .str _ => rfl
  | .arr items => by simp [raw, Raw.json?, canonical, jsonItems_rawItems items]
  | .obj members => by simp [raw, Raw.json?, canonical, jsonMembers_rawMembers members]

theorem jsonItems_rawItems : ∀ items, Raw.jsonItems (rawItems items) = some (canonicalItems items)
  | [] => rfl
  | j :: rest => by
    simp [rawItems, Raw.jsonItems, canonicalItems, json?_raw j, jsonItems_rawItems rest]

theorem jsonMembers_rawMembers : ∀ members,
    Raw.jsonMembers (rawMembers members) = some (canonicalMembers members)
  | [] => rfl
  | (k, j) :: rest => by
    simp [rawMembers, Raw.jsonMembers, canonicalMembers, json?_raw j, jsonMembers_rawMembers rest]

end

/-- An object whose members are in canonical form is so when they are the entries
of a dictionary. -/
theorem canonical_obj {d : Dict Json} (h : ∀ e ∈ d.entries, e.2.canonical = e.2) :
    (Json.obj d.entries).canonical = .obj d.entries := by
  have same : d.entries.map (fun m => (m.1, m.2.canonical)) = d.entries :=
    (List.map_congr_left fun e among => by rw [h e among, id]).trans (List.map_id _)
  rw [canonical, canonicalMembers_eq, same, Dict.ofList_entries]

mutual

/-- What is read is in canonical form. -/
theorem canonical_of_json? : ∀ {r : Raw} {j : Json}, r.json? = some j → j.canonical = j
  | .null, j, h => by cases h; rfl
  | .bool _, j, h => by cases h; rfl
  | .num _, j, h => by cases h; rfl
  | .str _, j, h => by cases h; rfl
  | .arr items, j, h => by
    obtain ⟨js, read, rfl⟩ := Option.map_eq_some_iff.1 h
    have all := canonical_of_jsonItems read
    have same : js.map canonical = js := (List.map_congr_left all).trans (List.map_id _)
    rw [canonical, canonicalItems_eq, same]
  | .obj members, j, h => by
    obtain ⟨ms, read, rfl⟩ := Option.map_eq_some_iff.1 h
    have all := canonical_of_jsonMembers read
    exact canonical_obj fun e among => all e (Dict.mem_of_mem_ofList among)
  | .void, j, h => by cases h

theorem canonical_of_jsonItems : ∀ {rs : List Raw} {js : List Json},
    Raw.jsonItems rs = some js → ∀ j ∈ js, j.canonical = j
  | [], js, h => by cases h; simp
  | r :: rest, js, h => by
    simp only [Raw.jsonItems, Option.bind_eq_bind, Option.bind_eq_some_iff] at h
    obtain ⟨j, first, others, later, same⟩ := h
    cases same
    exact List.forall_mem_cons.2 ⟨canonical_of_json? first, canonical_of_jsonItems later⟩

theorem canonical_of_jsonMembers : ∀ {rs : List (String × Raw)} {ms : List (String × Json)},
    Raw.jsonMembers rs = some ms → ∀ m ∈ ms, m.2.canonical = m.2
  | [], ms, h => by cases h; simp
  | (k, r) :: rest, ms, h => by
    simp only [Raw.jsonMembers, Option.bind_eq_bind, Option.bind_eq_some_iff] at h
    obtain ⟨j, first, others, later, same⟩ := h
    cases same
    exact List.forall_mem_cons.2 ⟨canonical_of_json? first, canonical_of_jsonMembers later⟩

end

theorem canonical_canonical (j : Json) : j.canonical.canonical = j.canonical :=
  canonical_of_json? (json?_raw j)

/-! ## Codecs -/

variable {α : Type} [Coded α]

/-- Decoding the JSON form of a value gives the value. -/
def Restored (a : α) : Prop := from? (encode a) = some a

/-- Every value is restored. -/
class Lossless (α : Type) [Coded α] : Prop where
  restored (a : α) : Restored a

/-- Every value that some document decodes to is restored. -/
class Stable (α : Type) [Coded α] : Prop where
  restored {r : Raw} {a : α} (h : decode r = some a) : Restored a

/-- No value has the form of one that is absent. -/
class Substantial (α : Type) [Coded α] : Prop where
  encode_ne_null (a : α) : encode a ≠ .null

instance [Lossless α] : Stable α := ⟨fun _ => Lossless.restored _⟩

@[simp]
theorem from?_encode [Lossless α] (a : α) : from? (encode a) = some a := Lossless.restored a

instance : Lossless Bool := ⟨fun _ => rfl⟩

instance : Lossless String := ⟨fun _ => rfl⟩

instance : Lossless Float := ⟨fun _ => rfl⟩

instance : Lossless UInt64 where
  restored n := by
    have small : n.toNat ≤ Decimal.maxWord64 := Nat.le_of_lt_succ n.toNat_lt
    simp [Restored, from?, encode, decode, natural, raw, decodeNat, small]

instance : Lossless UInt32 where
  restored n := by
    have small : n.toNat ≤ Decimal.maxWord32 := Nat.le_of_lt_succ n.toNat_lt
    simp [Restored, from?, encode, decode, natural, raw, decodeNat, small]

instance : Lossless Identifier where
  restored i := by
    simp only [Restored, from?, encode, raw, decode]
    exact i.ofText?_text

theorem restored_instant {t : Time.Instant} (h : t.OnClock) : Restored t := by
  simp only [Restored, from?, encode, raw, decode]
  exact Time.Instant.ofText?_text h

instance : Stable Time.Instant where
  restored {r t} h := by
    simp only [decode] at h
    split at h
    · exact restored_instant (Time.Instant.onClock_of_ofText? h)
    · cases h

theorem restored_json {j : Json} (h : j.canonical = j) : Restored j := by
  have read := json?_raw j
  rw [h] at read
  exact read

instance : Stable Json := ⟨fun h => restored_json (canonical_of_json? h)⟩

instance : Substantial String := ⟨fun _ => Json.noConfusion⟩
instance : Substantial UInt64 := ⟨fun _ => Json.noConfusion⟩
instance : Substantial UInt32 := ⟨fun _ => Json.noConfusion⟩
instance : Substantial Time.Instant := ⟨fun _ => Json.noConfusion⟩

/-! ### Containers -/

theorem decodeAll_rawItems {as : List α} (h : ∀ a ∈ as, Restored a) :
    decodeAll decode (rawItems (as.map encode)) = some as := by
  induction as with
  | nil => rfl
  | cons a as ih =>
    have first : decode (encode a).raw = some a := h a List.mem_cons_self
    have others := ih fun a among => h a (List.mem_cons_of_mem _ among)
    simp [rawItems, decodeAll, first, others]

theorem restored_list {as : List α} (h : ∀ a ∈ as, Restored a) : Restored as :=
  decodeAll_rawItems h

theorem restored_of_decodeAll [Stable α] {rs : List Raw} {as : List α}
    (h : decodeAll decode rs = some as) : ∀ a ∈ as, Restored a := by
  induction rs generalizing as with
  | nil => cases h; simp
  | cons r rs ih =>
    simp only [decodeAll, Option.bind_eq_bind, Option.bind_eq_some_iff] at h
    obtain ⟨a, first, others, later, same⟩ := h
    cases same
    exact List.forall_mem_cons.2 ⟨Stable.restored first, ih later⟩

instance [Lossless α] : Lossless (List α) := ⟨fun _ => restored_list fun a _ => Lossless.restored a⟩

instance [Stable α] : Stable (List α) where
  restored {r as} h := by
    cases r with
    | arr items => exact restored_list (restored_of_decodeAll h)
    | _ => cases h

theorem restored_none : Restored (none : Option α) := rfl

theorem restored_some {a : α} (h : Restored a) (form : encode a ≠ .null) : Restored (some a) := by
  have inner : decode (encode a).raw = some a := h
  show decode (encode a).raw = some (some a)
  generalize encode a = j at inner form
  cases j with
  | null => exact absurd rfl form
  | _ => exact congrArg (Option.map some) inner

theorem restored_of_decode_some [Stable α] {r : Raw} {a : α} (h : decode r = some (some a)) :
    Restored a := by
  cases r with
  | null => cases h
  | _ =>
    obtain ⟨a', read, same⟩ := Option.map_eq_some_iff.1 h
    cases same
    exact Stable.restored read

instance [Lossless α] [Substantial α] : Lossless (Option α) where
  restored
    | none => restored_none
    | some a => restored_some (Lossless.restored a) (Substantial.encode_ne_null a)

instance [Stable α] [Substantial α] : Stable (Option α) where
  restored {r oa} h := by
    cases oa with
    | none => exact restored_none
    | some a =>
      exact restored_some (restored_of_decode_some h) (Substantial.encode_ne_null a)

theorem decodeMembers_rawMembers {entries : List (String × α)} (h : ∀ e ∈ entries, Restored e.2) :
    decodeMembers decode (rawMembers (entries.map fun e => (e.1, encode e.2))) = some entries := by
  induction entries with
  | nil => rfl
  | cons e rest ih =>
    have first : decode (encode e.2).raw = some e.2 := h e List.mem_cons_self
    have others := ih fun e among => h e (List.mem_cons_of_mem _ among)
    simp [rawMembers, decodeMembers, first, others]

theorem restored_dict {d : Dict α} (h : ∀ e ∈ d.entries, Restored e.2) : Restored d := by
  show (decodeMembers decode (rawMembers (d.entries.map fun e => (e.1, encode e.2)))).map
    Dict.ofList
    = some d
  rw [decodeMembers_rawMembers h, Option.map_some, Dict.ofList_entries]

theorem restored_of_decodeMembers [Stable α] {rs : List (String × Raw)}
    {entries : List (String × α)}
    (h : decodeMembers decode rs = some entries) : ∀ e ∈ entries, Restored e.2 := by
  induction rs generalizing entries with
  | nil => cases h; simp
  | cons m rs ih =>
    simp only [decodeMembers, Option.bind_eq_bind, Option.bind_eq_some_iff] at h
    obtain ⟨a, first, others, later, same⟩ := h
    cases same
    exact List.forall_mem_cons.2 ⟨Stable.restored first, ih later⟩

instance [Lossless α] : Lossless (Dict α) :=
  ⟨fun _ => restored_dict fun e _ => Lossless.restored e.2⟩

instance [Stable α] : Stable (Dict α) where
  restored {r d} h := by
    cases r with
    | obj members =>
      obtain ⟨entries, read, rfl⟩ := Option.map_eq_some_iff.1 h
      exact restored_dict fun e among =>
        restored_of_decodeMembers read e (Dict.mem_of_mem_ofList among)
    | _ => cases h

instance : Lossless NameSet where
  restored s := by
    have names : (decode (encode s.names).raw : Option (List String)) = some s.names :=
      Lossless.restored s.names
    have same : NameSet.ofList s.names = s := by
      have entries : s.names.map (fun n => (n, ())) = s.entries := by
        rw [NameSet.names, Dict.keys, List.map_map]
        exact List.map_id _
      rw [NameSet.ofList, entries, Dict.ofList_entries]
    show (decode (encode s.names).raw : Option (List String)).map NameSet.ofList = some s
    rw [names, Option.map_some, same]

/-! ### Records -/

theorem lookup_rawMembers (members : List (String × Json)) (name : String) :
    (rawMembers members).lookup name = (members.lookup name).map raw := by
  induction members with
  | nil => rfl
  | cons m rest ih =>
    obtain ⟨k, j⟩ := m
    simp only [rawMembers, List.lookup_cons, ih]
    cases name == k <;> rfl

theorem map_fst_rawMembers (members : List (String × Json)) :
    (rawMembers members).map (·.1) = members.map (·.1) := by
  induction members with
  | nil => rfl
  | cons m rest ih => rw [rawMembers, List.map_cons, List.map_cons, ih]

namespace Fields

/-- The fields found in the form of a record with these members. -/
def written (members : List (String × Json)) : Fields := ⟨false, rawMembers members⟩

theorem of?_obj {names : List String} {members : List (String × Json)}
    (once : (members.map (·.1)).Nodup) :
    of? names (raw (.obj members)) = some (written members) := by
  refine if_pos (List.all_eq_true.2 fun name _ => ?_)
  have count : (rawMembers members).countP (·.1 == name) = (members.map (·.1)).count name := by
    rw [← map_fst_rawMembers, List.count, List.countP_map]
    rfl
  rw [count]
  exact decide_eq_true (List.nodup_iff_count.1 once name)

variable {members : List (String × Json)} {name : String}

@[simp]
theorem required_written :
    (written members).required name = (members.lookup name).bind (from? (α := α)) := by
  simp only [required, written, lookup_rawMembers]
  cases members.lookup name <;> rfl

@[simp]
theorem optional_written : (written members).optional name =
    (((members.lookup name).map (from? (α := Option α))).getD (some none)) := by
  simp only [optional, written, lookup_rawMembers]
  cases members.lookup name <;> rfl

@[simp]
theorem defaulting_written {default : α} : (written members).defaulting name default =
    (((members.lookup name).map from?).getD (some default)) := by
  simp only [defaulting, written, lookup_rawMembers]
  cases members.lookup name <;> rfl

variable {fs : Fields}

theorem restored_of_required [Stable α] {a : α} (h : fs.required name = some a) : Restored a := by
  obtain ⟨r, -, read⟩ := Option.bind_eq_some_iff.1 h
  exact Stable.restored read

theorem restored_of_defaulting [Stable α] {default a : α} (h : fs.defaulting name default = some a)
    (usual : Restored default) : Restored a := by
  unfold defaulting at h
  split at h
  · exact Stable.restored h
  · cases h
    exact usual

end Fields

/-- What the form of a record decodes to is what its decoder makes of the members
that were written. -/
theorem from?_record {a : α} {names : List String} {members : List (String × Json)}
    {f : Fields → Option α} (reads : ∀ r, decode r = (Fields.of? names r).bind f)
    (form : encode a = .obj members) (once : (members.map (·.1)).Nodup) :
    from? (encode a) = f (.written members) := by
  rw [from?, form, reads, Fields.of?_obj once]
  rfl

/-- A record is restored when its decoder makes the record of the members that were written. -/
theorem restored_record {a : α} {names : List String} {members : List (String × Json)}
    {f : Fields → Option α} (reads : ∀ r, decode r = (Fields.of? names r).bind f)
    (form : encode a = .obj members) (once : (members.map (·.1)).Nodup)
    (back : f (.written members) = some a) : Restored a :=
  (from?_record reads form once).trans back

end Json

end Remedy
