import ClauseSql.NameMap
import Mathlib.Data.List.Induction
import Mathlib.Tactic.SplitIfs

/-!
# The order of names

Names are in the order of their code points, which is also the order of their UTF-8 bytes: where the
bytes of two characters first differ, the greater character has the greater byte.

## What is here

* `Text.bytes` — the UTF-8 bytes of a text, and `Text.bytes_lt_of_lt`: they keep the order of texts.
* `NameMap.Ascending` — a map whose entries are in ascending order of name, as insertion leaves them
  (`NameMap.Ascending.insert`), so that no name has two entries.
* `NameMap.find?_ofList` and `NameMap.mem_names_ofList` — what the map of a list of entries holds.
* `NameMap.filter_ofList` — names can be left out before or after.
-/

set_option autoImplicit false

namespace ClauseSql

/-! ## Bytes -/

namespace Text

/-- The UTF-8 bytes of a text. -/
def bytes (text : String) : List UInt8 := text.toUTF8.data.toList

theorem bytes_eq_flatMap (text : String) :
    bytes text = text.toList.flatMap String.utf8EncodeChar := by
  rw [bytes, String.toUTF8_eq_toByteArray, ← String.utf8Encode_toList]
  exact List.toList_data_toByteArray

/-- Of two characters the greater one has the greater bytes, whatever follows them. -/
theorem utf8EncodeChar_append_lt {c d : Char} (h : c < d) (front back : List UInt8) :
    String.utf8EncodeChar c ++ front < String.utf8EncodeChar d ++ back := by
  have hlt : c.val.toNat < d.val.toNat := UInt32.lt_iff_toNat_lt.1 h
  have hmax : d.val.toNat < 1114112 := by
    rcases d.valid with hd | hd <;> omega
  unfold String.utf8EncodeChar
  dsimp only
  -- One case for each pair of lengths.  The bytes are digits to the base of 64, each with an offset.
  split_ifs <;>
    simp (disch := omega) only [List.cons_append, List.nil_append, List.cons_lt_cons_iff,
      UInt8.lt_iff_toNat_lt, ← UInt8.toNat_inj, UInt8.toNat_ofNat', Nat.mod_eq_of_lt] <;>
    omega

theorem flatMap_utf8EncodeChar_lt {front back : List Char} (h : front < back) :
    front.flatMap String.utf8EncodeChar < back.flatMap String.utf8EncodeChar := by
  induction front generalizing back with
  | nil =>
    cases back with
    | nil => exact absurd h (List.lt_irrefl [])
    | cons d back =>
      obtain ⟨byte, rest, hcons⟩ := List.exists_cons_of_ne_nil (String.utf8EncodeChar_ne_nil (c := d))
      rw [List.flatMap_nil, List.flatMap_cons, hcons, List.cons_append]
      exact List.nil_lt_cons byte _
  | cons c front ih =>
    cases back with
    | nil => exact absurd h (List.not_lt_nil _)
    | cons d back =>
      rw [List.flatMap_cons, List.flatMap_cons]
      rcases List.cons_lt_cons_iff.1 h with hlt | ⟨rfl, hlt⟩
      · exact utf8EncodeChar_append_lt hlt _ _
      · exact List.append_left_lt (ih hlt)

/-- A smaller text has smaller bytes. -/
theorem bytes_lt_of_lt {text other : String} (h : text < other) : bytes text < bytes other := by
  rw [bytes_eq_flatMap, bytes_eq_flatMap]
  exact flatMap_utf8EncodeChar_lt (String.lt_iff.1 h)

end Text

/-! ## Entries -/

namespace NameMap

variable {α : Type}

theorem mem_names_insert {key name : String} {value : α} {map : NameMap α} :
    key ∈ names (insert name value map) ↔ key = name ∨ key ∈ names map := by
  induction map with
  | nil => simp [insert, names]
  | cons head rest ih =>
    obtain ⟨first, old⟩ := head
    simp only [names, List.map_cons, List.mem_cons] at ih ⊢
    rw [insert]
    split_ifs with hfirst hlt
    · subst hfirst
      simp
    · simp
    · rw [List.map_cons, List.mem_cons, ih]
      exact or_left_comm

/-- A map whose entries are in ascending order of name. -/
def Ascending (map : NameMap α) : Prop := (names map).Pairwise (· < ·)

theorem Ascending.insert {map : NameMap α} (h : Ascending map) (name : String) (value : α) :
    Ascending (NameMap.insert name value map) := by
  induction map with
  | nil => exact List.pairwise_singleton _ _
  | cons head rest ih =>
    obtain ⟨first, old⟩ := head
    obtain ⟨hfirst, hrest⟩ := List.pairwise_cons.1 h
    rw [NameMap.insert]
    split_ifs with heq hlt
    · subst heq
      exact h
    · refine List.pairwise_cons.2 ⟨fun key hkey => ?_, h⟩
      rcases List.mem_cons.1 hkey with rfl | hkey
      · exact hlt
      · exact String.lt_trans hlt (hfirst key hkey)
    · refine List.pairwise_cons.2 ⟨fun key hkey => ?_, ih hrest⟩
      rcases mem_names_insert.1 hkey with rfl | hkey
      · have hle : first ≤ key := String.not_lt.1 hlt
        exact String.not_le.1 fun hge => heq (String.le_antisymm hle hge)
      · exact hfirst key hkey

theorem Ascending.nodup {map : NameMap α} (h : Ascending map) : (names map).Nodup :=
  h.imp String.ne_of_lt

theorem insert_of_forall_lt {map : NameMap α} {name : String} (h : ∀ key ∈ names map, name < key)
    (value : α) : insert name value map = (name, value) :: map := by
  cases map with
  | nil => rfl
  | cons head rest =>
    have hlt : name < head.1 := h head.1 List.mem_cons_self
    rw [insert, if_neg (Ne.symm (String.ne_of_lt hlt)), if_pos hlt]

/-- Leaving names out and inserting can be done in either order. -/
theorem filter_insert {map : NameMap α} (h : Ascending map) (keep : String → Bool) (name : String)
    (value : α) :
    (insert name value map).filter (fun entry => keep entry.1) =
      if keep name then insert name value (map.filter fun entry => keep entry.1)
      else map.filter fun entry => keep entry.1 := by
  induction map with
  | nil => cases hkeep : keep name <;> simp [insert, hkeep]
  | cons head rest ih =>
    obtain ⟨first, old⟩ := head
    obtain ⟨hfirst, hrest⟩ := List.pairwise_cons.1 h
    by_cases heq : first = name
    · subst heq
      cases hkeep : keep first <;> simp [insert, hkeep]
    · by_cases hlt : name < first
      · have hless : ∀ key ∈ names (((first, old) :: rest).filter fun entry => keep entry.1),
            name < key := by
          intro key hkey
          obtain ⟨entry, hentry, rfl⟩ := List.mem_map.1 hkey
          rcases List.mem_cons.1 (List.mem_filter.1 hentry).1 with rfl | hmem
          · exact hlt
          · exact String.lt_trans hlt (hfirst _ (List.mem_map_of_mem hmem))
        rw [insert, if_neg heq, if_pos hlt, insert_of_forall_lt hless]
        exact List.filter_cons
      · rw [insert, if_neg heq, if_neg hlt, List.filter_cons, ih hrest]
        cases hkeep : keep first <;> by_cases hname : keep name = true <;>
          simp [insert, heq, hlt, hkeep, hname]

theorem eq_singleton {map : NameMap α} {name : String} {value : α} (h : Ascending map)
    (hall : ∀ key ∈ names map, key = name) (hfind : find? name map = some value) :
    map = [(name, value)] := by
  match map, hall, hfind with
  | (first, old) :: rest, hall, hfind =>
    obtain ⟨rfl, hrest⟩ := List.forall_mem_cons.1 hall
    obtain ⟨hlt, -⟩ := List.pairwise_cons.1 h
    rw [find?, if_pos rfl] at hfind
    cases hfind
    cases rest with
    | nil => rfl
    | cons next rest =>
      have hnext : next.1 ∈ names (next :: rest) := List.mem_cons_self
      exact absurd (hrest _ hnext) (Ne.symm (String.ne_of_lt (hlt _ hnext)))

/-! ## Maps of lists -/

theorem ofList_append_singleton (entries : List (String × α)) (entry : String × α) :
    ofList (entries ++ [entry]) = insert entry.1 entry.2 (ofList entries) := by
  rw [ofList, List.foldl_append]
  rfl

theorem mem_of_mem_ofList {entry : String × α} {entries : List (String × α)} :
    entry ∈ ofList entries → entry ∈ entries := by
  induction entries using List.reverseRecOn with
  | nil => exact id
  | append_singleton entries last ih =>
    intro h
    rw [ofList_append_singleton] at h
    rcases mem_of_mem_insert h with rfl | h
    · simp
    · exact List.mem_append_left _ (ih h)

/-- Of several entries of one name the last one counts. -/
theorem find?_ofList (entries : List (String × α)) (name : String) :
    find? name (ofList entries) =
      (entries.filter fun entry => entry.1 == name).getLast?.map Prod.snd := by
  induction entries using List.reverseRecOn with
  | nil => rfl
  | append_singleton entries entry ih =>
    rw [ofList_append_singleton, List.filter_append]
    by_cases h : entry.1 = name
    · subst h
      simp [find?_insert_self]
    · simp [find?_insert_of_ne (Ne.symm h), h, ih]

theorem mem_names_ofList {entries : List (String × α)} {name : String} :
    name ∈ names (ofList entries) ↔ name ∈ entries.map Prod.fst := by
  induction entries using List.reverseRecOn with
  | nil => rfl
  | append_singleton entries entry ih =>
    rw [ofList_append_singleton, mem_names_insert, ih, List.map_append, List.mem_append]
    simp [or_comm]

theorem ofList_eq_nil_iff {entries : List (String × α)} : ofList entries = [] ↔ entries = [] := by
  constructor
  · intro h
    refine List.eq_nil_iff_forall_not_mem.2 fun entry hentry => ?_
    have hname : entry.1 ∈ names (ofList entries) := mem_names_ofList.2 (List.mem_map_of_mem hentry)
    rw [h] at hname
    cases hname
  · rintro rfl
    rfl

theorem ascending_ofList (entries : List (String × α)) : Ascending (ofList entries) := by
  induction entries using List.reverseRecOn with
  | nil => exact List.Pairwise.nil
  | append_singleton entries entry ih =>
    rw [ofList_append_singleton]
    exact ih.insert entry.1 entry.2

theorem filter_ofList (keep : String → Bool) (entries : List (String × α)) :
    (ofList entries).filter (fun entry => keep entry.1) =
      ofList (entries.filter fun entry => keep entry.1) := by
  induction entries using List.reverseRecOn with
  | nil => rfl
  | append_singleton entries entry ih =>
    rw [ofList_append_singleton, filter_insert (ascending_ofList entries), ih, List.filter_append]
    cases hkeep : keep entry.1 <;> simp [hkeep, ofList_append_singleton]

end NameMap
end ClauseSql
