import ClauseSql.Proofs.ReadValues

/-!
# How deep values nest

The reader of texts refuses a value whose arrays and objects nest too deep.  The bound holds for every
value that it does read, and for all that the value holds.

## What is here

* `Json.nesting` — how deep arrays and objects nest in a value.
* `Reader.nesting_le_of_value` — a value that is read nests at most as deep as it may.
* `Json.nesting_le_deepest` — the bound for the values of texts.
-/

set_option autoImplicit false

namespace ClauseSql

/-! ## Nesting -/

namespace Json

mutual

/-- How deep arrays and objects nest: an array or an object is one level above the deepest of what it
holds. -/
def nesting : Json → Nat
  | .array items => 1 + nestingOfItems items
  | .object members => 1 + nestingOfMembers members
  | _ => 0

/-- The nesting of the deepest of the items. -/
def nestingOfItems : List Json → Nat
  | [] => 0
  | item :: rest => max (nesting item) (nestingOfItems rest)

/-- The nesting of the deepest of the values of members. -/
def nestingOfMembers : List (String × Json) → Nat
  | [] => 0
  | (_, value) :: rest => max (nesting value) (nestingOfMembers rest)

end

theorem nestingOfItems_le_iff {items : List Json} {n : Nat} :
    nestingOfItems items ≤ n ↔ ∀ item ∈ items, item.nesting ≤ n := by
  induction items with
  | nil => simp [nestingOfItems]
  | cons item rest ih => rw [nestingOfItems, Nat.max_le, ih, List.forall_mem_cons]

theorem nestingOfMembers_le_iff {members : Members} {n : Nat} :
    nestingOfMembers members ≤ n ↔ ∀ member ∈ members, member.2.nesting ≤ n := by
  induction members with
  | nil => simp [nestingOfMembers]
  | cons member rest ih => rw [nestingOfMembers, Nat.max_le, ih, List.forall_mem_cons]

theorem nesting_array_le_iff {items : List Json} {n : Nat} :
    nesting (.array items) ≤ n + 1 ↔ ∀ item ∈ items, item.nesting ≤ n := by
  rw [nesting, Nat.add_comm, Nat.succ_le_succ_iff, nestingOfItems_le_iff]

theorem nesting_object_le_iff {members : Members} {n : Nat} :
    nesting (.object members) ≤ n + 1 ↔ ∀ member ∈ members, member.2.nesting ≤ n := by
  rw [nesting, Nat.add_comm, Nat.succ_le_succ_iff, nestingOfMembers_le_iff]

end Json

/-- A member is there after an insertion only if it was there before or has the new value. -/
theorem Members.mem_of_mem_insert {name : String} {value : Json} {members : Members}
    {member : String × Json} (h : member ∈ insert name value members) :
    member.2 = value ∨ member ∈ members := by
  induction members with
  | nil => exact .inl (congrArg Prod.snd (List.mem_singleton.1 h))
  | cons first rest ih =>
    obtain ⟨key, old⟩ := first
    rw [insert] at h
    split at h
    · exact (List.mem_cons.1 h).imp (congrArg Prod.snd) (List.mem_cons_of_mem _)
    · rcases List.mem_cons.1 h with rfl | h
      · exact .inr List.mem_cons_self
      · exact (ih h).imp_right (List.mem_cons_of_mem _)

/-! ## Reading -/

namespace Reader

/-- **A value that is read nests at most as deep as it may.**  Induction on the levels that are left:
what an array or an object holds has one level less. -/
theorem nesting_le_of_value : ∀ {levels : Nat} {s : List Char} {step : Step Json s},
    value levels s = .ok step → step.value.nesting ≤ levels := by
  intro levels
  induction levels with
  | zero =>
    intro s step h
    have hfrom := readFrom_of_value h
    generalize step.value = read at hfrom
    cases hfrom with
    | array hlevels | object hlevels => cases hlevels
    | _ => exact Nat.le_refl 0
  | succ below ih =>
    intro s step h
    have hfrom := readFrom_of_value h
    generalize step.value = read at hfrom
    cases hfrom with
    | array hlevels hitems =>
      cases hlevels
      exact Json.nesting_array_le_iff.2 (forall_mem_of_readItems ih hitems)
    | object hlevels hmembers =>
      cases hlevels
      refine Json.nesting_object_le_iff.2 (of_readMembers
        (P := fun members : Members => ∀ member ∈ members, member.2.nesting ≤ below) ?_
        (List.forall_mem_nil _) hmembers)
      intro members name reader hreader hall s step hstep
      cases hreader
      obtain ⟨inner, hinner, hvalue⟩ := exists_of_map hstep
      rw [← hvalue]
      intro member hmember
      rcases Members.mem_of_mem_insert hmember with hnew | hold
      · exact hnew ▸ ih hinner
      · exact hall member hold
    | _ => exact Nat.zero_le _

end Reader

/-- **The value of a text nests at most `Reader.deepest` levels.** -/
theorem Json.nesting_le_deepest {text : String} {value : Json} (h : Json.parse text = .ok value) :
    value.nesting ≤ Reader.deepest := by
  obtain ⟨step, hstep, rfl, -⟩ := Json.parse_eq_ok_iff.1 h
  exact Reader.nesting_le_of_value hstep

end ClauseSql
