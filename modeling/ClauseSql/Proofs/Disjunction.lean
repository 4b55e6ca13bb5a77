import ClauseSql.Proofs.Leaves
import Mathlib.Data.List.ReduceOption

/-!
# Groups of alternatives

A clause that asks for nothing compiles to no predicate, and so holds of every row.  A group of
alternatives is joined from the predicates that its clauses compile to, and a clause without one is
left out of it, as if it held of no row.

## What is here

* `Clause.anyOf` — the clause that one of some clauses holds, and `Clause.compile_anyOf`, what it
  compiles to.
* `Clause.compile_eq_none_iff` — the clauses without a predicate are those that ask for nothing.
* `closed_fails` — a compiled predicate fails where all of its leaves do.
* `Clause.disjunction_anyOf_iff` — a group is the disjunction of its clauses just when all of them
  ask for something, or none does.
* `Clause.anyOf_leaves_out_matchAll` — a group that is not.
-/

set_option autoImplicit false

namespace ClauseSql

/-! ## The predicate of a group -/

/-- The clause that one of some clauses holds. -/
def Clause.anyOf (clauses : List Clause) : Clause := [("or", .array (clauses.map .object))]

theorem reduceOption_cons {α : Type} (first : Option α) (rest : List (Option α)) :
    (first :: rest).reduceOption = first.toList ++ rest.reduceOption := by
  cases first with
  | none => exact List.reduceOption_cons_of_none rest
  | some value => exact List.reduceOption_cons_of_some value rest

/-- The clauses of a group compile when each of them does, and those without a predicate are left
out. -/
theorem compileMembers_of_mapM {columns : ColumnSet} {key : String} {clauses : List Clause} :
    ∀ {results : List (Option Predicate)}, clauses.mapM (Clause.compile columns) = .ok results →
    compileMembers columns key (clauses.map .object) = .ok results.reduceOption := by
  induction clauses with
  | nil =>
    intro results h
    cases h
    rfl
  | cons clause rest ih =>
    intro results h
    obtain ⟨first, hfirst, h⟩ := bind_eq_ok_iff.1 (List.mapM_cons (f := Clause.compile columns) ▸ h)
    obtain ⟨more, hmore, h⟩ := bind_eq_ok_iff.1 h
    obtain ⟨terms, hterms, hjoined⟩ := bind_eq_ok_iff.1 hfirst
    cases h
    cases hjoined
    rw [List.map_cons, compileMembers, hterms, ih hmore, reduceOption_cons]
    rfl

namespace Clause

variable {columns : ColumnSet} {clauses : List Clause} {results : List (Option Predicate)}

/-- A group of alternatives compiles when each of its clauses does, to the disjunction of their
predicates. -/
theorem compile_anyOf (h : clauses.mapM (compile columns) = .ok results) :
    (anyOf clauses).compile columns = .ok (Predicate.any results.reduceOption) := by
  have hentry : compileEntry columns "or" (.array (clauses.map .object)) =
      .ok (Predicate.any results.reduceOption).toList := by
    rw [compileEntry, compileMembers_of_mapM h]
    rfl
  rw [compile, anyOf, compileEntries, hentry]
  cases Predicate.any results.reduceOption <;> rfl

/-! ## Clauses that ask for nothing -/

theorem compile_eq_none_iff {clause : Clause} {result : Option Predicate}
    (h : clause.compile columns = .ok result) : result = none ↔ asksEntries clause = false := by
  obtain ⟨terms, hterms, h⟩ := bind_eq_ok_iff.1 h
  cases h
  obtain ⟨-, hasks⟩ := entriesTruth_of_compile (fun _ => .unknown) clause hterms
  rw [Predicate.all_eq_none_iff, hasks]

theorem none_mem_iff (h : clauses.mapM (compile columns) = .ok results) :
    none ∈ results ↔ ∃ clause ∈ clauses, asksEntries clause = false := by
  refine ⟨fun hnone => ?_, fun ⟨clause, hclause, hasks⟩ => ?_⟩
  · obtain ⟨clause, hclause, hcompile⟩ := exists_of_mem_mapM h hnone
    exact ⟨clause, hclause, (compile_eq_none_iff hcompile).1 rfl⟩
  · obtain ⟨result, hresult, hcompile⟩ := exists_of_mapM_eq_ok h clause hclause
    exact (compile_eq_none_iff hcompile).2 hasks ▸ hresult

theorem reduceOption_eq_nil_iff (h : clauses.mapM (compile columns) = .ok results) :
    results.reduceOption = [] ↔ ∀ clause ∈ clauses, asksEntries clause = false := by
  rw [List.reduceOption, List.filterMap_eq_nil_iff]
  refine ⟨fun hnone clause hclause => ?_, fun hasks result hresult => ?_⟩
  · obtain ⟨result, hresult, hcompile⟩ := exists_of_mapM_eq_ok h clause hclause
    exact (compile_eq_none_iff hcompile).1 (hnone result hresult)
  · obtain ⟨clause, hclause, hcompile⟩ := exists_of_mem_mapM h hresult
    exact (compile_eq_none_iff hcompile).2 (hasks clause hclause)

/-! ## The truth of a group -/

/-- Where all leaves fail, so does every predicate of a clause: no group in it is empty. -/
theorem closed_fails (columns : ColumnSet) :
    Closed columns fun predicate => predicate.truth (fun _ => .fails) = .fails where
  leaf h := Predicate.truth_of_isLeaf _ h.isLeaf
  and {terms} hlength h := by
    match terms, hlength with
    | first :: rest, _ =>
      rw [Predicate.truth_and, List.map_cons, h first List.mem_cons_self]
      rfl
  or {terms} _ h := by
    rw [Predicate.truth_or]
    exact Truth.any_eq_fails (List.forall_mem_map.2 h)

theorem truth_fails_of_mem (h : clauses.mapM (compile columns) = .ok results) :
    ∀ predicate ∈ results.reduceOption, predicate.truth (fun _ => .fails) = .fails := by
  intro predicate hpredicate
  obtain ⟨clause, -, hcompile⟩ := exists_of_mem_mapM h (List.reduceOption_mem_iff.1 hpredicate)
  exact (closed_fails columns).of_compile hcompile

theorem map_truth_reduceOption (assign : Predicate → Truth) (h : none ∉ results) :
    results.reduceOption.map (Predicate.truth assign) =
      results.map (Predicate.truthOfJoined assign) := by
  induction results with
  | nil => rfl
  | cons first rest ih =>
    rw [List.mem_cons, not_or] at h
    obtain ⟨predicate, rfl⟩ := Option.ne_none_iff_exists'.1 (Ne.symm h.1)
    rw [List.reduceOption_cons_of_some, List.map_cons, List.map_cons, ih h.2]
    rfl

/-- **When a group is the disjunction of its clauses.**  A group of alternatives compiles when each
of its clauses does.  The clauses that ask for nothing are left out of it, although each of them
holds of every row, so that it means what one of its clauses means just when all of them ask for
something or none does. -/
theorem disjunction_anyOf_iff (hne : clauses ≠ [])
    (h : clauses.mapM (compile columns) = .ok results) :
    ∃ result, (anyOf clauses).compile columns = .ok result ∧
      (∀ assign, Predicate.truthOfJoined assign result =
        Junction.or.truth (results.reduceOption.map (Predicate.truth assign))) ∧
      ((∀ assign, Predicate.truthOfJoined assign result =
          Truth.any (results.map (Predicate.truthOfJoined assign))) ↔
        (∀ clause ∈ clauses, asksEntries clause = true) ∨
          ∀ clause ∈ clauses, asksEntries clause = false) := by
  refine ⟨_, compile_anyOf h, fun assign => truthOfJoined_join assign .or _, fun hall => ?_, ?_⟩
  · by_cases hnothing : results.reduceOption = []
    · exact .inr ((reduceOption_eq_nil_iff h).1 hnothing)
    refine .inl fun clause hclause => ?_
    by_contra hasks
    -- where all leaves fail, a clause that holds of every row is all that makes the disjunction hold
    have hnone : none ∈ results :=
      (none_mem_iff h).2 ⟨clause, hclause, eq_false_of_ne_true hasks⟩
    have hholds := Truth.any_eq_holds
      (List.mem_map_of_mem (f := Predicate.truthOfJoined fun _ => .fails) hnone)
    have hfails := Truth.any_eq_fails (List.forall_mem_map.2 (truth_fails_of_mem h))
    have hequal := hall fun _ => .fails
    rw [Predicate.truthOfJoined_any _ hnothing, hfails, hholds] at hequal
    cases hequal
  · rintro (hasks | hasks) assign
    · have hnone : none ∉ results := fun hmem => by
        obtain ⟨clause, hclause, hnot⟩ := (none_mem_iff h).1 hmem
        exact Bool.noConfusion ((hasks clause hclause).symm.trans hnot)
      have hsome : results.reduceOption ≠ [] := fun hnil => by
        obtain ⟨clause, hclause⟩ := List.exists_mem_of_ne_nil clauses hne
        exact Bool.noConfusion ((hasks clause hclause).symm.trans
          ((reduceOption_eq_nil_iff h).1 hnil clause hclause))
      rw [Predicate.truthOfJoined_any assign hsome, map_truth_reduceOption assign hnone]
    · obtain ⟨clause, hclause⟩ := List.exists_mem_of_ne_nil clauses hne
      have hnone : none ∈ results := (none_mem_iff h).2 ⟨clause, hclause, hasks clause hclause⟩
      rw [(reduceOption_eq_nil_iff h).2 hasks]
      exact (Truth.any_eq_holds
        (List.mem_map_of_mem (f := Predicate.truthOfJoined assign) hnone)).symm

/-- A null check, a clause whose groups are all empty, and a clause of two operators. -/
def someAsk : List Clause :=
  [[("a", .null)], [("and", .array [.object [("or", .array [])]])],
    [("a", .object [("ne", .string "x"), ("like", .string "y%")])]]

theorem disjunction_anyOf_someAsk :
    someAsk.mapM (compile ⟨"t", [⟨"a", .text⟩]⟩) = .ok [some (.isNull (.column "a")), none,
        some (.and [.compare (.column "a") .ne (.string "x"),
          .like (.column "a") "y%" false false])] ∧
      (anyOf someAsk).compile ⟨"t", [⟨"a", .text⟩]⟩ = .ok (some (.or [.isNull (.column "a"),
        .and [.compare (.column "a") .ne (.string "x"), .like (.column "a") "y%" false false]])) ∧
      ¬ ∀ assign, Predicate.truthOfJoined assign (some (.or [.isNull (.column "a"),
          .and [.compare (.column "a") .ne (.string "x"), .like (.column "a") "y%" false false]])) =
        Truth.any ([some (.isNull (.column "a")), none,
          some (.and [.compare (.column "a") .ne (.string "x"),
            .like (.column "a") "y%" false false])].map (Predicate.truthOfJoined assign)) := by
  have h : someAsk.mapM (compile ⟨"t", [⟨"a", .text⟩]⟩) = .ok [some (.isNull (.column "a")), none,
      some (.and [.compare (.column "a") .ne (.string "x"), .like (.column "a") "y%" false false])] :=
    rfl
  obtain ⟨result, hresult, -, hiff⟩ := disjunction_anyOf_iff (List.cons_ne_nil _ _) h
  cases (compile_anyOf h).symm.trans hresult
  refine ⟨h, hresult, fun hall => ?_⟩
  rcases hiff.1 hall with hasks | hasks
  · exact absurd (hasks _ (List.mem_cons_of_mem _ List.mem_cons_self)) (by decide)
  · exact absurd (hasks _ List.mem_cons_self) (by decide)

/-- **A group that is not the disjunction of its clauses.**  The first clause of two asks for nothing
and so holds of every row.  Their group is the second clause alone, which fails of some. -/
theorem anyOf_leaves_out_matchAll :
    [[], [("a", .number (.int 1))]].mapM (compile ⟨"t", [⟨"a", .integer⟩]⟩) =
        .ok [none, some (.compare (.column "a") .eq (.number (.int 1)))] ∧
      (anyOf [[], [("a", .number (.int 1))]]).compile ⟨"t", [⟨"a", .integer⟩]⟩ =
        .ok (some (.compare (.column "a") .eq (.number (.int 1)))) ∧
      ∃ assign, Predicate.truthOfJoined assign
          (some (.compare (.column "a") .eq (.number (.int 1)))) = .fails ∧
        Truth.any ([none, some (.compare (.column "a") .eq (.number (.int 1)))].map
          (Predicate.truthOfJoined assign)) = .holds :=
  ⟨rfl, rfl, fun _ => .fails, rfl, rfl⟩

end Clause
end ClauseSql
