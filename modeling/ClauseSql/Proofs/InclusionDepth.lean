import ClauseSql.Proofs.HiddenColumns

/-!
# The depth of inclusions

A compiler can limit how deep inclusions nest.  The limit changes no query: a filter either compiles
to what it compiles to without one, or it is refused.

## What is here

* `Filter.NestsWithin` and `Query.NestsWithin` — no chain of relations is longer than a number.
* `Compiler.compiledUnder` — what a filter compiles to under a limit.
* `Compiler.compiledUnder_eq_of_nestsWithin` — a limit that a filter keeps to changes nothing.
* `Compiler.compiledUnder_or_isTooDeep` — a limit changes nothing but to refuse inclusions.
* `Compiler.limit_only_rejects` — the limit refuses exactly what nests too deep.
-/

set_option autoImplicit false

namespace ClauseSql

open CompileM

/-! ## Depth -/

/-- The inclusions that a filter lists are nested at most `limit` deep. -/
def Filter.NestsWithin (filter : Filter) (limit : Nat) : Prop :=
  ∀ names, filter.Requests names → names.length ≤ limit

/-- The inclusions of a query are nested at most `limit` deep. -/
def Query.NestsWithin (query : Query) (limit : Nat) : Prop :=
  ∀ names, query.Chain names → names.length ≤ limit

/-- The error of an inclusion that is too deep under a limit. -/
def CompileError.IsTooDeep (limit : Nat) (error : CompileError) : Prop :=
  ∃ table relation, error = .inclusionDepth table relation limit

theorem Filter.NestsWithin.mono {filter : Filter} {limit more : Nat} (h : filter.NestsWithin limit)
    (hle : limit ≤ more) : filter.NestsWithin more :=
  fun names hnames => Nat.le_trans (h names hnames) hle

namespace Compiler

variable {compiler : Compiler}

/-! ## Permission -/

/-- Where it is not reached a limit makes no difference. -/
theorem permit_limited_of_lt {limit : Option Nat} {depth : Nat} (h : ∀ n ∈ limit, depth < n)
    (table : String) (inclusion : Inclusion) (depth' : Nat) :
    (compiler.limited limit).permit depth table inclusion =
      (compiler.limited none).permit depth' table inclusion := by
  rw [permit, permit]
  dsimp only [limited]
  cases compiler.catalog.relation? table inclusion.relation with
  | none => rfl
  | some relation =>
    cases limit with
    | none => rfl
    | some n => exact if_neg (Nat.not_le.2 (h n rfl))

theorem permitsAlike_of_lt {stop : CompileError → Prop} {narrow wide : Option Nat}
    {depth depth' : Nat} (hnarrow : ∀ n ∈ narrow, depth < n) (hwide : ∀ n ∈ wide, depth' < n) :
    compiler.PermitsAlike stop narrow wide depth depth' := fun table inclusion =>
  .inl ((permit_limited_of_lt hnarrow table inclusion 0).trans
    (permit_limited_of_lt hwide table inclusion 0).symm)

/-- Where it is reached a limit refuses inclusions. -/
theorem permitsAlike_isTooDeep (limit depth depth' : Nat) :
    compiler.PermitsAlike (CompileError.IsTooDeep limit) (some limit) none depth depth' := by
  intro table inclusion
  rw [permit, permit]
  dsimp only [limited]
  cases compiler.catalog.relation? table inclusion.relation with
  | none => exact .inl rfl
  | some relation =>
    by_cases hdepth : limit ≤ depth
    · exact .inr ⟨_, ⟨table, inclusion.relation, rfl⟩, if_pos hdepth⟩
    · exact .inl (if_neg hdepth)

/-! ## Results -/

/-- What a filter compiles to under a limit. -/
def compiledUnder (compiler : Compiler) (limit : Option Nat) (schema : TableSchema)
    (filter : Filter) (journal : Journal) : Except CompileError Query :=
  ((compiler.limited limit).compile schema filter).answer journal

variable {schema : TableSchema} {filter : Filter} {journal : Journal}

theorem tracks_eq : Tracks Eq fun _ => True := by
  rintro schema - first second rfl
  exact ⟨rfl, rfl⟩

/-- **A limit that a filter keeps to changes nothing.** -/
theorem compiledUnder_eq_of_nestsWithin {limit : Option Nat}
    (h : ∀ n ∈ limit, filter.NestsWithin n) :
    compiler.compiledUnder limit schema filter journal =
      compiler.compiledUnder none schema filter journal := by
  have halike : Alike Eq (fun _ => False) ((compiler.limited limit).compile schema filter)
      ((compiler.limited none).compile schema filter) :=
    alike_compileAt tracks_eq (fun _ => trivial) 0 0 trivial filter fun names hnames k hk =>
      permitsAlike_of_lt (fun n hn => by have := h n hn names hnames; omega) nofun
  exact (halike.agree journal journal rfl).1

/-- **A limit changes nothing but to refuse inclusions.** -/
theorem compiledUnder_or_isTooDeep (limit : Nat) :
    compiler.compiledUnder (some limit) schema filter journal =
        compiler.compiledUnder none schema filter journal ∨
      ∃ error, CompileError.IsTooDeep limit error ∧
        compiler.compiledUnder (some limit) schema filter journal = .error error := by
  have halike : Alike Eq (CompileError.IsTooDeep limit)
      ((compiler.limited (some limit)).compile schema filter)
      ((compiler.limited none).compile schema filter) :=
    alike_compileAt tracks_eq (fun _ => trivial) 0 0 trivial filter fun names hnames k hk =>
      permitsAlike_isTooDeep limit _ _
  exact (halike (Eq.refl journal.cache)).imp_left And.left

/-- A filter that compiles under a limit keeps to it. -/
theorem nestsWithin_of_compiledUnder {limit : Nat} {query : Query}
    (h : compiler.compiledUnder (some limit) schema filter journal = .ok query) :
    filter.NestsWithin limit := by
  obtain ⟨after, hran⟩ := answer_eq_ok_iff.1 h
  intro names hnames
  by_contra hlong
  have := lt_limit_of_requests hnames hran rfl limit (Nat.not_le.1 hlong)
  omega

/-- So does the query that it compiles to. -/
theorem nestsWithin_query {limit : Option Nat} {query : Query} {n : Nat}
    (h : compiler.compiledUnder limit schema filter journal = .ok query)
    (hn : filter.NestsWithin n) : query.NestsWithin n := by
  obtain ⟨after, hran⟩ := answer_eq_ok_iff.1 h
  exact fun names hnames => hn names (requests_of_chain hnames hran rfl)

/-- **The limit on the depth of inclusions only rejects, and rejects exactly what is too deep.**  What
compiles without a limit compiles to the same query under a limit that its inclusions keep to, and is
refused as too deep under any other.  What fails without a limit fails with one, for the same error or
as too deep.  Hence the inclusions of a query that was compiled under a limit keep to it, and a higher
limit or none makes the same query. -/
theorem limit_only_rejects (compiler : Compiler) (schema : TableSchema) (filter : Filter)
    (journal : Journal) (limit : Nat) :
    (∀ query, compiler.compiledUnder none schema filter journal = .ok query →
      (filter.NestsWithin limit →
        compiler.compiledUnder (some limit) schema filter journal = .ok query) ∧
      (¬ filter.NestsWithin limit → ∃ table relation,
        compiler.compiledUnder (some limit) schema filter journal =
          .error (.inclusionDepth table relation limit))) ∧
    (∀ error, compiler.compiledUnder none schema filter journal = .error error →
      compiler.compiledUnder (some limit) schema filter journal = .error error ∨
        ∃ table relation, compiler.compiledUnder (some limit) schema filter journal =
          .error (.inclusionDepth table relation limit)) ∧
    ∀ query, compiler.compiledUnder (some limit) schema filter journal = .ok query →
      query.NestsWithin limit ∧
      ∀ higher, (∀ n ∈ higher, limit ≤ n) →
        compiler.compiledUnder higher schema filter journal = .ok query := by
  have hdeep : ∀ error, CompileError.IsTooDeep limit error →
      compiler.compiledUnder (some limit) schema filter journal = .error error →
      ∃ table relation, compiler.compiledUnder (some limit) schema filter journal =
        .error (.inclusionDepth table relation limit) := by
    rintro _ ⟨table, relation, rfl⟩ h
    exact ⟨table, relation, h⟩
  refine ⟨fun query hfree => ⟨fun hnests => ?_, fun hnests => ?_⟩, fun error hfree => ?_,
    fun query hlimited => ?_⟩
  · rw [compiledUnder_eq_of_nestsWithin (by rintro n ⟨⟩; exact hnests), hfree]
  · rcases compiledUnder_or_isTooDeep limit with hsame | ⟨error, htoo, herror⟩
    · exact absurd (nestsWithin_of_compiledUnder (hsame.trans hfree)) hnests
    · exact hdeep error htoo herror
  · rcases compiledUnder_or_isTooDeep limit with hsame | ⟨deep, htoo, herror⟩
    · exact .inl (hsame.trans hfree)
    · exact .inr (hdeep deep htoo herror)
  · have hnests := nestsWithin_of_compiledUnder hlimited
    have hfree : compiler.compiledUnder none schema filter journal = .ok query := by
      rw [← hlimited]
      exact (compiledUnder_eq_of_nestsWithin (by rintro n ⟨⟩; exact hnests)).symm
    refine ⟨nestsWithin_query hlimited hnests, fun higher hhigher => ?_⟩
    rw [compiledUnder_eq_of_nestsWithin fun n hn => hnests.mono (hhigher n hn), hfree]

/-! An author's posts are included, and with each post its author: two levels are enough and needed. -/

theorem requests_blogFilter : blogFilter.Requests ["posts", "author"] :=
  let scope : Filter := { included := some [.string "author"] }
  have hread : Inclusion.ofJson "posts" (.string "author") = .ok ⟨"author", none⟩ := rfl
  have hscope : scope.Requests ["author"] := .link rfl (List.mem_singleton_self _) hread (.stop _)
  have hreadScope : Inclusion.ofJson "users" (.object [("relation", .string "posts"),
      ("scope", .object [("include", .array [.string "author"])])]) = .ok ⟨"posts", some scope⟩ := rfl
  .link rfl (List.mem_singleton_self _) hreadScope hscope

theorem nestsWithin_blogFilter : blogFilter.NestsWithin 2 := by
  rintro _ (_ | ⟨⟨⟩, hitem, hread, hrest⟩)
  · exact Nat.zero_le 2
  · cases List.mem_singleton.1 hitem
    cases hread
    rcases hrest with _ | ⟨⟨⟩, hitem, hread, hrest⟩
    · exact Nat.le_succ 1
    · cases List.mem_singleton.1 hitem
      cases hread
      cases Filter.Requests.eq_nil hrest
      exact Nat.le_refl 2

theorem limit_only_rejects_blog : ∃ query,
    blog.compiledUnder (some 2) blogUsers blogFilter {} = .ok query ∧ query.NestsWithin 2 ∧
      ∃ table relation, blog.compiledUnder (some 1) blogUsers blogFilter {} =
        .error (.inclusionDepth table relation 1) := by
  let author : Query := { projection := some [("id", true)] }
  let posts : Query := { included := some [("author", .scoped author)] }
  let users : Query := { included := some [("posts", .scoped posts)] }
  have hfree : blog.compiledUnder none blogUsers blogFilter {} = .ok users := by
    with_unfolding_all rfl
  have hdeep : ¬ blogFilter.NestsWithin 1 := fun h => by
    have := h _ requests_blogFilter
    exact absurd this (by decide)
  obtain ⟨hkept, -, hlimited⟩ := limit_only_rejects blog _ blogFilter {} 2
  obtain ⟨hrejected, -, -⟩ := limit_only_rejects blog _ blogFilter {} 1
  have htwo := (hkept users hfree).1 nestsWithin_blogFilter
  exact ⟨users, htwo, (hlimited users htwo).1, (hrejected users hfree).2 hdeep⟩

end Compiler
end ClauseSql
