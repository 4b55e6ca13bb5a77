import ClauseSql.Proofs.Blame
import ClauseSql.Proofs.SharedCache

/-!
# The first fault

A compilation fails where the first of its steps fails, and with the error of that step.

Which columns a table has is found out while compiling, so the steps are given for the columns that
are known in the end: what was found for a table is still known then, and a table for which nothing was
found is where the compilation ended.

## What is here

* `Follows` — a computation fails where the first of some steps does.  Sequences of computations follow
  sequences of steps (`Follows.bind`).
* `Compiler.follows_compileAt` — compiling a filter follows the steps of the filter.
* `Compiler.fails_at_first_fault` — the error of a compilation is that of the first step that fails,
  and tells the stage and the table of this step.
-/

set_option autoImplicit false

namespace ClauseSql

open CompileM

/-- The columns that a table has when a journal is all that is known. -/
def Journal.columnsOf (journal : Journal) (schema : TableSchema) : Except CompileError ColumnSet :=
  (journal.cache.resolve schema).1

namespace CompileM

variable {α β : Type}

/-- A later journal confirms how a computation ended: nothing that was known then is forgotten, and
nothing more is known when it failed. -/
structure Confirms (answer : Except CompileError α) (left later : Journal) : Prop where
  keeps : left.Keeps later
  same : ∀ {error}, answer = .error error → later.cache = left.cache

/-- A computation that fails where the first of some steps does.  What the steps are may depend on what
is known in the end. -/
structure Follows (x : CompileM α) (before : Journal) (steps : Journal → List Check) : Prop where
  keeps : before.Keeps (x.left before)
  fault : ∀ {later}, Confirms (x.answer before) (x.left before) later →
    firstFault (steps later) = faultOf (x.answer before)

section Bind

variable {x : CompileM α} {f : α → CompileM β} {before : Journal}
  {front : Journal → List Check} {back : α → Journal → List Check} {steps : Journal → List Check}

/-- **A sequence follows the steps of its parts**, one after the other.  What comes after a failure
does not matter. -/
theorem Follows.bind (hx : Follows x before front)
    (hf : ∀ {value}, x.answer before = .ok value → Follows (f value) (x.left before) (back value))
    (hsteps : ∀ {later}, Confirms (x.answer before) (x.left before) later →
      ∃ rest, steps later = front later ++ rest ∧
        ∀ {value}, x.answer before = .ok value → rest = back value later) :
    Follows (x >>= f) before steps := by
  cases hanswer : x.answer before with
  | error error =>
    obtain ⟨hfails, hleft⟩ := bind_of_error (f := f) hanswer
    refine ⟨hleft ▸ hx.keeps, fun {later} hlater => ?_⟩
    have hconfirms : Confirms (x.answer before) (x.left before) later :=
      ⟨hleft ▸ hlater.keeps, fun _ => hleft ▸ hlater.same hfails⟩
    obtain ⟨rest, hrest, -⟩ := hsteps hconfirms
    rw [hrest, firstFault_append, hx.fault hconfirms, hanswer, hfails]
    rfl
  | ok value =>
    obtain ⟨hnext, hleft⟩ := bind_of_ok (f := f) hanswer
    have hvalue := hf hanswer
    refine ⟨hleft ▸ hx.keeps.trans hvalue.keeps, fun {later} hlater => ?_⟩
    rw [hleft, hnext] at hlater
    have hconfirms : Confirms (x.answer before) (x.left before) later :=
      ⟨hvalue.keeps.trans hlater.keeps, fun h => by cases hanswer.symm.trans h⟩
    obtain ⟨rest, hrest, heq⟩ := hsteps hconfirms
    rw [hrest, heq hanswer, firstFault_append, hx.fault hconfirms, hanswer, hnext,
      hvalue.fault hlater]
    rfl

theorem Follows.append {back : Journal → List Check} (hx : Follows x before front)
    (hf : ∀ {value}, x.answer before = .ok value → Follows (f value) (x.left before) back) :
    Follows (x >>= f) before fun later => front later ++ back later :=
  hx.bind hf fun {later} _ => ⟨back later, rfl, fun _ => rfl⟩

theorem Silent.follows {result : Except CompileError α} (h : Silent x result)
    {checks : List Check} (hchecks : firstFault checks = faultOf result) :
    Follows x before fun _ => checks where
  keeps := .of_cache (h before).2.symm
  fault _ := hchecks.trans (congrArg faultOf (h before).1.symm)

theorem follows_pure (value : α) : Follows (pure value) before fun _ => [] :=
  (silent_pure value).follows rfl

theorem Follows.map (hx : Follows x before front) (g : α → β) :
    Follows (x >>= fun value => pure (g value)) before front :=
  hx.bind (fun _ => follows_pure _)
    fun _ => ⟨[], (List.append_nil _).symm, fun _ => rfl⟩

theorem follows_check (stage : Stage) (table : String) (result : Except CompileError α) :
    Follows (check result) before fun _ => [Check.of stage table result] := by
  refine (silent_check result).follows ?_
  rw [firstFault_of, firstFault_nil, Option.or_none]

/-- A check is a step, and what it leads to follows. -/
theorem follows_check_bind {result : Except CompileError α} {stage : Stage} {table : String}
    (hf : ∀ {value}, result = .ok value → ∀ journal, Follows (f value) journal (back value)) :
    Follows (check result >>= f) before fun later =>
      Check.leading stage table result fun value => back value later := by
  refine (follows_check stage table result).bind (fun hvalue => hf hvalue _)
    fun {later} _ => ⟨_, rfl, fun {value} hvalue => ?_⟩
  have hresult : result = .ok value := hvalue
  rw [hresult]

/-- What is known of a table in the end is what was found. -/
theorem columnsOf_of_confirms {schema : TableSchema} {later : Journal}
    (h : Confirms ((resolve schema).answer before) ((resolve schema).left before) later) :
    later.columnsOf schema = (resolve schema).answer before := by
  cases hanswer : (resolve schema).answer before with
  | error error =>
    rw [answer_resolve] at hanswer
    have hsame : later.cache = before.cache := by
      rw [h.same ((answer_resolve schema before).trans hanswer), cache_left_resolve]
      exact (ColumnCache.find?_eq_none_of_resolve_error hanswer).1
    rw [Journal.columnsOf, hsame, hanswer]
  | ok columns =>
    obtain ⟨after, hran⟩ := answer_eq_ok_iff.1 hanswer
    have hknown := h.keeps _ _ (hran.left_eq ▸ ColumnCache.find?_of_resolve (ran_resolve hran))
    rw [Journal.columnsOf, ColumnCache.resolve, hknown]

/-- So is looking up the columns of a table. -/
theorem follows_resolve_bind {schema : TableSchema} {f : ColumnSet → CompileM β}
    {back : ColumnSet → Journal → List Check}
    (hf : ∀ columns journal, Follows (f columns) journal (back columns)) :
    Follows (resolve schema >>= f) before fun later =>
      Check.leading .schema schema.name (later.columnsOf schema) fun columns =>
        back columns later := by
  have hresolve : Follows (resolve schema) before fun later =>
      [Check.of .schema schema.name (later.columnsOf schema)] :=
    { keeps := (repeatable_resolve schema).keeps before
      fault := fun hlater => by
        rw [firstFault_of, firstFault_nil, Option.or_none, columnsOf_of_confirms hlater] }
  refine hresolve.bind (fun _ => hf _ _) fun {later} hlater => ⟨_, rfl, fun {columns} hok => ?_⟩
  rw [columnsOf_of_confirms hlater, hok]

end Bind
end CompileM

/-! ## The members of a filter -/

namespace Compiler

variable {compiler : Compiler} {before : Journal}

theorem follows_compileClause (table : String) (columns : ColumnSet) (clause : Option Clause) :
    Follows (compileClause columns clause) before fun _ => clauseSteps table columns clause := by
  refine (silent_compileClause columns clause).follows ?_
  cases clause with
  | none => rfl
  | some clause => exact (firstFault_entriesSteps clause).trans (faultOf_map ..).symm

theorem follows_compileOrder (table : String) (columns : ColumnSet)
    (entries : Option (List String)) :
    Follows (compileOrder columns entries) before fun _ => orderSteps table columns entries := by
  refine (silent_compileOrder columns entries).follows ?_
  cases entries with
  | none => rfl
  | some entries => exact (firstFault_order columns entries).trans (faultOf_map ..).symm

theorem follows_compileProjection (table : String) (fields : Option Json) :
    Follows (compileProjection table fields) before fun _ => fieldsSteps table fields := by
  refine (silent_compileProjection table fields).follows ?_
  cases fields with
  | none => rfl
  | some fields =>
    rw [fieldsSteps, firstFault_of, firstFault_nil, Option.or_none]
    exact (faultOf_map ..).symm

/-- The projection of a compiled query is the one that its fields ask for. -/
theorem requestedOf_of_ran_compileAt {depth : Nat} {schema : TableSchema} {filter : Filter}
    {query : Query} {after : Journal}
    (h : Ran (compileAt compiler depth schema filter) before query after) :
    requestedOf schema.name filter.fields = .ok query.projection := by
  rw [compileAt_eq] at h
  obtain ⟨columns, _, -, h⟩ := ran_bind_iff.1 h
  obtain ⟨condition, _, -, h⟩ := ran_bind_iff.1 h
  obtain ⟨order, ordered, -, h⟩ := ran_bind_iff.1 h
  obtain ⟨projection, _, hprojection, h⟩ := ran_bind_iff.1 h
  obtain ⟨included, _, -, h⟩ := ran_bind_iff.1 h
  obtain ⟨rfl, -⟩ := ran_pure_iff.1 h
  have hsilent := silent_compileProjection schema.name filter.fields ordered
  exact hsilent.1.symm.trans hprojection.answer_eq

/-! ## Inclusions -/

/-- Hiding columns of a table that is known follows its step. -/
theorem follows_hide {target : TableSchema} {fields : Option Json} {query : Query}
    {columns : ColumnSet} (hknown : NameMap.find? target.name before.cache = some columns)
    (hfields : requestedOf target.name fields = .ok query.projection)
    (hidden : Option (List String)) :
    Follows (hide target hidden query) before fun later =>
      hidingSteps later.columnsOf target fields hidden := by
  cases hidden with
  | none => exact follows_pure query
  | some hidden =>
    have hresolve : ∀ journal, before.Keeps journal → journal.columnsOf target = .ok columns := by
      intro journal hkeeps
      rw [Journal.columnsOf, ColumnCache.resolve, hkeeps _ _ hknown]
    have hfound : (resolve target).answer before = .ok columns :=
      (answer_resolve target before).trans (hresolve before (.refl before))
    have hkeeps := (repeatable_resolve target).keeps before
    have hlook : Follows (resolve target) before fun _ => [] :=
      ⟨hkeeps, fun _ => (congrArg faultOf hfound).symm⟩
    refine hlook.bind (fun {found} _ =>
      (follows_check .fields target.name (visibleColumns found query.projection hidden)).map _)
      fun {later} hlater => ⟨_, rfl, fun {found} hok => ?_⟩
    cases hfound.symm.trans hok
    have hsame := hresolve later (hkeeps.trans hlater.keeps)
    simp only [hsame, hfields]

/-- One inclusion, with what it makes. -/
def includeOne (compiler : Compiler) (depth : Nat) (schema : TableSchema) (item : Json) :
    CompileM (Inclusion × Related Query) := do
  let inclusion ← check (Inclusion.ofJson schema.name item)
  let relation ← check (permit compiler depth schema.name inclusion)
  let related ← relate compiler depth schema.name inclusion relation
  return (inclusion, related)

theorem compileIncluded_cons_eq (depth : Nat) (schema : TableSchema)
    (done : NameMap (Related Query)) (item : Json) (rest : List Json) :
    compileIncluded compiler depth schema done (item :: rest) = (do
      let made ← includeOne compiler depth schema item
      compileIncluded compiler depth schema (NameMap.insert made.1.relation made.2 done) rest) := by
  rw [compileIncluded_cons, includeOne]
  simp only [bind_assoc, pure_bind]

theorem check_permit_bind {α : Type} (depth : Nat) (table : String) (inclusion : Inclusion)
    (f : Relation → CompileM α) :
    check (permit compiler depth table inclusion) >>= f = (do
      let relation ← check (compiler.lookUp table inclusion)
      check (compiler.allow depth table inclusion)
      f relation) := by
  rw [permit_eq]
  cases compiler.lookUp table inclusion with
  | error error => rfl
  | ok relation => cases compiler.allow depth table inclusion <;> rfl

mutual

/-- **Compiling a filter follows the steps of the filter.** -/
theorem follows_compileAt (depth : Nat) (schema : TableSchema) (filter : Filter)
    (before : Journal) :
    Follows (compileAt compiler depth schema filter) before fun later =>
      stepsAt compiler later.columnsOf depth schema filter := by
  simp only [stepsAt_eq]
  rw [compileAt_eq]
  refine follows_resolve_bind fun columns _ => ?_
  refine (follows_compileClause schema.name columns _).append fun {condition} _ => ?_
  refine (follows_compileOrder schema.name columns _).append fun {order} _ => ?_
  refine (follows_compileProjection schema.name _).append fun {projection} _ => ?_
  refine Follows.map ?_ fun included => _
  match hincluded : filter.included with
  | none | some [] => simpa only [Option.getD, includedSteps, includeAll] using follows_pure none
  | some (item :: rest) =>
    rw [includeAll, map_eq_pure_bind]
    exact (follows_compileIncluded depth schema [] (item :: rest) _).map some
termination_by sizeOf filter.included
decreasing_by
  rw [hincluded, Option.some.sizeOf_spec]
  omega

theorem follows_compileIncluded (depth : Nat) (schema : TableSchema)
    (done : NameMap (Related Query)) (items : List Json) (before : Journal) :
    Follows (compileIncluded compiler depth schema done items) before fun later =>
      includedSteps compiler later.columnsOf depth schema items := by
  match items with
  | [] =>
    rw [compileIncluded]
    simpa only [includedSteps] using follows_pure done
  | item :: rest =>
    rw [compileIncluded_cons_eq]
    simp only [includedSteps_cons]
    refine Follows.append ?_ fun _ => follows_compileIncluded depth schema _ rest _
    refine follows_check_bind fun {inclusion} hinclusion journal => ?_
    rw [check_permit_bind]
    refine follows_check_bind fun {relation} _ journal => ?_
    refine (follows_check .include schema.name (compiler.allow depth schema.name inclusion)).append
      fun _ => ?_
    refine Follows.map ?_ _
    rw [relate]
    split
    · exact follows_pure _
    · refine follows_check_bind fun {target} _ journal => ?_
      refine (follows_compileAt (depth + 1) target (inclusion.scope.getD {}) journal).append
        fun {query} hquery => ?_
      obtain ⟨after, hran⟩ := answer_eq_ok_iff.1 hquery
      obtain ⟨columns, hknown⟩ := known_of_ran_compileAt hran
      exact (follows_hide (hran.left_eq ▸ hknown) (requestedOf_of_ran_compileAt hran) _).map _
termination_by sizeOf items
decreasing_by
  · exact Inclusion.sizeOf_scopeOrEmpty hinclusion rest
  · rw [List.cons.sizeOf_spec]
    omega

end

end Compiler

/-! ## Names -/

/-- The columns that tables declare are named after them. -/
theorem ColumnSet.naming_ofSchema : Naming ofSchema where
  table {schema columns} h := by
    obtain ⟨-, rfl⟩ := ofSchema_eq_ok_iff.1 h
    rfl
  error {schema error} h := by
    obtain ⟨-, rfl⟩ := ofSchema_eq_error_iff.1 h
    rfl

namespace ColumnCache

/-- A cache that knows columns under the names of their tables. -/
def Named (cache : ColumnCache) : Prop :=
  ∀ name columns, NameMap.find? name cache = some columns → columns.table = name

theorem named_nil : Named [] := nofun

variable {cache : ColumnCache}

theorem Named.naming (h : cache.Named) : Naming fun schema => (cache.resolve schema).1 := by
  have hresult : ∀ schema, (∃ columns, NameMap.find? schema.name cache = some columns ∧
      (cache.resolve schema).1 = .ok columns) ∨
        (cache.resolve schema).1 = ColumnSet.ofSchema schema := by
    intro schema
    rw [resolve]
    split
    · rename_i columns hfind
      exact .inl ⟨columns, hfind, rfl⟩
    · split <;> rename_i hschema <;> exact .inr hschema.symm
  refine ⟨fun {schema columns} hok => ?_, fun {schema error} herror => ?_⟩ <;>
    rcases hresult schema with ⟨known, hfind, hknown⟩ | hdeclared
  · cases hok.symm.trans hknown
    exact h _ _ hfind
  · exact ColumnSet.naming_ofSchema.table (hdeclared.symm.trans hok)
  · cases herror.symm.trans hknown
  · exact ColumnSet.naming_ofSchema.error (hdeclared.symm.trans herror)

theorem Named.resolve (h : cache.Named) (schema : TableSchema) :
    (cache.resolve schema).2.Named := by
  intro name columns hfind
  rw [find?_resolve] at hfind
  rcases Option.or_eq_some_iff.1 hfind with hknown | ⟨-, hnew⟩
  · exact h name columns hknown
  · split at hnew
    · rename_i hsupplies
      cases hnew
      exact eq_of_beq (Bool.and_eq_true_iff.1 hsupplies).1
    · cases hnew

theorem tracks_named : Tracks (fun first second => first = second ∧ first.Named) fun _ => True := by
  rintro schema - first _ ⟨rfl, hnamed⟩
  exact ⟨rfl, rfl, hnamed.resolve schema⟩

end ColumnCache

/-- Calls keep columns under the names of their tables. -/
theorem Call.named_performAll (catalog : Catalog) (calls : List Call) :
    ∀ {journal : Journal}, journal.cache.Named → (performAll catalog calls journal).2.cache.Named := by
  induction calls with
  | nil => intro journal h; exact h
  | cons call rest ih =>
    intro journal h
    have halike : Alike _ _ (call.perform catalog) (call.perform catalog) :=
      alike_perform ColumnCache.tracks_named (fun _ => trivial) trivial
    exact ih (halike.agree journal journal ⟨rfl, h⟩).2.2

namespace Compiler

/-- The steps of compiling a filter when a journal is what is known. -/
def trail (compiler : Compiler) (schema : TableSchema) (filter : Filter) (before : Journal) :
    List Check :=
  compiler.steps ((compiler.compile schema filter).left before).columnsOf schema filter

variable {compiler : Compiler} {schema : TableSchema} {filter : Filter} {before : Journal}

theorem firstFault_trail (compiler : Compiler) (schema : TableSchema) (filter : Filter)
    (before : Journal) :
    firstFault (compiler.trail schema filter before) =
      faultOf ((compiler.compile schema filter).answer before) :=
  (follows_compileAt 0 schema filter before).fault ⟨.refl _, fun _ => rfl⟩

theorem places_trail (h : before.cache.Named) :
    ∀ check ∈ compiler.trail schema filter before, check.Places := by
  have halike : Alike _ _ (compiler.compile schema filter) (compiler.compile schema filter) :=
    alike_compile compiler ColumnCache.tracks_named (fun _ => trivial) trivial filter
  have hnamed := (halike.agree before before ⟨rfl, h⟩).2.2
  exact places_stepsAt hnamed.naming 0 schema filter

theorem trail_eq (hun : Unambiguous (compiler.tables schema))
    (hsound : before.cache.Sound (compiler.tables schema)) :
    compiler.trail schema filter before = compiler.steps ColumnSet.ofSchema schema filter := by
  have hafter : ((compiler.compile schema filter).left before).cache.Sound
      (compiler.tables schema) := sound_left_compile hun hsound
  exact stepsAt_congr (fun htarget => hafter.resolve_eq (mem_tables htarget)) 0
    (hafter.resolve_eq List.mem_cons_self) filter

/-- A compilation fails with the error of the first step that fails. -/
theorem answer_eq_error_iff {error : CompileError} :
    (compiler.compile schema filter).answer before = .error error ↔
      ∃ passed step rest, compiler.trail schema filter before = passed ++ step :: rest ∧
        (∀ earlier ∈ passed, earlier.fault? = none) ∧ step.fault? = some error := by
  have hfirst : (compiler.compile schema filter).answer before = .error error ↔
      firstFault (compiler.trail schema filter before) = some error := by
    rw [firstFault_trail]
    cases (compiler.compile schema filter).answer before <;> simp [faultOf]
  rw [hfirst, firstFault, List.findSome?_eq_some_iff]
  constructor
  · rintro ⟨passed, step, rest, htrail, hstep, hpassed⟩
    exact ⟨passed, step, rest, htrail, hpassed, hstep⟩
  · rintro ⟨passed, step, rest, htrail, hpassed, hstep⟩
    exact ⟨passed, step, rest, htrail, hstep, hpassed⟩

/-- It succeeds if no step fails. -/
theorem answer_eq_ok_iff_steps :
    (∃ query, (compiler.compile schema filter).answer before = .ok query) ↔
      ∀ step ∈ compiler.trail schema filter before, step.fault? = none := by
  rw [← List.findSome?_eq_none_iff, ← firstFault, firstFault_trail]
  cases (compiler.compile schema filter).answer before <;> simp [faultOf]

/-- **A compilation fails at the first step that fails.**  It fails just if a step does, and with the
error of the first one, whatever steps come after it: any other compilation that begins with the same
steps fails with the same error.  The error is one of the stage of the step and names the table of the
step.  Unless two tables of one name differ, the steps are those for the columns that the tables
declare. -/
theorem fails_at_first_fault (compiler : Compiler) (schema : TableSchema) (filter : Filter)
    (before : Journal) (hnamed : before.cache.Named) :
    (∀ error, (compiler.compile schema filter).answer before = .error error ↔
      ∃ passed step rest, compiler.trail schema filter before = passed ++ step :: rest ∧
        (∀ earlier ∈ passed, earlier.fault? = none) ∧ step.fault? = some error) ∧
    ((∃ query, (compiler.compile schema filter).answer before = .ok query) ↔
      ∀ step ∈ compiler.trail schema filter before, step.fault? = none) ∧
    (∀ passed step rest error, compiler.trail schema filter before = passed ++ step :: rest →
      (∀ earlier ∈ passed, earlier.fault? = none) → step.fault? = some error →
      (error.stage = step.stage ∧ error.table? = some step.table) ∧
      ∀ (other : Compiler) (schema' : TableSchema) (filter' : Filter) (before' : Journal) (rest'),
        other.trail schema' filter' before' = passed ++ step :: rest' →
        (other.compile schema' filter').answer before' = .error error) ∧
    (Unambiguous (compiler.tables schema) → before.cache.Sound (compiler.tables schema) →
      compiler.trail schema filter before = compiler.steps ColumnSet.ofSchema schema filter) := by
  refine ⟨fun error => answer_eq_error_iff, answer_eq_ok_iff_steps,
    fun passed step rest error htrail hpassed hstep => ⟨?_, ?_⟩, trail_eq⟩
  · have hmem : step ∈ compiler.trail schema filter before := by simp [htrail]
    exact places_trail hnamed step hmem error hstep
  · intro other schema' filter' before' rest' htrail'
    exact answer_eq_error_iff.2 ⟨passed, step, rest', htrail', hpassed, hstep⟩

/-! Posts have no title.  That the fields are neither a list nor a map, and that users have no comments,
is not found out. -/

/-- The filter that asks for posts of a title, and then for comments. -/
def titleFilter : Filter where
  included := some [.object [("relation", .string "posts"),
    ("scope", .object [("where", .object [("title", .string "News")]),
      ("fields", .string "name")])], .string "comments"]

theorem fails_at_first_fault_title : ∃ passed step rest,
    blog.trail blogUsers titleFilter {} = passed ++ step :: rest ∧
      (∀ earlier ∈ passed, earlier.fault? = none) ∧
      step.fault? = some (.unknownColumn .condition "posts" "title") ∧
      step.stage = .condition ∧ step.table = "posts" := by
  obtain ⟨hfails, -, hfirst, -⟩ :=
    fails_at_first_fault blog blogUsers titleFilter {} ColumnCache.named_nil
  have hanswer : (blog.compile blogUsers titleFilter).answer {} =
      .error (.unknownColumn .condition "posts" "title") := by with_unfolding_all rfl
  obtain ⟨passed, step, rest, htrail, hpassed, hstep⟩ := (hfails _).1 hanswer
  obtain ⟨⟨hstage, htable⟩, -⟩ := hfirst passed step rest _ htrail hpassed hstep
  exact ⟨passed, step, rest, htrail, hpassed, hstep, hstage.symm, (Option.some.inj htable).symm⟩

end Compiler
end ClauseSql
