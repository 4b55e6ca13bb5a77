import ClauseSql.Proofs.Compilation

/-!
# Two runs

What a computation does depends on the columns that are known when it begins, and on nothing else
that an earlier one has left.  Two runs are therefore compared by the caches they begin with: what is
shown of each step goes over to the sequence of the steps, and so to whole compilations.

## What is here

* `CompileM.Silent` — a computation that has nothing to do with columns.
* `CompileM.Repeatable` — a computation that gives the same result again once it has succeeded
  (`Compiler.repeatable_compileAt`), and forgets nothing.
* `CompileM.Alike` — two computations end alike when they begin alike, unless the first one stops for
  one of some errors.
-/

set_option autoImplicit false

namespace ClauseSql

namespace CompileM

variable {α β : Type}

/-! ## Results -/

/-- The result of a computation that begins with a journal. -/
def answer (computation : CompileM α) (journal : Journal) : Except CompileError α :=
  (computation.run.run journal).1

/-- The journal that a computation leaves. -/
def left (computation : CompileM α) (journal : Journal) : Journal :=
  (computation.run.run journal).2

theorem Ran.answer_eq {x : CompileM α} {before after : Journal} {a : α} (h : Ran x before a after) :
    x.answer before = .ok a := congrArg Prod.fst h

theorem Ran.left_eq {x : CompileM α} {before after : Journal} {a : α} (h : Ran x before a after) :
    x.left before = after := congrArg Prod.snd h

theorem answer_eq_ok_iff {x : CompileM α} {journal : Journal} {a : α} :
    x.answer journal = .ok a ↔ ∃ after, Ran x journal a after :=
  ⟨fun h => ⟨x.left journal, Prod.ext h rfl⟩, fun ⟨_, h⟩ => h.answer_eq⟩

section Bind

variable {x : CompileM α} {f : α → CompileM β} {journal : Journal}

theorem bind_of_ok {a : α} (h : x.answer journal = .ok a) :
    (x >>= f).answer journal = (f a).answer (x.left journal) ∧
      (x >>= f).left journal = (f a).left (x.left journal) := by
  have hrun : x.run.run journal = (.ok a, x.left journal) := Prod.ext h rfl
  have hbind : (x >>= f).run.run journal = (f a).run.run (x.left journal) := by
    rw [run_bind, hrun]
  exact ⟨congrArg Prod.fst hbind, congrArg Prod.snd hbind⟩

theorem bind_of_error {error : CompileError} (h : x.answer journal = .error error) :
    (x >>= f).answer journal = .error error ∧ (x >>= f).left journal = x.left journal := by
  have hrun : x.run.run journal = (.error error, x.left journal) := Prod.ext h rfl
  have hbind : (x >>= f).run.run journal = (.error error, x.left journal) := by
    rw [run_bind, hrun]
  exact ⟨congrArg Prod.fst hbind, congrArg Prod.snd hbind⟩

theorem answer_bind (x : CompileM α) (f : α → CompileM β) (journal : Journal) :
    (x >>= f).answer journal = (do
      let a ← x.answer journal
      (f a).answer (x.left journal)) := by
  cases h : x.answer journal with
  | error error => exact (bind_of_error h).1
  | ok a => exact (bind_of_ok h).1

theorem Ran.answer_bind {a : α} {between : Journal} (h : Ran x journal a between) :
    (x >>= f).answer journal = (f a).answer between := by
  rw [(bind_of_ok h.answer_eq).1, h.left_eq]

end Bind

theorem answer_resolve (schema : TableSchema) (journal : Journal) :
    (resolve schema).answer journal = (journal.cache.resolve schema).1 := by
  obtain ⟨warnings, hrun⟩ := run_resolve schema journal
  rw [answer, hrun]

theorem cache_left_resolve (schema : TableSchema) (journal : Journal) :
    ((resolve schema).left journal).cache = (journal.cache.resolve schema).2 := by
  obtain ⟨warnings, hrun⟩ := run_resolve schema journal
  rw [left, hrun]

/-! ## Computations that have nothing to do with columns -/

/-- A computation that neither reads nor changes what is known of columns: its result is the same
whatever journal it begins with. -/
def Silent (x : CompileM α) (result : Except CompileError α) : Prop :=
  ∀ journal, x.answer journal = result ∧ (x.left journal).cache = journal.cache

theorem silent_pure (a : α) : Silent (pure a) (.ok a) := fun _ => ⟨rfl, rfl⟩

theorem silent_check (result : Except CompileError α) : Silent (check result) result :=
  fun _ => ⟨rfl, rfl⟩

theorem silent_warn (warnings : List Warning) : Silent (warn warnings) (.ok ()) :=
  fun _ => ⟨rfl, rfl⟩

theorem Silent.bind {x : CompileM α} {f : α → CompileM β} {result : Except CompileError α}
    {next : α → Except CompileError β} (hx : Silent x result) (hf : ∀ a, Silent (f a) (next a)) :
    Silent (x >>= f) (result >>= next) := by
  intro journal
  obtain ⟨hanswer, hcache⟩ := hx journal
  cases result with
  | error error =>
    obtain ⟨h, hleft⟩ := bind_of_error (f := f) hanswer
    exact ⟨h, hleft ▸ hcache⟩
  | ok a =>
    obtain ⟨h, hleft⟩ := bind_of_ok (f := f) hanswer
    obtain ⟨hnext, hkept⟩ := hf a (x.left journal)
    exact ⟨h.trans hnext, by rw [hleft, hkept, hcache]⟩

/-! ## Repetition -/

/-- A computation that forgets no columns, whether it succeeds or not, and that gives the same result
again once it has succeeded, whatever is done in between. -/
structure Repeatable (x : CompileM α) : Prop where
  keeps : ∀ journal : Journal, journal.Keeps (x.left journal)
  again : ∀ {before a after later}, Ran x before a after → after.Keeps later →
    ∃ final, Ran x later a final

theorem Silent.repeatable {x : CompileM α} {result : Except CompileError α} (h : Silent x result) :
    Repeatable x where
  keeps journal := .of_cache (h journal).2.symm
  again {before a after later} hran _ := by
    have hanswer : x.answer before = .ok a := hran.answer_eq
    exact answer_eq_ok_iff.1 ((h later).1.trans ((h before).1.symm.trans hanswer))

theorem Repeatable.bind {x : CompileM α} {f : α → CompileM β} (hx : Repeatable x)
    (hf : ∀ ⦃before a after⦄, Ran x before a after → Repeatable (f a)) : Repeatable (x >>= f) where
  keeps journal := by
    cases hanswer : x.answer journal with
    | error error =>
      rw [(bind_of_error hanswer).2]
      exact hx.keeps journal
    | ok a =>
      rw [(bind_of_ok hanswer).2]
      have hran : Ran x journal a (x.left journal) := Prod.ext hanswer rfl
      exact (hx.keeps journal).trans ((hf hran).keeps (x.left journal))
  again {before b after later} hran hlater := by
    obtain ⟨a, between, hfirst, hnext⟩ := ran_bind_iff.1 hran
    have hbetween : between.Keeps after := hnext.left_eq ▸ (hf hfirst).keeps between
    obtain ⟨middle, hagain⟩ := hx.again hfirst (hbetween.trans hlater)
    have hmiddle : later.Keeps middle := hagain.left_eq ▸ hx.keeps later
    obtain ⟨final, hfinal⟩ := (hf hfirst).again hnext (hlater.trans hmiddle)
    exact ⟨final, ran_bind_iff.2 ⟨a, middle, hagain, hfinal⟩⟩

theorem Repeatable.map {x : CompileM α} (hx : Repeatable x) (f : α → β) : Repeatable (f <$> x) := by
  rw [map_eq_pure_bind]
  exact hx.bind fun _ _ _ _ => (silent_pure _).repeatable

theorem repeatable_resolve (schema : TableSchema) : Repeatable (resolve schema) where
  keeps journal name columns hfind := by
    rw [cache_left_resolve]
    exact ColumnCache.find?_resolve_of_find? schema hfind
  again {before columns after later} hran hlater := by
    have hknown := hlater _ _ (ColumnCache.find?_of_resolve (ran_resolve hran))
    refine answer_eq_ok_iff.1 ?_
    rw [answer_resolve, ColumnCache.resolve, hknown]

/-! ## Comparison -/

/-- Two computations end alike when they begin alike: with the same result, and with caches that are
related again.  The first one may also stop for an error in `stop`. -/
def Alike (R : ColumnCache → ColumnCache → Prop) (stop : CompileError → Prop) (x y : CompileM α) :
    Prop :=
  ∀ ⦃first second : Journal⦄, R first.cache second.cache →
    (x.answer first = y.answer second ∧ R (x.left first).cache (y.left second).cache) ∨
      ∃ error, stop error ∧ x.answer first = .error error

/-- What is related stays related when the columns of a table in `used` are looked up, and the
columns are the same. -/
def Tracks (R : ColumnCache → ColumnCache → Prop) (used : TableSchema → Prop) : Prop :=
  ∀ ⦃schema⦄, used schema → ∀ ⦃first second⦄, R first second →
    (first.resolve schema).1 = (second.resolve schema).1 ∧
      R (first.resolve schema).2 (second.resolve schema).2

variable {R : ColumnCache → ColumnCache → Prop} {stop : CompileError → Prop}
  {used : TableSchema → Prop}

/-- Where the first one never stops, the two end alike. -/
theorem Alike.agree {x y : CompileM α} (h : Alike R (fun _ => False) x y) (first second : Journal)
    (hR : R first.cache second.cache) :
    x.answer first = y.answer second ∧ R (x.left first).cache (y.left second).cache := by
  rcases h hR with hagree | ⟨_, hfalse, -⟩
  · exact hagree
  · exact hfalse.elim

theorem Alike.bind {x y : CompileM α} {f g : α → CompileM β} (h : Alike R stop x y)
    (hnext : ∀ ⦃a journal⦄, x.answer journal = .ok a → Alike R stop (f a) (g a)) :
    Alike R stop (x >>= f) (y >>= g) := by
  intro first second hR
  rcases h hR with ⟨hanswer, hleft⟩ | ⟨error, hstop, hanswer⟩
  · cases hx : x.answer first with
    | error error =>
      obtain ⟨hf, hfleft⟩ := bind_of_error (f := f) hx
      obtain ⟨hg, hgleft⟩ := bind_of_error (f := g) (hanswer.symm.trans hx)
      rw [hf, hg, hfleft, hgleft]
      exact .inl ⟨rfl, hleft⟩
    | ok a =>
      obtain ⟨hf, hfleft⟩ := bind_of_ok (f := f) hx
      obtain ⟨hg, hgleft⟩ := bind_of_ok (f := g) (hanswer.symm.trans hx)
      rw [hf, hg, hfleft, hgleft]
      exact hnext hx hleft
  · exact .inr ⟨error, hstop, (bind_of_error hanswer).1⟩

theorem Silent.alike {x : CompileM α} {result : Except CompileError α} (h : Silent x result) :
    Alike R stop x x := by
  intro first second hR
  rw [(h first).1, (h second).1, (h first).2, (h second).2]
  exact .inl ⟨rfl, hR⟩

theorem alike_check {result other : Except CompileError α}
    (h : result = other ∨ ∃ error, stop error ∧ result = .error error) :
    Alike R stop (check result) (check other) :=
  fun _ _ hR => h.imp (fun heq => ⟨heq, hR⟩) id

theorem Alike.map {x y : CompileM α} (h : Alike R stop x y) (f : α → β) :
    Alike R stop (f <$> x) (f <$> y) := by
  rw [map_eq_pure_bind, map_eq_pure_bind]
  exact h.bind fun _ _ _ => (silent_pure _).alike

theorem Tracks.alike_resolve (hR : Tracks R used) {schema : TableSchema} (h : used schema) :
    Alike R stop (resolve schema) (resolve schema) := by
  intro first second hfirst
  rw [answer_resolve, answer_resolve, cache_left_resolve, cache_left_resolve]
  exact .inl (hR h hfirst)

end CompileM

open CompileM

/-! ## The members of a filter -/

namespace Compiler

theorem silent_compileClause (columns : ColumnSet) (clause : Option Clause) :
    Silent (compileClause columns clause)
      (match clause with
      | none => .ok none
      | some clause => clause.compile columns) := by
  cases clause with
  | none => exact silent_pure none
  | some clause => exact silent_check _

theorem silent_compileOrder (columns : ColumnSet) (entries : Option (List String)) :
    Silent (compileOrder columns entries)
      (match entries with
      | none => .ok none
      | some entries => do
        let keys ← Order.compile columns entries
        .ok (if keys.isEmpty then none else some keys)) := by
  cases entries with
  | none => exact silent_pure none
  | some entries =>
    exact (silent_warn _).bind fun _ => (silent_check _).bind fun keys => silent_pure _

theorem silent_compileProjection (table : String) (fields : Option Json) :
    Silent (compileProjection table fields) (requestedOf table fields) := by
  cases fields with
  | none => exact silent_pure none
  | some fields =>
    exact (silent_warn _).bind fun _ => (silent_check _).bind fun projection => silent_pure _

/-! ## Compilations are repeatable -/

variable (compiler : Compiler)

theorem repeatable_hide (target : TableSchema) (hidden : Option (List String)) (query : Query) :
    Repeatable (hide target hidden query) := by
  cases hidden with
  | none => exact (silent_pure query).repeatable
  | some hidden =>
    exact (repeatable_resolve target).bind fun _ columns _ _ =>
      (silent_check _).repeatable.bind fun _ _ _ _ => (silent_pure _).repeatable

-- The same measure as that of the functions: the list of inclusions of a filter is smaller than the
-- filter, and the scope of an inclusion is smaller than the inclusion.
mutual

/-- **A compilation that succeeded succeeds again**, with the same query. -/
theorem repeatable_compileAt (depth : Nat) (schema : TableSchema) (filter : Filter) :
    Repeatable (compileAt compiler depth schema filter) := by
  rw [compileAt_eq]
  refine (repeatable_resolve schema).bind fun _ columns _ _ => ?_
  refine (silent_compileClause columns _).repeatable.bind fun _ condition _ _ => ?_
  refine (silent_compileOrder columns _).repeatable.bind fun _ order _ _ => ?_
  refine (silent_compileProjection _ _).repeatable.bind fun _ projection _ _ => ?_
  refine Repeatable.bind ?_ fun _ included _ _ => (silent_pure _).repeatable
  match hincluded : filter.included with
  | none | some [] => exact (silent_pure none).repeatable
  | some (item :: rest) => exact (repeatable_compileIncluded depth schema [] (item :: rest)).map some
termination_by sizeOf filter.included
decreasing_by
  rw [hincluded, Option.some.sizeOf_spec]
  omega

theorem repeatable_compileIncluded (depth : Nat) (schema : TableSchema)
    (done : NameMap (Related Query)) (items : List Json) :
    Repeatable (compileIncluded compiler depth schema done items) := by
  match items with
  | [] =>
    rw [compileIncluded]
    exact (silent_pure done).repeatable
  | item :: rest =>
    rw [compileIncluded_cons]
    refine (silent_check _).repeatable.bind fun _ inclusion _ hread => ?_
    have hinclusion := (ran_check_iff.1 hread).1
    refine (silent_check _).repeatable.bind fun _ relation _ _ => ?_
    refine Repeatable.bind ?_ fun _ related _ _ => repeatable_compileIncluded depth schema _ rest
    rw [relate]
    split
    · exact (silent_pure _).repeatable
    · refine (silent_check _).repeatable.bind fun _ target _ _ => ?_
      refine (repeatable_compileAt (depth + 1) target (inclusion.scope.getD {})).bind
        fun _ query _ _ => ?_
      exact (repeatable_hide target _ query).bind fun _ _ _ _ => (silent_pure _).repeatable
termination_by sizeOf items
decreasing_by
  · exact Inclusion.sizeOf_scopeOrEmpty hinclusion rest
  · rw [List.cons.sizeOf_spec]
    omega

end

/-- The columns of a table are known once a filter on it was compiled. -/
theorem known_of_ran_compileAt {compiler : Compiler} {depth : Nat} {schema : TableSchema}
    {filter : Filter} {query : Query} {before after : Journal}
    (h : Ran (compileAt compiler depth schema filter) before query after) :
    ∃ columns, NameMap.find? schema.name after.cache = some columns := by
  obtain ⟨columns, resolved, between, hresolve, hcache, -, hincluded⟩ := ran_compileAt h
  have hknown : NameMap.find? schema.name between.cache = some columns :=
    hcache ▸ ColumnCache.find?_of_resolve (ran_resolve hresolve)
  rcases hincluded with ⟨-, rfl, -⟩ | ⟨items, entries, -, -, hran⟩
  · exact ⟨columns, hknown⟩
  · have hkeeps := (repeatable_compileIncluded compiler depth schema [] items).keeps between
    exact ⟨columns, hran.left_eq ▸ hkeeps _ _ hknown⟩

end Compiler
end ClauseSql
