import ClauseSql.Proofs.Grammar
import Mathlib.Data.List.Forall2

/-!
# What binds tighter

Items that hold no separator of a level are read by the next one.  So an operand, which holds none at
all, is the same term at every level, and a condition is taken apart at the one place where it was put
together, whatever other conditions stand beside it.

## What is here

* `Free` — no separator of a level stands among items.
* `Operand` — items that are an operand: a single one, and casts.
* `Condition` — items that are a condition, which AND, OR and commas do not take apart.
* `conjunction_intercalate`, `disjunction_intercalate` and `members_intercalate` — conditions with AND,
  OR or commas between them are read as the terms of the conditions.
-/

set_option autoImplicit false

namespace ClauseSql
namespace Sql

/-! ## Separators -/

/-- None of some words and signs stands among the items. -/
def Free (words signs : List String) (items : List Item) : Prop :=
  ∀ item ∈ items, item.among words signs = none

namespace Free

variable {words signs : List String} {front back : List Item}

theorem cons {item : Item} (hi : item.among words signs = none) (hb : Free words signs back) :
    Free words signs (item :: back) :=
  List.forall_mem_cons.2 ⟨hi, hb⟩

theorem singleton {item : Item} (h : item.among words signs = none) : Free words signs [item] :=
  cons h (List.forall_mem_nil _)

theorem append (hf : Free words signs front) (hb : Free words signs back) :
    Free words signs (front ++ back) := by
  intro item hitem
  rcases List.mem_append.1 hitem with hitem | hitem
  · exact hf item hitem
  · exact hb item hitem

theorem mono {more others : List String} (hw : words ⊆ more) (hs : signs ⊆ others)
    (h : Free more others front) : Free words signs front := by
  intro item hitem
  have hnone := h item hitem
  cases item with
  | enclosed terms => rfl
  | whole term => rfl
  | token token =>
    cases token with
    | word text =>
      refine if_neg fun hmem => ?_
      rw [Item.among, if_pos (hw hmem)] at hnone
      cases hnone
    | symbol text =>
      refine if_neg fun hmem => ?_
      rw [Item.among, if_pos (hs hmem)] at hnone
      cases hnone
    | _ => rfl

theorem intercalate {token : Token} (h : (Item.token token).among words signs = none) :
    ∀ {parts : List (List Item)}, (∀ part ∈ parts, Free words signs part) →
    Free words signs ([.token token].intercalate parts)
  | [], _ => List.forall_mem_nil _
  | [part], hparts => by
    rw [List.intercalate_singleton]
    exact hparts part List.mem_cons_self
  | first :: second :: rest, hparts => by
    obtain ⟨hfirst, hrest⟩ := List.forall_mem_cons.1 hparts
    rw [List.intercalate_cons_cons]
    exact (hfirst.append (singleton h)).append (intercalate h hrest)

end Free

section
variable {separator : Item → Option String} {front back : List Item}

theorem splitBy_append (h : ∀ item ∈ front, separator item = none) (back : List Item) :
    splitBy separator (front ++ back) =
      (front ++ (splitBy separator back).1, (splitBy separator back).2) := by
  induction front with
  | nil => rfl
  | cons item front ih =>
    obtain ⟨hitem, hfront⟩ := List.forall_mem_cons.1 h
    rw [List.cons_append, splitBy, ih hfront, hitem, List.cons_append]

theorem splitBy_of_free (h : ∀ item ∈ front, separator item = none) :
    splitBy separator front = (front, []) := by
  have happend := splitBy_append h []
  rwa [List.append_nil, splitBy, List.append_nil] at happend

theorem splitBy_cons {item : Item} {text : String} (h : separator item = some text)
    (back : List Item) : splitBy separator (item :: back) =
      ([], (text, (splitBy separator back).1) :: (splitBy separator back).2) := by
  rw [splitBy, h]

/-- A separator takes items apart into what stands before it and after it. -/
theorem splitBy_append_cons {item : Item} {text : String}
    (hf : ∀ item ∈ front, separator item = none) (h : separator item = some text)
    (hb : ∀ item ∈ back, separator item = none) :
    splitBy separator (front ++ item :: back) = (front, [(text, back)]) := by
  rw [splitBy_append hf, splitBy_cons h, splitBy_of_free hb, List.append_nil]

/-- Items with separators between them are taken apart again. -/
theorem parts_intercalate {token : Token} {text : String}
    (h : separator (.token token) = some text) :
    ∀ (first : List Item) (rest : List (List Item)),
    (∀ part ∈ first :: rest, ∀ item ∈ part, separator item = none) →
    parts separator ([.token token].intercalate (first :: rest)) = first :: rest
  | first, [], hfree => by
    rw [List.intercalate_singleton, parts, splitBy_of_free (hfree first List.mem_cons_self),
      List.map_nil]
  | first, second :: rest, hfree => by
    obtain ⟨hfirst, hrest⟩ := List.forall_mem_cons.1 hfree
    have hmore := parts_intercalate h second rest hrest
    rw [parts] at hmore
    rw [List.intercalate_cons_cons, List.append_assoc, List.singleton_append, parts,
      splitBy_append hfirst, splitBy_cons h, List.append_nil, List.map_cons, hmore]

end

/-! ## From one level to the next -/

section
variable {items : List Item}

theorem operators_of_free (h : Free [] operatorSigns items) : operators items = casts items := by
  rw [operators, splitBy_of_free h]
  exact Option.bind_fun_some (casts items)

theorem matching_of_free (h : Free matchWords [] items) : matching items = operators items := by
  rw [matching, splitBy_of_free h]
  exact Option.bind_fun_some (operators items)

theorem comparison_of_free (h : Free [] comparisonSigns items) :
    comparison items = matching items := by
  rw [comparison, splitBy_of_free h]

theorem nullTest_of_free (h : Free ["IS"] [] items) : nullTest items = comparison items := by
  rw [nullTest, splitBy_of_free h]

end

/-! ## Operands -/

/-- The words that take items apart at some level. -/
def separatorWords : List String := matchWords ++ ["IS", "OR", "WHEN", "THEN"]

/-- The signs that take items apart at some level. -/
def separatorSigns : List String := operatorSigns ++ comparisonSigns ++ [","]

/-- Items that are an operand. -/
structure Operand (items : List Item) (term : Term) : Prop where
  free : Free separatorWords separatorSigns items
  reads : casts items = some term

theorem castsOf_append (type : String) {term result : Term} {items : List Item}
    (h : castsOf term items = some result) :
    castsOf term (items ++ [.token (.symbol "::"), .token (.word type)]) =
      some (.cast result type) := by
  induction term, items using castsOf.induct with
  | case1 term =>
    cases h
    rfl
  | case2 term inner rest ih => exact ih h
  | case3 term items hnil hcast =>
    rw [castsOf.eq_3 items term hnil hcast] at h
    cases h

namespace Operand

variable {items left right : List Item} {term first second : Term}

theorem operators (h : Operand items term) : operators items = some term :=
  (operators_of_free (h.free.mono (by decide) (by decide))).trans h.reads

theorem matching (h : Operand items term) : matching items = some term :=
  (matching_of_free (h.free.mono (by decide) (by decide))).trans h.operators

theorem comparison (h : Operand items term) : comparison items = some term :=
  (comparison_of_free (h.free.mono (by decide) (by decide))).trans h.matching

theorem nullTest (h : Operand items term) : nullTest items = some term :=
  (nullTest_of_free (h.free.mono (by decide) (by decide))).trans h.comparison

/-- An operand with a cast after it. -/
theorem cast (h : Operand items term) {type : String} (ht : type ∉ separatorWords) :
    Operand (items ++ [.token (.symbol "::"), .token (.word type)]) (.cast term type) := by
  have hword : (Item.token (.word type)).among separatorWords separatorSigns = none := if_neg ht
  refine ⟨h.free.append (.cons rfl (.singleton hword)), ?_⟩
  cases items with
  | nil => cases h.reads
  | cons first rest =>
    obtain ⟨inner, hfirst, hrest⟩ := Option.bind_eq_some_iff.1 h.reads
    rw [List.cons_append, casts, hfirst, Option.bind_some, castsOf_append type hrest]

/-- A single item that is no separator. -/
theorem single {item : Item} (hi : item.among separatorWords separatorSigns = none)
    (hp : primary item = some term) : Operand [item] term := by
  refine ⟨.singleton hi, ?_⟩
  rw [casts, hp]
  rfl

theorem enclosed (term : Term) : Operand [.enclosed [term]] term := single rfl rfl

theorem whole (term : Term) : Operand [.whole term] term := single rfl rfl

end Operand

/-! ## What two operands make -/

section
variable {left right subject low high : List Item} {first second term lower upper : Term}

/-- A sign of some level takes its operands apart. -/
theorem splitBy_sign {signs : List String} (hsigns : signs ⊆ separatorSigns)
    (hl : Operand left first) (hr : Operand right second) {sign : String} (hs : sign ∈ signs) :
    splitBy (Item.among [] signs) (left ++ .token (.symbol sign) :: right) =
      (left, [(sign, right)]) :=
  splitBy_append_cons (hl.free.mono (List.nil_subset _) hsigns) (if_pos hs)
    (hr.free.mono (List.nil_subset _) hsigns)

/-- An operator between two operands. -/
theorem operators_of_sign (hl : Operand left first) (hr : Operand right second) {sign : String}
    (hs : sign ∈ operatorSigns) :
    operators (left ++ .token (.symbol sign) :: right) = some (.operator sign first second) := by
  rw [operators, splitBy_sign (by decide) hl hr hs]
  show (casts left).bind (fun term => (casts right).bind fun other => some _) = _
  rw [hl.reads, hr.reads]
  rfl

/-- A comparison of two operands. -/
theorem comparison_of_sign (hl : Operand left first) (hr : Operand right second) {sign : String}
    (hs : sign ∈ comparisonSigns) :
    comparison (left ++ .token (.symbol sign) :: right) = some (.operator sign first second) := by
  rw [comparison, splitBy_sign (by decide) hl hr hs]
  show (matching left).bind (fun term => (matching right).bind fun other => some _) = _
  rw [hl.matching, hr.matching]
  rfl

theorem splitBy_between (hl : Operand low lower) (hh : Operand high upper) :
    splitBy (Item.among matchWords [])
      (.token (.word "BETWEEN") :: (low ++ .token (.word "AND") :: high)) =
      ([], [("BETWEEN", low), ("AND", high)]) := by
  have hlow : splitBy (Item.among matchWords []) (low ++ .token (.word "AND") :: high) =
      (low, [("AND", high)]) :=
    splitBy_append_cons (hl.free.mono (by decide) (by decide)) rfl
      (hh.free.mono (by decide) (by decide))
  rw [splitBy_cons rfl, hlow]

/-- What keywords make of an operand before them. -/
theorem matching_append (h : Operand subject term) {back : List Item}
    {others : List (String × List Item)}
    (hb : splitBy (Item.among matchWords []) back = ([], others)) :
    matching (subject ++ back) = matchFrom term others := by
  rw [matching, splitBy_append (h.free.mono (by decide) (by decide)), hb, List.append_nil]
  show (operators subject).bind _ = _
  rw [h.operators]
  rfl

end

/-! ## Conditions -/

theorem owedAfter_of_among {item : Item} (h : item.among ["BETWEEN", "AND"] [] = none) (owed : Nat) :
    owedAfter owed item = some owed := by
  rw [owedAfter.eq_def]
  split
  · cases h
  · cases h
  · cases h
  · rfl

theorem conjuncts_cons {owed next : Nat} {item : Item} (h : owedAfter owed item = some next)
    (rest : List Item) : conjuncts owed (item :: rest) =
      (item :: (conjuncts next rest).1, (conjuncts next rest).2) := by
  rw [conjuncts, h]

theorem conjuncts_append {front : List Item} (h : Free ["BETWEEN", "AND"] [] front) (owed : Nat)
    (back : List Item) : conjuncts owed (front ++ back) =
      (front ++ (conjuncts owed back).1, (conjuncts owed back).2) := by
  induction front with
  | nil => rfl
  | cons item front ih =>
    obtain ⟨hitem, hfront⟩ := List.forall_mem_cons.1 h
    rw [List.cons_append, conjuncts_cons (owedAfter_of_among hitem owed), ih hfront, List.cons_append]

/-- The first AND after a BETWEEN is its own, so none is owed for what comes after the two. -/
theorem conjuncts_between {subject low high : List Item} (hs : Free ["BETWEEN", "AND"] [] subject)
    (hl : Free ["BETWEEN", "AND"] [] low) (hh : Free ["BETWEEN", "AND"] [] high)
    (back : List Item) :
    conjuncts 0 (subject ++ (.token (.word "BETWEEN") :: (low ++ .token (.word "AND") :: high)) ++
      back) = (subject ++ (.token (.word "BETWEEN") :: (low ++ .token (.word "AND") :: high)) ++
        (conjuncts 0 back).1, (conjuncts 0 back).2) := by
  have hand : conjuncts 1 (.token (.word "AND") :: (high ++ back)) =
      (.token (.word "AND") :: (high ++ (conjuncts 0 back).1), (conjuncts 0 back).2) := by
    rw [conjuncts_cons rfl, conjuncts_append hh]
  have hbetween : conjuncts 0 (.token (.word "BETWEEN") ::
      (low ++ .token (.word "AND") :: (high ++ back))) =
      (.token (.word "BETWEEN") :: (low ++ .token (.word "AND") :: (high ++ (conjuncts 0 back).1)),
        (conjuncts 0 back).2) := by
    rw [conjuncts_cons rfl, conjuncts_append hl, hand]
  have hassoc : ∀ more : List Item, subject ++ (.token (.word "BETWEEN") ::
      (low ++ .token (.word "AND") :: high)) ++ more =
      subject ++ (.token (.word "BETWEEN") :: (low ++ .token (.word "AND") :: (high ++ more))) := by
    intro more
    rw [List.append_assoc, List.cons_append, List.append_assoc, List.cons_append]
  rw [hassoc, hassoc, conjuncts_append hs, hbetween]

/-- The item that negates a match or a null check. -/
def negation (negated : Bool) : List Item := if negated then [.token (.word "NOT")] else []

/-- The words that take items apart where conditions stand beside each other. -/
def junctionWords : List String := ["OR", "WHEN", "THEN"]

/-- Items that are a condition.  What is joined to it by AND, OR or a comma stays apart from it, and it
takes no AND that is not its own. -/
structure Condition (items : List Item) (term : Term) : Prop where
  free : Free junctionWords [","] items
  reads : nullTest items = some term
  stays : ∀ back, conjuncts 0 (items ++ back) =
    (items ++ (conjuncts 0 back).1, (conjuncts 0 back).2)

namespace Condition

variable {items left right subject low high : List Item} {term first second lower upper : Term}

theorem of_free (h : Free ("BETWEEN" :: "AND" :: junctionWords) [","] items)
    (hreads : nullTest items = some term) : Condition items term :=
  ⟨h.mono (by decide) (by decide), hreads,
    conjuncts_append (h.mono (by decide) (by decide)) 0⟩

theorem of_operand (h : Operand items term) : Condition items term :=
  of_free (h.free.mono (by decide) (by decide)) h.nullTest

/-- An operator between two operands. -/
theorem of_operator (hl : Operand left first) (hr : Operand right second) {sign : String}
    (hs : sign ∈ operatorSigns) :
    Condition (left ++ .token (.symbol sign) :: right) (.operator sign first second) := by
  have hfree : Free (matchWords ++ "IS" :: junctionWords) (comparisonSigns ++ [","])
      (left ++ .token (.symbol sign) :: right) := by
    refine (hl.free.mono (by decide) (by decide)).append (.cons (if_neg fun hmem => ?_)
      (hr.free.mono (by decide) (by decide)))
    -- No operator is a sign of another level.
    revert hmem
    revert sign
    decide
  refine of_free (hfree.mono (by decide) (by decide)) ?_
  rw [nullTest_of_free (hfree.mono (by decide) (by decide)),
    comparison_of_free (hfree.mono (by decide) (by decide)),
    matching_of_free (hfree.mono (by decide) (by decide)), operators_of_sign hl hr hs]

/-- A comparison of two operands. -/
theorem of_comparison (hl : Operand left first) (hr : Operand right second) {sign : String}
    (hs : sign ∈ comparisonSigns) :
    Condition (left ++ .token (.symbol sign) :: right) (.operator sign first second) := by
  have hfree : Free ("IS" :: "BETWEEN" :: "AND" :: junctionWords) [","]
      (left ++ .token (.symbol sign) :: right) := by
    refine (hl.free.mono (by decide) (by decide)).append (.cons (if_neg fun hmem => ?_)
      (hr.free.mono (by decide) (by decide)))
    exact absurd (List.mem_singleton.1 hmem ▸ hs) (by decide)
  refine of_free (hfree.mono (by decide) (by decide)) ?_
  rw [nullTest_of_free (hfree.mono (by decide) (by decide)), comparison_of_sign hl hr hs]

/-- A null check of an operand, which may be negated. -/
theorem of_isNull (h : Operand subject term) (negated : Bool) :
    Condition (subject ++ .token (.word "IS") :: (negation negated ++ [.token (.word "NULL")]))
      (.isNull negated term) := by
  have hback : Free ("IS" :: "BETWEEN" :: "AND" :: junctionWords) [","]
      (negation negated ++ [.token (.word "NULL")]) := by
    cases negated with
    | false => exact .singleton rfl
    | true => exact .cons rfl (.singleton rfl)
  have hsplit : splitBy (Item.among ["IS"] [])
      (subject ++ .token (.word "IS") :: (negation negated ++ [.token (.word "NULL")])) =
      (subject, [("IS", negation negated ++ [.token (.word "NULL")])]) :=
    splitBy_append_cons (h.free.mono (by decide) (by decide)) rfl
      (hback.mono (by decide) (by decide))
  refine of_free ((h.free.mono (by decide) (by decide)).append
    (.cons rfl (hback.mono (by decide) (by decide)))) ?_
  rw [Sql.nullTest, hsplit]
  cases negated with
  | false => exact congrArg (Option.map (Term.isNull false)) h.comparison
  | true => exact congrArg (Option.map (Term.isNull true)) h.comparison

/-- What keywords without AND make of an operand. -/
theorem of_matchFrom (h : Operand subject term) {back : List Item}
    {others : List (String × List Item)} {result : Term}
    (hf : Free ("IS" :: "BETWEEN" :: "AND" :: junctionWords) (comparisonSigns ++ [","]) back)
    (hb : splitBy (Item.among matchWords []) back = ([], others))
    (hm : matchFrom term others = some result) : Condition (subject ++ back) result := by
  have hfree := (h.free.mono (by decide) (by decide)).append hf
  refine of_free (hfree.mono (by decide) (by decide)) ?_
  rw [nullTest_of_free (hfree.mono (by decide) (by decide)),
    comparison_of_free (hfree.mono (by decide) (by decide)), matching_append h hb, hm]

/-- A match of an operand, which may be negated. -/
theorem of_match (h : Operand subject term) (negated : Bool) {back : List Item}
    {others : List (String × List Item)} {result : Term}
    (hf : Free ("IS" :: "BETWEEN" :: "AND" :: junctionWords) (comparisonSigns ++ [","]) back)
    (hb : splitBy (Item.among matchWords []) back = ([], others))
    (hstart : matchFrom term others = matchOf false term others)
    (hm : matchOf negated term others = some result) :
    Condition (subject ++ (negation negated ++ back)) result := by
  cases negated with
  | false => exact of_matchFrom h hf hb (hstart.trans hm)
  | true =>
    have hnot : splitBy (Item.among matchWords []) (.token (.word "NOT") :: back) =
        ([], ("NOT", []) :: others) := by
      rw [splitBy_cons rfl, hb]
    exact of_matchFrom h (.cons rfl hf) hnot hm

/-- A match of an operand with a list. -/
theorem of_oneOf (h : Operand subject term) (negated : Bool) (members : List Term) :
    Condition (subject ++ (negation negated ++ [.token (.word "IN"), .enclosed members]))
      (.oneOf negated term members) :=
  of_match h negated (.cons rfl (.singleton rfl)) rfl rfl rfl

/-- A match of an operand with a pattern. -/
theorem of_like (h : Operand subject term) (hp : Operand right second)
    (ignoreCase negated : Bool) :
    Condition (subject ++ (negation negated ++
      .token (.word (if ignoreCase then "ILIKE" else "LIKE")) :: right))
      (.like ignoreCase negated term second) := by
  have hfree : Free ("IS" :: "BETWEEN" :: "AND" :: junctionWords) (comparisonSigns ++ [","]) right :=
    hp.free.mono (by decide) (by decide)
  have hsplit : ∀ word ∈ matchWords, splitBy (Item.among matchWords [])
      (.token (.word word) :: right) = ([], [(word, right)]) := fun word hword =>
    splitBy_append_cons (List.forall_mem_nil _) (if_pos hword)
      (hp.free.mono (by decide) (by decide))
  have hm : (operators right).map (Term.like ignoreCase negated term) =
      some (.like ignoreCase negated term second) := by
    rw [hp.operators]
    rfl
  cases ignoreCase with
  | false => exact of_match h negated (.cons rfl hfree) (hsplit "LIKE" (by decide)) rfl hm
  | true => exact of_match h negated (.cons rfl hfree) (hsplit "ILIKE" (by decide)) rfl hm

/-- An operand between two others.  The AND in it is its own. -/
theorem of_between (h : Operand subject term) (hl : Operand low lower) (hh : Operand high upper) :
    Condition (subject ++ (.token (.word "BETWEEN") :: (low ++ .token (.word "AND") :: high)))
      (.between false term lower upper) := by
  have hback : Free ("IS" :: junctionWords) (comparisonSigns ++ [","])
      (.token (.word "BETWEEN") :: (low ++ .token (.word "AND") :: high)) :=
    .cons rfl ((hl.free.mono (by decide) (by decide)).append
      (.cons rfl (hh.free.mono (by decide) (by decide))))
  have hfree := (h.free.mono (by decide) (by decide)).append hback
  have hreads : matching (subject ++ (.token (.word "BETWEEN") ::
      (low ++ .token (.word "AND") :: high))) = some (.between false term lower upper) := by
    rw [matching_append h (splitBy_between hl hh)]
    show (operators low).bind (fun least => (operators high).bind fun most => some _) = _
    rw [hl.operators, hh.operators]
    rfl
  refine ⟨hfree.mono (by decide) (by decide), ?_, fun back => ?_⟩
  · rw [nullTest_of_free (hfree.mono (by decide) (by decide)),
      comparison_of_free (hfree.mono (by decide) (by decide)), hreads]
  · exact conjuncts_between (h.free.mono (by decide) (by decide))
      (hl.free.mono (by decide) (by decide)) (hh.free.mono (by decide) (by decide)) back

end Condition

/-! ## Conditions beside each other -/

theorem mapM_eq_some_of_forall₂ {α β : Type} {f : α → Option β} {xs : List α} {ys : List β}
    (h : List.Forall₂ (fun x y => f x = some y) xs ys) : xs.mapM f = some ys := by
  induction h with
  | nil => rfl
  | cons hx _ ih =>
    rw [List.mapM_cons, hx, ih]
    rfl

section
variable {first : List Item} {rest : List (List Item)} {terms : List Term}

theorem exists_condition_of_mem {items : List (List Item)} (h : List.Forall₂ Condition items terms) :
    ∀ part ∈ items, ∃ term, Condition part term := by
  induction h with
  | nil => exact List.forall_mem_nil _
  | cons hpart _ ih => exact List.forall_mem_cons.2 ⟨⟨_, hpart⟩, ih⟩

theorem conjuncts_intercalate : ∀ (first : List Item) (rest : List (List Item)),
    (∀ part ∈ first :: rest, ∃ term, Condition part term) →
    conjuncts 0 ([.token (.word "AND")].intercalate (first :: rest)) = (first, rest)
  | first, [], h => by
    obtain ⟨term, hfirst⟩ := h first List.mem_cons_self
    have hstays := hfirst.stays []
    rw [List.append_nil, conjuncts, List.append_nil] at hstays
    rw [List.intercalate_singleton, hstays]
  | first, second :: rest, h => by
    obtain ⟨⟨term, hfirst⟩, hrest⟩ := List.forall_mem_cons.1 h
    have hand : ∀ back, conjuncts 0 (.token (.word "AND") :: back) =
      ([], (conjuncts 0 back).1 :: (conjuncts 0 back).2) := fun _ => rfl
    rw [List.intercalate_cons_cons, List.append_assoc, List.singleton_append, hfirst.stays, hand,
      conjuncts_intercalate second rest hrest, List.append_nil]

/-- **Conditions with AND between them are read as their conjunction.** -/
theorem conjunction_intercalate (h : List.Forall₂ Condition (first :: rest) terms) :
    conjunction ([.token (.word "AND")].intercalate (first :: rest)) =
      some (joinParts .and terms) := by
  rw [conjunction, conjuncts_intercalate first rest (exists_condition_of_mem h),
    mapM_eq_some_of_forall₂ (h.imp fun _ _ hpart => hpart.reads)]
  rfl

theorem Condition.conjunction {items : List Item} {term : Term} (h : Condition items term) :
    conjunction items = some term := by
  have hsingle := conjunction_intercalate (.cons h .nil)
  rwa [List.intercalate_singleton] at hsingle

/-- **Conditions with OR between them are read as their disjunction.** -/
theorem disjunction_intercalate (h : List.Forall₂ Condition (first :: rest) terms) :
    disjunction ([.token (.word "OR")].intercalate (first :: rest)) = some (joinParts .or terms) := by
  have hparts : parts (Item.among ["OR"] []) ([.token (.word "OR")].intercalate (first :: rest)) =
      first :: rest :=
    parts_intercalate rfl first rest fun part hpart => by
      obtain ⟨term, hcondition⟩ := exists_condition_of_mem h part hpart
      exact hcondition.free.mono (by decide) (by decide)
  rw [disjunction, hparts, mapM_eq_some_of_forall₂ (h.imp fun _ _ hpart => hpart.conjunction)]
  rfl

theorem disjunction_of_free {items : List Item} (h : Free ["OR"] [] items) :
    disjunction items = conjunction items := by
  rw [disjunction, parts, splitBy_of_free h]
  show (List.mapM conjunction [items]).map (joinParts .or) = _
  rw [List.mapM_cons, List.mapM_nil]
  cases conjunction items <;> rfl

theorem Condition.disjunction {items : List Item} {term : Term} (h : Condition items term) :
    disjunction items = some term :=
  (disjunction_of_free (h.free.mono (by decide) (by decide))).trans h.conjunction

/-! ## In brackets -/

theorem members_of_free {items : List Item} {term : Term} (h : Free [] [","] items)
    (hreads : disjunction items = some term) : members items = some [term] := by
  rw [members, parts, splitBy_of_free h]
  show List.mapM disjunction [items] = _
  rw [List.mapM_cons, hreads]
  rfl

theorem Condition.members {items : List Item} {term : Term} (h : Condition items term) :
    members items = some [term] :=
  members_of_free (h.free.mono (by decide) (by decide)) h.disjunction

/-- Conditions with commas between them are read as their terms. -/
theorem members_intercalate (h : List.Forall₂ Condition (first :: rest) terms) :
    members ([.token (.symbol ",")].intercalate (first :: rest)) = some terms := by
  have hparts : parts (Item.among [] [","]) ([.token (.symbol ",")].intercalate (first :: rest)) =
      first :: rest :=
    parts_intercalate rfl first rest fun part hpart => by
      obtain ⟨term, hcondition⟩ := exists_condition_of_mem h part hpart
      exact hcondition.free.mono (by decide) (by decide)
  rw [members, hparts, mapM_eq_some_of_forall₂ (h.imp fun _ _ hpart => hpart.disjunction)]

/-- What is joined has no comma that is not in brackets. -/
theorem free_intercalate {word : String} (h : List.Forall₂ Condition (first :: rest) terms) :
    Free [] [","] ([.token (.word word)].intercalate (first :: rest)) := by
  have hword : (Item.token (.word word)).among [] [","] = none := rfl
  refine Free.intercalate hword fun part hpart => ?_
  obtain ⟨term, hcondition⟩ := exists_condition_of_mem h part hpart
  exact hcondition.free.mono (by decide) (by decide)

theorem members_conjunction (h : List.Forall₂ Condition (first :: rest) terms) :
    members ([.token (.word "AND")].intercalate (first :: rest)) = some [joinParts .and terms] := by
  have hfree : Free ["OR"] [] ([.token (.word "AND")].intercalate (first :: rest)) :=
    Free.intercalate rfl fun part hpart => by
      obtain ⟨term, hcondition⟩ := exists_condition_of_mem h part hpart
      exact hcondition.free.mono (by decide) (by decide)
  exact members_of_free (free_intercalate h)
    ((disjunction_of_free hfree).trans (conjunction_intercalate h))

theorem members_disjunction (h : List.Forall₂ Condition (first :: rest) terms) :
    members ([.token (.word "OR")].intercalate (first :: rest)) = some [joinParts .or terms] :=
  members_of_free (free_intercalate h) (disjunction_intercalate h)

/-- A condition and a result are read as the branch of a case. -/
theorem branch_of_conditions {condition result : List Item} {first second : Term}
    (hc : Condition condition first) (hr : Condition result second) :
    branch (.token (.word "WHEN") :: (condition ++ .token (.word "THEN") :: result)) =
      some (.whenThen first second) := by
  have hthen : splitBy (Item.among ["WHEN", "THEN"] []) (condition ++ .token (.word "THEN") :: result) =
      (condition, [("THEN", result)]) :=
    splitBy_append_cons (hc.free.mono (by decide) (by decide)) rfl
      (hr.free.mono (by decide) (by decide))
  have hsplit : splitBy (Item.among ["WHEN", "THEN"] [])
      (.token (.word "WHEN") :: (condition ++ .token (.word "THEN") :: result)) =
      ([], [("WHEN", condition), ("THEN", result)]) := by
    rw [splitBy_cons rfl, hthen]
  rw [branch, hsplit]
  show (Sql.disjunction condition).bind (fun term => (Sql.disjunction result).bind fun other => some _) = _
  rw [hc.disjunction, hr.disjunction]
  rfl

end
end Sql
end ClauseSql
