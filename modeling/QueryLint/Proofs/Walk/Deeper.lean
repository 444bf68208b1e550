import Mathlib.Data.List.Flatten
import QueryLint.Proofs.Walk.Preorder
import QueryLint.Rule.RegexpContains

/-!
One query met at two depths. The two walks part wherever the deeper one passes the limit, which may
be at many places of the tree at once. Main statement: the deeper walk gives a subsequence of what
the other one gives, so to nest a query deeper can only lose nodes, and with them messages.
-/

namespace QueryLint.Sql

theorem within_sublist {limit depth deeper : Nat} (le : depth ≤ deeper) {nodes others : List Node}
    (included : nodes.Sublist others) :
    (within limit deeper nodes).Sublist (within limit depth others) := by
  by_cases beyond : limit < deeper
  · rw [within_of_lt beyond]
    exact List.nil_sublist _
  · have inside : deeper ≤ limit := Nat.le_of_not_lt beyond
    rw [within_of_le inside, within_of_le (le.trans inside)]
    exact included

/-- What is listed for the parts themselves does not depend on depth. -/
theorem walkParts_sublist {limit depth deeper : Nat} (parts : List Part)
    (included : ∀ part ∈ parts, ∀ inner, part.entered = some inner →
      (inner.walk limit deeper).Sublist (inner.walk limit depth)) :
    (walkParts limit deeper parts).Sublist (walkParts limit depth parts) := by
  apply List.Sublist.flatMap_right
  intro part member
  apply List.Sublist.append (List.Sublist.refl _)
  cases entered : part.entered with
  | none => exact List.Sublist.refl _
  | some inner => exact included part member inner entered

theorem Item.walk_sublist (limit : Nat) (item : Item) {depth deeper : Nat} (le : depth ≤ deeper) :
    (item.walk limit deeper).Sublist (item.walk limit depth) := by
  induction item using Item.walkInduction generalizing depth deeper with
  | step item ih =>
    rw [Item.walk_eq, Item.walk_eq]
    apply within_sublist le
    apply walkParts_sublist
    intro part member inner entered
    exact ih part member inner entered (Nat.succ_le_succ le)

theorem Query.walkBody_sublist (limit : Nat) (query : Query) {depth deeper : Nat}
    (le : depth ≤ deeper) (small : deeper + 1 < wordBound) :
    (query.walkBody limit deeper).Sublist (query.walkBody limit depth) := by
  have smaller : depth + 1 < wordBound := by omega
  rw [Query.walkBody_eq limit deeper query small, Query.walkBody_eq limit depth query smaller]
  apply walkParts_sublist
  intro part _ inner _
  exact inner.walk_sublist limit (Nat.succ_le_succ le)

/-- How many calls of `REGEXP_CONTAINS` some nodes are noticed for. -/
def regexpCount (nodes : List Node) : Nat :=
  (nodes.flatMap Rule.RegexpContains.nodeMessages).length

theorem regexpCount_le_of_sublist {nodes others : List Node} (included : nodes.Sublist others) :
    regexpCount nodes ≤ regexpCount others := (included.flatMap _).length_le

/-- A query that is met deeper gives a subsequence of the nodes, with and without its `WITH` clause,
and no more messages about `REGEXP_CONTAINS`. -/
theorem walk_sublist_of_deeper (query : Query) (depth deeper : Nat) (le : depth ≤ deeper)
    (small : deeper + 1 < wordBound) :
    (query.walk depthLimit deeper).Sublist (query.walk depthLimit depth) ∧
      (query.walkBody depthLimit deeper).Sublist (query.walkBody depthLimit depth) ∧
      regexpCount (query.walk depthLimit deeper) ≤ regexpCount (query.walk depthLimit depth) ∧
      regexpCount (query.walkBody depthLimit deeper) ≤
        regexpCount (query.walkBody depthLimit depth) := by
  have whole : (query.walk depthLimit deeper).Sublist (query.walk depthLimit depth) :=
    Item.walk_sublist depthLimit (.query query) le
  have body := query.walkBody_sublist depthLimit le small
  exact ⟨whole, body, regexpCount_le_of_sublist whole, regexpCount_le_of_sublist body⟩

/-- `REGEXP_CONTAINS` of the values of a subquery that calls it again. -/
def nestedRegexp : Query :=
  let calling (arguments : Arguments) : Expr :=
    .call ⟨[.ident ⟨"REGEXP_CONTAINS", none, .empty⟩], .absent, arguments, none, [], .absent, []⟩
  selecting [] (some (calling (.subquery (selecting [] (some (calling .absent))))))

/-- From depth ninety-six on the limit cuts the inner call. At the greatest depth that a walk may
start from nothing is left. -/
theorem walk_sublist_of_deeper_nested :
    regexpCount (nestedRegexp.walk depthLimit 95) = 2 ∧
      regexpCount (nestedRegexp.walk depthLimit 96) = 1 ∧
      (nestedRegexp.walk depthLimit 96).Sublist (nestedRegexp.walk depthLimit 95) ∧
      (nestedRegexp.walkBody depthLimit (wordBound - 2)).Sublist
        (nestedRegexp.walkBody depthLimit 96) := by
  have one := walk_sublist_of_deeper nestedRegexp 95 96 (by decide) (by decide)
  have last := walk_sublist_of_deeper nestedRegexp 96 (wordBound - 2) (by decide) (by decide)
  exact ⟨by decide +kernel, by decide +kernel, one.1, last.2.1⟩

end QueryLint.Sql
