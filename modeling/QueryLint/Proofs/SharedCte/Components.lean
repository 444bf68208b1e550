import Mathlib.Data.List.Induction
import Mathlib.Data.List.SplitBy
import QueryLint.Rule.SharedCte

/-!
How the identifiers of a dotted name fall into components.

A quoted path such as `project.dataset.table` is held as one identifier for each segment, all with
the span of the quoted token. Main statement: the components are the names of consecutive groups of
identifiers that together hold each identifier once and in its place, and two neighbours share a
group just if they were quoted in one token. The same components come from reading the identifiers
one by one and keeping with each component only the token that it was written in.
-/

namespace QueryLint.Rule.SharedCte

open Sql

/-- Both identifiers are quoted, and they carry the span of one stretch of text. -/
def InOneToken (left right : Ident) : Prop :=
  left.quote.isSome ∧ right.quote.isSome ∧ left.span = right.span ∧ left.span ≠ Span.empty

/-- The component that a group of identifiers makes. -/
def componentOf (group : List Ident) : String :=
  ".".intercalate (group.map fun ident => Text.lowercase ident.value)

/-- The identifiers of some groups in order, each with the number of its group. -/
def numbered (number : Nat) : List (List Ident) → List (Ident × Nat)
  | [] => []
  | group :: rest => group.map (fun ident => (ident, number)) ++ numbered (number + 1) rest

/-- Adds an identifier to the components read so far, each of them with the token it was written in:
one of the same token goes on with the last component. -/
def addIdent (read : List (String × Option Span)) (ident : Ident) : List (String × Option Span) :=
  match read.getLast? with
  | some (component, some token) =>
    if token? ident = some token then
      read.dropLast ++ [(component ++ "." ++ Text.lowercase ident.value, some token)]
    else read ++ [(Text.lowercase ident.value, token? ident)]
  | _ => read ++ [(Text.lowercase ident.value, token? ident)]

/-- Of two identifiers with the numbers of their groups: the numbers agree just if one token holds
both. -/
def WellGrouped (left right : Ident × Nat) : Prop :=
  left.2 = right.2 ↔ InOneToken left.1 right.1

/-- Consecutive groups of identifiers, in which two neighbours have the same group just if they were
quoted in one token. -/
structure Grouping (idents : List Ident) (groups : List (List Ident)) : Prop where
  flatten_eq : groups.flatten = idents
  solid : [] ∉ groups
  neighbours : (numbered 0 groups).IsChain WellGrouped

theorem sameToken_iff (left right : Ident) : sameToken left right = true ↔ InOneToken left right := by
  unfold sameToken InOneToken token?
  by_cases written : left.quote.isSome ∧ left.span ≠ Span.empty
  · by_cases written' : right.quote.isSome ∧ right.span ≠ Span.empty
    · simp [written, written']
    · simp only [if_pos written, if_neg written']
      constructor
      · intro same
        simp at same
      · rintro ⟨-, quoted, same, -⟩
        exact absurd ⟨quoted, same ▸ written.2⟩ written'
  · simp only [if_neg written]
    constructor
    · intro same
      simp at same
    · rintro ⟨quoted, -, -, nonempty⟩
      exact absurd ⟨quoted, nonempty⟩ written

theorem token?_of_sameToken {left right : Ident} (same : sameToken left right = true) :
    (token? left).isSome ∧ token? left = token? right := by
  simpa [sameToken] using same

theorem isChain_group (number : Nat) (group : List Ident) :
    (group.map fun ident => (ident, number)).IsChain WellGrouped ↔
      group.IsChain fun left right => sameToken left right := by
  rw [List.isChain_map]
  simp only [WellGrouped, true_iff, sameToken_iff]

theorem head?_numbered (number : Nat) (ident : Ident) (group : List Ident)
    (rest : List (List Ident)) :
    (numbered number ((ident :: group) :: rest)).head? = some (ident, number) := rfl

/-- From one group to the next the numbers differ, and so must the tokens. -/
theorem apart_iff (number : Nat) (group : List Ident) (rest : List (List Ident))
    (solid : [] ∉ group :: rest) :
    (∀ left ∈ (group.map fun ident => (ident, number)).getLast?,
        ∀ right ∈ (numbered (number + 1) rest).head?, WellGrouped left right) ↔
      ∀ next ∈ rest.head?, ∃ leftSolid rightSolid,
        sameToken (group.getLast leftSolid) (next.head rightSolid) = false := by
  have groupSolid : group ≠ [] := fun empty => solid (by simp [empty])
  cases rest with
  | nil => simp [numbered]
  | cons next later =>
    cases next with
    | nil => simp at solid
    | cons ident others =>
      rw [head?_numbered]
      simp [List.getLast?_eq_some_getLast groupSolid, groupSolid, WellGrouped, ← sameToken_iff]

/-- The neighbours are grouped as they should be just if every group is of one token and no two
groups in succession touch with one. -/
theorem isChain_numbered (number : Nat) (groups : List (List Ident)) (solid : [] ∉ groups) :
    (numbered number groups).IsChain WellGrouped ↔
      (∀ group ∈ groups, group.IsChain fun left right => sameToken left right) ∧
        groups.IsChain fun left right => ∃ leftSolid rightSolid,
          sameToken (left.getLast leftSolid) (right.head rightSolid) = false := by
  induction groups generalizing number with
  | nil => simp [numbered]
  | cons group rest ih =>
    have restSolid : [] ∉ rest := fun member => solid (List.mem_cons_of_mem group member)
    rw [numbered, List.isChain_append, isChain_group, ih (number + 1) restSolid,
      apart_iff number group rest solid, List.forall_mem_cons, List.isChain_cons]
    tauto

theorem grouping_iff (idents : List Ident) (groups : List (List Ident)) :
    Grouping idents groups ↔ idents.splitBy sameToken = groups := by
  rw [List.splitBy_eq_iff]
  constructor
  · intro grouping
    exact ⟨grouping.flatten_eq.symm, grouping.solid,
      (isChain_numbered 0 groups grouping.solid).mp grouping.neighbours⟩
  · rintro ⟨flat, solid, chains⟩
    exact ⟨flat.symm, solid, (isChain_numbered 0 groups solid).mpr chains⟩

/-- An identifier that was not quoted, or came from no text, shares its group with no other. -/
theorem eq_singleton_of_token?_eq_none {group : List Ident} {ident : Ident}
    (chain : group.IsChain fun left right => sameToken left right) (member : ident ∈ group)
    (alone : token? ident = none) : group = [ident] := by
  obtain ⟨before, later, rfl⟩ := List.append_of_mem member
  obtain ⟨-, chain', leftmost⟩ := List.isChain_append.mp chain
  have first : before = [] := by
    by_contra some
    have same := leftmost _ (List.getLast_mem_getLast? some) ident rfl
    obtain ⟨written, equal⟩ := token?_of_sameToken same
    rw [equal, alone] at written
    cases written
  have last : later = [] := by
    by_contra some
    have same := (List.isChain_cons.mp chain').1 _ (List.head_mem_head? some)
    obtain ⟨written, -⟩ := token?_of_sameToken same
    rw [alone] at written
    cases written
  rw [first, last, List.nil_append]

/-- Texts joined group by group are joined as a whole. -/
theorem intercalate_flatten (mark : String) (groups : List (List String)) (solid : [] ∉ groups) :
    mark.intercalate (groups.map mark.intercalate) = mark.intercalate groups.flatten := by
  induction groups with
  | nil => rfl
  | cons group rest ih =>
    obtain ⟨groupSolid, restSolid⟩ := not_or.mp (List.mem_cons.not.mp solid)
    by_cases last : rest = []
    · simp [last]
    · have more : rest.flatten ≠ [] := by
        obtain ⟨next, member⟩ := List.exists_mem_of_ne_nil rest last
        have nextSolid : next ≠ [] := fun empty => restSolid (empty ▸ member)
        exact List.flatten_ne_nil_iff.mpr ⟨next, member, nextSolid⟩
      calc mark.intercalate ((group :: rest).map mark.intercalate)
          = mark.intercalate group ++ mark ++ mark.intercalate (rest.map mark.intercalate) := by
            rw [List.map_cons, String.intercalate_cons_of_ne_nil (by simpa using last)]
        _ = mark.intercalate group ++ mark ++ mark.intercalate rest.flatten := by
            rw [ih restSolid]
        _ = mark.intercalate (group :: rest).flatten := by
            rw [List.flatten_cons, String.intercalate_append_of_ne_nil (Ne.symm groupSolid) more]

/-- An identifier of the last group's token makes that group longer. -/
theorem splitBy_concat_same (idents : List Ident) (ident : Ident) (groups : List (List Ident))
    (group : List Ident) (grouped : idents.splitBy sameToken = groups ++ [group])
    (same : ∀ last ∈ group.getLast?, sameToken last ident = true) :
    (idents ++ [ident]).splitBy sameToken = groups ++ [group ++ [ident]] := by
  obtain ⟨flat, solid, chains, apart⟩ := List.splitBy_eq_iff.mp grouped
  rw [List.splitBy_eq_iff]
  refine ⟨?_, ?_, ?_, ?_⟩
  · simp [flat]
  · have earlierSolid : [] ∉ groups := fun member => solid (List.mem_append_left _ member)
    simpa using earlierSolid
  · intro other member
    rcases List.mem_append.mp member with earlier | last
    · exact chains other (List.mem_append_left _ earlier)
    · have chain : group.IsChain fun left right => sameToken left right := chains group (by simp)
      rw [List.mem_singleton.mp last, List.isChain_append]
      refine ⟨chain, List.isChain_singleton ident, ?_⟩
      simpa using same
  · obtain ⟨earlier, -, touching⟩ := List.isChain_append.mp apart
    refine List.isChain_append.mpr ⟨earlier, List.isChain_singleton _, ?_⟩
    intro left leftLast right rightFirst
    obtain ⟨leftSolid, groupSolid, differ⟩ := touching left leftLast group rfl
    cases rightFirst
    refine ⟨leftSolid, by simp, ?_⟩
    rwa [List.head_append_of_ne_nil groupSolid]

/-- The last identifier is that of the last group. -/
theorem exists_getLast?_of_splitBy {idents : List Ident} {groups : List (List Ident)}
    {group : List Ident} (grouped : idents.splitBy sameToken = groups ++ [group]) :
    ∃ last, group.getLast? = some last ∧ idents.getLast? = some last := by
  have groupSolid : group ≠ [] :=
    List.ne_nil_of_mem_splitBy (r := sameToken) (l := idents) (by simp [grouped])
  have divided : idents = groups.flatten ++ group := by
    rw [← List.flatten_splitBy sameToken idents, grouped, List.flatten_concat]
  refine ⟨group.getLast groupSolid, List.getLast?_eq_some_getLast groupSolid, ?_⟩
  rw [divided, List.getLast?_append_of_ne_nil _ groupSolid, List.getLast?_eq_some_getLast groupSolid]

theorem componentOf_concat (group : List Ident) (ident : Ident) (solid : group ≠ []) :
    componentOf (group ++ [ident]) = componentOf group ++ "." ++ Text.lowercase ident.value := by
  unfold componentOf
  rw [List.map_append, List.map_singleton,
    String.intercalate_append_of_ne_nil (by simpa using solid) (by simp),
    String.intercalate_singleton]

/-- What is kept of a group that has been read: its component and the token of its last identifier. -/
def kept (group : List Ident) : String × Option Span :=
  (componentOf group, group.getLast?.bind token?)

theorem addIdent_same (groups : List (List Ident)) (group : List Ident) (last ident : Ident)
    (groupLast : group.getLast? = some last) (same : sameToken last ident = true) :
    addIdent ((groups ++ [group]).map kept) ident = (groups ++ [group ++ [ident]]).map kept := by
  obtain ⟨written, equal⟩ := token?_of_sameToken same
  obtain ⟨token, written⟩ := Option.isSome_iff_exists.mp written
  have solid : group ≠ [] := List.getLast?_isSome.mp (by rw [groupLast]; rfl)
  have before : kept group = (componentOf group, some token) := by
    rw [kept, groupLast, Option.bind_some, written]
  have after : kept (group ++ [ident]) =
      (componentOf group ++ "." ++ Text.lowercase ident.value, some token) := by
    rw [kept, componentOf_concat group ident solid, List.getLast?_concat, Option.bind_some, ← equal,
      written]
  simp [addIdent, before, after, ← equal, written]

theorem addIdent_apart (groups : List (List Ident)) (ident : Ident)
    (apart : ∀ group ∈ groups.getLast?, ∀ last ∈ group.getLast?, sameToken last ident = false) :
    addIdent (groups.map kept) ident = (groups ++ [[ident]]).map kept := by
  rw [List.map_append]
  unfold addIdent
  split
  next component token found =>
    rw [List.getLast?_map] at found
    obtain ⟨group, groupLast, described⟩ := Option.map_eq_some_iff.mp found
    have different : token? ident ≠ some token := by
      intro equal
      obtain ⟨last, last', written⟩ := Option.bind_eq_some_iff.mp (congrArg Prod.snd described)
      have differ := apart group groupLast last last'
      simp [sameToken, written, equal] at differ
    rw [if_neg different]
    rfl
  next => rfl

theorem foldl_addIdent (idents : List Ident) :
    idents.foldl addIdent [] = (idents.splitBy sameToken).map kept := by
  induction idents using List.reverseRecOn with
  | nil => rfl
  | append_singleton idents ident ih =>
    rw [List.foldl_append, ih, List.foldl_cons, List.foldl_nil]
    -- Only the last group can take the identifier in, so the cases are told by that group.
    rcases List.eq_nil_or_concat' (idents.splitBy sameToken) with empty | ⟨groups, group, grouped⟩
    · rw [List.splitBy_eq_nil] at empty
      subst empty
      exact addIdent_apart [] ident (by simp)
    · obtain ⟨last, groupLast, identsLast⟩ := exists_getLast?_of_splitBy grouped
      by_cases same : sameToken last ident = true
      · rw [splitBy_concat_same idents ident groups group grouped (by simpa [groupLast] using same),
          grouped, addIdent_same groups group last ident groupLast same]
      · have apart : ∀ final ∈ idents.getLast?, sameToken final ident = false := by
          simpa [identsLast] using same
        rw [List.splitBy_append_cons [] apart, addIdent_apart]
        · rfl
        · simpa [grouped, groupLast] using same

theorem components_eq_foldl (name : ObjectName) :
    components name = (name.idents.foldl addIdent []).map (·.1) := by
  rw [foldl_addIdent, List.map_map]
  rfl

theorem intercalate_components (name : ObjectName) :
    ".".intercalate (components name) =
      ".".intercalate (name.idents.map fun ident => Text.lowercase ident.value) := by
  let lowered (group : List Ident) := group.map fun ident => Text.lowercase ident.value
  let groups := (name.idents.splitBy sameToken).map lowered
  have solid : [] ∉ groups := by
    intro member
    obtain ⟨group, present, empty⟩ := List.mem_map.mp member
    exact List.ne_nil_of_mem_splitBy present (List.map_eq_nil_iff.mp empty)
  have made : components name = groups.map ".".intercalate := by
    rw [List.map_map]
    rfl
  have whole : groups.flatten = lowered name.idents := by
    rw [← List.map_flatten, List.flatten_splitBy]
  rw [made, intercalate_flatten "." groups solid, whole]

/-- The components of a name are made by consecutive groups of its identifiers, of which none is left
out, repeated or moved, and the groups are told by the tokens of neighbours alone. An identifier
without a token makes a component of its own, and all the components together spell all the
identifiers. -/
theorem components_partition (name : ObjectName) :
    (∃ groups, Grouping name.idents groups ∧
      (∀ other, Grouping name.idents other → other = groups) ∧
      components name = groups.map componentOf ∧
      ∀ group ∈ groups, ∀ ident ∈ group, ident.quote = none ∨ ident.span = Span.empty →
        group = [ident]) ∧
    components name = (name.idents.foldl addIdent []).map (·.1) ∧
    ".".intercalate (components name) =
      ".".intercalate (name.idents.map fun ident => Text.lowercase ident.value) := by
  refine ⟨⟨name.idents.splitBy sameToken, (grouping_iff _ _).mpr rfl, ?_, rfl, ?_⟩,
    components_eq_foldl name, intercalate_components name⟩
  · intro other grouping
    exact ((grouping_iff _ _).mp grouping).symm
  · intro group member ident present tokenless
    have alone : token? ident = none := by
      rcases tokenless with unquoted | unplaced
      · simp [token?, unquoted]
      · simp [token?, unplaced]
    exact eq_singleton_of_token?_eq_none (List.isChain_of_mem_splitBy member) present alone

/-- Three segments of one token with a computed part among them, then a token of its own and two
identifiers without one. -/
example :
    let part (value : String) (quote : Option Char) (span : Span) : NamePart :=
      .ident ⟨value, quote, span⟩
    components
        [part "Project" (some '`') ⟨1, 1, 1, 9⟩, part "data" (some '`') ⟨1, 1, 1, 9⟩, .computed,
          part "set" (some '`') ⟨1, 1, 1, 9⟩, part "B" (some '`') ⟨1, 10, 1, 13⟩,
          part "c" none ⟨1, 10, 1, 13⟩, part "d" (some '`') Span.empty] =
      ["project.data.set", "b", "c", "d"] := by
  decide +kernel

end QueryLint.Rule.SharedCte
