import NetConsole.Proofs.Config.Layers
import NetConsole.Proofs.Toml.Lines

/-!
# What sections make of a draft

A section that is added to a draft becomes a table with its entries: right at the top, or inside a
table that is there for nothing but the headers that lead through it.
-/

set_option autoImplicit false

namespace NetConsole.Toml

open Config

/-! ## Members -/

theorem itemAt?_cons (own key : String) (item : Item) (rest : Members) :
    itemAt? key ((own, item) :: rest) = if own = key then some item else itemAt? key rest := by
  by_cases same : own = key
  · simp [itemAt?, same]
  · simp [itemAt?, same]

theorem itemAt?_append (key : String) (first second : Members) :
    itemAt? key (first ++ second) = (itemAt? key first).or (itemAt? key second) := by
  simp [itemAt?, List.find?_append, Option.map_or]

theorem itemAt?_eq_none {key : String} {members : Members} :
    itemAt? key members = none ↔ ∀ member ∈ members, member.1 ≠ key := by
  simp [itemAt?]

theorem itemAt?_filter (key other : String) (members : Members) :
    itemAt? other (members.filter (·.1 != key)) =
      if other = key then none else itemAt? other members := by
  induction members with
  | nil => simp [itemAt?]
  | cons member rest ih =>
      obtain ⟨own, item⟩ := member
      by_cases here : own = key
      · subst here
        rw [List.filter_cons_of_neg (by simp), ih, itemAt?_cons]
        by_cases same : other = own
        · simp [same]
        · simp [same, Ne.symm same]
      · rw [List.filter_cons_of_pos (by simpa using here), itemAt?_cons, itemAt?_cons, ih]
        by_cases same : own = other
        · subst same
          simp [here]
        · simp [same]

theorem itemAt?_putItem (key other : String) (item : Item) (members : Members) :
    itemAt? other (putItem key item members) =
      if other = key then some item else itemAt? other members := by
  rw [putItem, itemAt?_append, itemAt?_filter, itemAt?_cons]
  by_cases same : other = key
  · simp [same]
  · simp [same, Ne.symm same, itemAt?]

theorem filter_of_missing {key : String} {members : Members}
    (missing : itemAt? key members = none) : members.filter (·.1 != key) = members := by
  refine List.filter_eq_self.mpr fun member found => ?_
  exact bne_iff_ne.mpr (itemAt?_eq_none.mp missing member found)

theorem addItem_of_missing {key : String} {members : Members} (item : Item)
    (missing : itemAt? key members = none) :
    addItem key item members = some (members ++ [(key, item)]) := by
  simp [addItem, missing, putItem, filter_of_missing missing]

theorem putItem_putItem (key : String) (first second : Item) (members : Members) :
    putItem key second (putItem key first members) = putItem key second members := by
  simp [putItem, List.filter_append, List.filter_filter]

theorem ascending_tableOf (members : Members) : Ascending (tableOf members) := by
  induction members with
  | nil => exact List.Pairwise.nil
  | cons member rest ih => exact Table.ascending_put ih member.1 member.2.setting

theorem find?_tableOf (key : String) (members : Members) :
    Table.find? (tableOf members) key = (itemAt? key members).map Item.setting := by
  induction members with
  | nil => rfl
  | cons member rest ih =>
      obtain ⟨own, item⟩ := member
      rw [tableOf, Table.find?_put (ascending_tableOf rest), ih, itemAt?_cons]
      by_cases same : key = own
      · simp [same]
      · simp [same, Ne.symm same]

theorem mem_tableOf {members : Members} (distinct : (members.map (·.1)).Nodup)
    (entry : String × Setting) :
    entry ∈ tableOf members ↔ ∃ member ∈ members, entry = (member.1, member.2.setting) := by
  induction members with
  | nil => simp [tableOf]
  | cons member rest ih =>
      obtain ⟨fresh, others⟩ := List.nodup_cons.mp distinct
      rw [tableOf, Table.put_eq_put, Ascending.mem_put (ascending_tableOf rest), ih others,
        List.exists_mem_cons_iff]
      refine or_congr_right (and_iff_left_of_imp ?_)
      rintro ⟨other, found, rfl⟩ same
      exact fresh (List.mem_map.mpr ⟨other, found, same⟩)

/-! ## Entries -/

/-- The members that entries are in a table. -/
def entryItems (entries : List (String × Literal)) : Members :=
  entries.map fun entry => (entry.1, .value entry.2.setting)

theorem put_of_missing {draft : Draft} {key : String} (setting : Setting)
    (missing : itemAt? key draft.current = none) :
    draft.put [key] setting =
      some { draft with current := draft.current ++ [(key, .value setting)] } := by
  simp [Draft.put, assign, descend, addItem_of_missing _ missing]

theorem addEntries_eq {draft : Draft} {entries : List (String × Literal)}
    (distinct : (entries.map (·.1)).Nodup)
    (fresh : ∀ entry ∈ entries, itemAt? entry.1 draft.current = none) :
    draft.addEntries entries =
      some { draft with current := draft.current ++ entryItems entries } := by
  induction entries generalizing draft with
  | nil => simp [Draft.addEntries, entryItems]
  | cons entry entries ih =>
      obtain ⟨apart, later⟩ := List.nodup_cons.mp distinct
      obtain ⟨here, others⟩ := List.forall_mem_cons.mp fresh
      have missing : ∀ other ∈ entries,
          itemAt? other.1 (draft.current ++ [(entry.1, .value entry.2.setting)]) = none := by
        intro other member
        have unlike : entry.1 ≠ other.1 := by
          intro same
          exact apart (List.mem_map.mpr ⟨other, member, same.symm⟩)
        simp [itemAt?_append, others other member, itemAt?_cons, unlike]
        rfl
      have added := @ih
        { draft with current := draft.current ++ [(entry.1, .value entry.2.setting)] } later missing
      simp only [Draft.addEntries, List.foldlM_cons, put_of_missing _ here] at added ⊢
      simpa [entryItems] using added

/-! ## Sections -/

theorem addSection_one {draft : Draft} {closed : Members} (isClosed : draft.close = some closed)
    {key : String} (missing : itemAt? key closed = none) {entries : List (String × Literal)}
    (distinct : (entries.map (·.1)).Nodup) :
    ∃ next, draft.addSection ⟨[key], entries⟩ = some next ∧
      next.close = some (closed ++ [(key, .table .header (entryItems entries))]) := by
  have opened : draft.openTable [key] = some ⟨closed, [key], false, []⟩ := by
    simp [Draft.openTable, isClosed, Draft.membersAt?, Draft.opened?, missing, descend,
      filter_of_missing missing]
  have added : Draft.addEntries ⟨closed, [key], false, []⟩ entries =
      some ⟨closed, [key], false, entryItems entries⟩ := addEntries_eq distinct fun _ _ => rfl
  refine ⟨_, by simp [Draft.addSection, opened, added]; rfl, ?_⟩
  simp [Draft.close, descend, addItem_of_missing _ missing]

/-- What is in a table that is there for nothing but the headers that lead through it; nothing if
it is not there yet. -/
def IsThrough (outer : String) (inner closed : Members) : Prop :=
  (itemAt? outer closed = none ∧ inner = []) ∨ itemAt? outer closed = some (.table .step inner)

theorem addSection_two {draft : Draft} {closed inner : Members}
    (isClosed : draft.close = some closed) {outer key : String}
    (through : IsThrough outer inner closed) (missing : itemAt? key inner = none)
    {entries : List (String × Literal)} (distinct : (entries.map (·.1)).Nodup) :
    ∃ next, draft.addSection ⟨[outer, key], entries⟩ = some next ∧
      next.close = some (putItem outer
        (.table .step (inner ++ [(key, .table .header (entryItems entries))])) closed) := by
  have opened : draft.openTable [outer, key] =
      some ⟨putItem outer (.table .step inner) closed, [outer, key], false, []⟩ := by
    rcases through with ⟨absent, rfl⟩ | present
    · simp [Draft.openTable, isClosed, Draft.membersAt?, Draft.opened?, absent, missing, descend]
    · simp [Draft.openTable, isClosed, Draft.membersAt?, Draft.opened?, present, missing, descend,
        filter_of_missing missing]
  have added (others : Members) : Draft.addEntries ⟨others, [outer, key], false, []⟩ entries =
      some ⟨others, [outer, key], false, entryItems entries⟩ :=
    addEntries_eq distinct fun _ _ => rfl
  refine ⟨_, by simp [Draft.addSection, opened, added]; rfl, ?_⟩
  simp [Draft.close, descend, itemAt?_putItem, addItem_of_missing _ missing, putItem_putItem]

/-- The members that tables are inside another one, each with its entries. -/
def tableItems (tables : List (String × List (String × Literal))) : Members :=
  tables.map fun table => (table.1, .table .header (entryItems table.2))

/-- Sections inside one table fill it, in their order, and leave everything else as it is. -/
theorem addSections_two {draft : Draft} {closed inner : Members}
    (isClosed : draft.close = some closed) {outer : String}
    (through : IsThrough outer inner closed) {tables : List (String × List (String × Literal))}
    (distinct : (tables.map (·.1)).Nodup) (fresh : ∀ table ∈ tables, itemAt? table.1 inner = none)
    (own : ∀ table ∈ tables, (table.2.map (·.1)).Nodup) :
    ∃ next after,
      (tables.map fun table => ⟨[outer, table.1], table.2⟩).foldlM Draft.addSection draft =
        some next ∧ next.close = some after ∧ IsThrough outer (inner ++ tableItems tables) after ∧
          ∀ other, other ≠ outer → itemAt? other after = itemAt? other closed := by
  induction tables generalizing draft closed inner with
  | nil => exact ⟨draft, closed, rfl, isClosed, by simpa [tableItems] using through, fun _ _ => rfl⟩
  | cons table tables ih =>
      obtain ⟨key, entries⟩ := table
      obtain ⟨apart, later⟩ := List.nodup_cons.mp distinct
      obtain ⟨missing, others⟩ := List.forall_mem_cons.mp fresh
      obtain ⟨first, ownLater⟩ := List.forall_mem_cons.mp own
      obtain ⟨between, added, closes⟩ := addSection_two isClosed through missing first
      have filled : IsThrough outer (inner ++ [(key, .table .header (entryItems entries))])
          (putItem outer (.table .step (inner ++ [(key, .table .header (entryItems entries))]))
            closed) := .inr (by rw [itemAt?_putItem, if_pos rfl])
      have unmet : ∀ table ∈ tables,
          itemAt? table.1 (inner ++ [(key, .table .header (entryItems entries))]) = none := by
        intro table member
        have unlike : key ≠ table.1 := by
          rintro rfl
          exact apart (List.mem_map.mpr ⟨table, member, rfl⟩)
        simp [itemAt?_append, others table member, itemAt?_cons, unlike]
        rfl
      obtain ⟨next, after, rest, nextCloses, held, kept⟩ := ih closes filled later unmet ownLater
      refine ⟨next, after, ?_, nextCloses, by simpa [tableItems] using held, fun other unlike => ?_⟩
      · simp [added, rest]
      · rw [kept other unlike, itemAt?_putItem, if_neg unlike]

end NetConsole.Toml
