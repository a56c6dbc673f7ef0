import Mysql2Codec.Row.Row

/-! # What a row holds

The generated functions store each column's value with `lvalue = value`.  This module says what
the row under construction holds at a slot (`RowState.read`) and when a store cannot throw
(`RowState.Ready`: an index inside `result`, a key, or a property of a table that holds an
object).  `RowState.fill` is the run of all the stores of a row, each value computed first;
`RowState.fill_ready` proves that stores to distinct slots each leave their value, and
`slotOf_apart` and `initial_ready` that the slots `compile` chooses meet its hypotheses.
`RowHolds` then reads the values off the row the function returns (`slotValue`): a column's
slot holds its value unless it names `__proto__`, whose store goes to the prototype, and under
`rowsAsArray` with `nestTables` the returned `result` holds only holes.
-/

namespace Mysql2Codec.Row

open Js

/-! ## Own properties and the row object -/

/-- A lookup after `setOwnProperty`: the stored pair under its key, what was there under any
other. -/
theorem find?_setOwnProperty (fields : List (String × JSValue)) (key key' : String) (value : JSValue) :
    (setOwnProperty fields key value).find? (·.1 == key') =
      if key' = key then some (key, value) else fields.find? (·.1 == key') := by
  unfold setOwnProperty
  split
  · next present =>
    have same_key : ((fun field : String × JSValue => field.1 == key') ∘
        fun field => if field.1 == key then (key, value) else field) = fun field => field.1 == key' := by
      funext field
      by_cases hit : field.1 = key <;> simp [hit]
    rw [List.find?_map, same_key]
    cases found : fields.find? (·.1 == key') with
    | none =>
      have absent : key' ≠ key := by
        rintro rfl
        obtain ⟨field, mem, hit⟩ := List.any_eq_true.1 present
        exact absurd hit (by simpa using List.find?_eq_none.1 found field mem)
      simp [absent]
    | some field =>
      have hit : field.1 = key' := by simpa using List.find?_some found
      by_cases same : key' = key <;> simp [same, hit]
  · next absent =>
    rw [List.find?_append]
    by_cases same : key' = key
    · subst same
      have none : fields.find? (·.1 == key') = none :=
        List.find?_eq_none.2 fun field mem hit => absent (List.any_eq_true.2 ⟨field, mem, hit⟩)
      simp [none]
    · cases fields.find? (·.1 == key') <;> simp [same, Ne.symm same]

theorem get_setProperty_self (fields : List (String × JSValue)) {key : String} (value : JSValue)
    (ordinary : key ≠ "__proto__") : (JSValue.object (setProperty fields key value)).get key = value := by
  simp [JSValue.get, setProperty, ordinary, find?_setOwnProperty]

theorem get_setProperty_of_ne (fields : List (String × JSValue)) {key key' : String} (value : JSValue)
    (different : key' ≠ key) :
    (JSValue.object (setProperty fields key value)).get key' = (JSValue.object fields).get key' := by
  unfold setProperty
  split
  · rfl
  · simp [JSValue.get, find?_setOwnProperty, different]

namespace RowState

@[simp] theorem result_set (state : RowState) (key : String) (value : JSValue) :
    (state.set key value).result = state.result := by
  unfold set
  split
  · split <;> rfl
  · rfl

/-- A store to one key leaves every other key as it was, `__proto__` included. -/
theorem get_set_of_ne (state : RowState) {key key' : String} (value : JSValue) (different : key' ≠ key) :
    (state.set key value).get key' = state.get key' := by
  unfold set
  split
  · next setter =>
    have other : key' ≠ "__proto__" := setter.1 ▸ different
    split <;> simp only [get, other, false_and, if_false]
  · simp only [get, find?_setOwnProperty, if_neg different]

/-- A store to a key that is not `__proto__` makes an own property. -/
theorem get_set_self (state : RowState) {key : String} (value : JSValue) (ordinary : key ≠ "__proto__") :
    (state.set key value).get key = value := by
  simp only [set, ordinary, false_and, if_false, get, find?_setOwnProperty, if_true]

/-- An object stored at any key is read back, through the accessor for `__proto__`. -/
theorem get_set_object (state : RowState) (key : String) (fields : List (String × JSValue)) :
    (state.set key (.object fields)).get key = .object fields := by
  unfold set
  split
  · next setter =>
    obtain ⟨rfl, absent, -⟩ := setter
    simp [get, JSValue.isObject, Option.isNone_iff_eq_none.1 absent]
  · simp only [get, find?_setOwnProperty, if_true]

/-- A key that is not `__proto__` reads the own property. -/
theorem get_ordinary (state : RowState) {key : String} (ordinary : key ≠ "__proto__") :
    state.get key = (JSValue.object state.this).get key := by
  cases found : state.this.find? (·.1 == key) <;> simp [get, JSValue.get, found, ordinary]

end RowState

/-! ## One store -/

/-- The value a slot of the row under construction holds. -/
def RowState.read (state : RowState) : Slot → JSValue
  | .index i => state.result.getD i .undefined
  | .key key => state.get key
  | .nested table name => (state.get table).get name

/-- A slot `assign` stores into without throwing: an index inside `result`, any key, or a
property of a table that holds an object. -/
def RowState.Ready (state : RowState) : Slot → Prop
  | .index i => i < state.result.length
  | .key _ => True
  | .nested table _ => ∃ fields, state.get table = .object fields

/-- Two slots whose storage an assignment to one leaves to the other: a key is never the table
of a nested slot. -/
def Slot.Apart : Slot → Slot → Prop
  | .key k, .nested t _ => k ≠ t
  | .nested t _, .key k => k ≠ t
  | _, _ => True

/-- A slot that names no `__proto__`: a store to it makes an own property of the row. -/
def Slot.Ordinary : Slot → Prop
  | .index _ => True
  | .key property => property ≠ "__proto__"
  | .nested table name => table ≠ "__proto__" ∧ name ≠ "__proto__"

/-- One assignment to a ready slot: it succeeds, the slot stays ready and, unless it names
`__proto__`, holds the value, and every other slot apart from it keeps its value and stays
ready. -/
theorem RowState.assign_ready {state : RowState} {slot : Slot} (ready : state.Ready slot) (value : JSValue) :
    ∃ state', state.assign value slot = .ok state' ∧ state'.Ready slot ∧ (slot.Ordinary → state'.read slot = value) ∧
      ∀ other, other ≠ slot → Slot.Apart slot other → state.Ready other →
        state'.Ready other ∧ state'.read other = state.read other := by
  cases slot with
  | index i =>
    refine ⟨_, rfl, by simpa [RowState.Ready] using ready,
      fun _ => by simp [RowState.read, List.getD_eq_getElem?_getD, List.getElem?_set,
      show i < state.result.length from ready], ?_⟩
    intro other different _ ready'
    cases other with
    | index j =>
      have : i ≠ j := fun same => different (by rw [same])
      simp_all [RowState.Ready, RowState.read, List.getD_eq_getElem?_getD, List.getElem?_set]
    | key _ => exact ⟨trivial, rfl⟩
    | nested _ _ => exact ⟨ready', rfl⟩
  | key key =>
    refine ⟨_, rfl, trivial, fun ordinary => state.get_set_self value ordinary, ?_⟩
    intro other different apart ready'
    cases other with
    | index j => exact ⟨by simpa [RowState.Ready] using ready', by simp [RowState.read]⟩
    | key key' => exact ⟨trivial, state.get_set_of_ne value fun same => different (by rw [same])⟩
    | nested table name =>
      have : table ≠ key := Ne.symm (show key ≠ table from apart)
      simpa [RowState.Ready, RowState.read, state.get_set_of_ne value this] using ready'
  | nested table name =>
    obtain ⟨fields, table_object⟩ := ready
    have assigned : state.assign value (.nested table name) =
        .ok (state.set table (.object (setProperty fields name value))) := by
      simp only [RowState.assign, table_object]
    refine ⟨_, assigned, ⟨_, state.get_set_object _ _⟩,
      fun ordinary => by simp only [RowState.read, state.get_set_object, get_setProperty_self _ _ (And.right ordinary)], ?_⟩
    intro other different apart ready'
    cases other with
    | index j => exact ⟨by simpa [RowState.Ready] using ready', by simp [RowState.read]⟩
    | key key => exact ⟨trivial, state.get_set_of_ne _ (show key ≠ table from apart)⟩
    | nested table' name' =>
      by_cases same : table' = table
      · subst same
        have : name' ≠ name := fun same => different (by rw [same])
        exact ⟨⟨_, state.get_set_object _ _⟩, by
          simp only [RowState.read, state.get_set_object, table_object, get_setProperty_of_ne _ _ this]⟩
      · simpa [RowState.Ready, RowState.read, state.get_set_of_ne _ same] using ready'

theorem Slot.Apart.symm {slot other : Slot} (apart : slot.Apart other) : other.Apart slot := by
  cases slot <;> cases other <;> exact apart

/-- The assignments of a row in turn, each value computed before it is stored: the first error,
or the state after them all. -/
def RowState.fill (state : RowState) : List (Slot × Except JSError JSValue) → Except JSError RowState
  | [] => .ok state
  | (slot, value) :: rest => do
    let state ← state.assign (← value) slot
    state.fill rest

theorem RowState.fill_cons_ok (state : RowState) (slot : Slot) (v : JSValue)
    (rest : List (Slot × Except JSError JSValue)) :
    state.fill ((slot, .ok v) :: rest) = state.assign v slot >>= fun state => state.fill rest := rfl

/-- Assignments to distinct slots apart from each other, all ready: the first error among the
values, or a state in which each slot that names no `__proto__` holds its value; a slot outside
them keeps its own. -/
theorem RowState.fill_ready : ∀ (pairs : List (Slot × Except JSError JSValue)) (state : RowState),
    (pairs.map Prod.fst).Nodup → (pairs.map Prod.fst).Pairwise Slot.Apart →
    (∀ slot ∈ pairs.map Prod.fst, state.Ready slot) →
    (∀ e, (pairs.map Prod.snd).mapM id = .error e → state.fill pairs = .error e) ∧
      ∀ values, (pairs.map Prod.snd).mapM id = .ok values → ∃ state', state.fill pairs = .ok state' ∧
        List.Forall₂ (fun slot value => slot.Ordinary → state'.read slot = value) (pairs.map Prod.fst) values ∧
        ∀ other, other ∉ pairs.map Prod.fst → (∀ slot ∈ pairs.map Prod.fst, slot.Apart other) →
          state.Ready other → state'.Ready other ∧ state'.read other = state.read other
  | [], state, _, _, _ => by
    refine ⟨fun e failed => (by cases failed), fun values done => ?_⟩
    cases done
    exact ⟨state, rfl, .nil, fun _ _ _ ready => ⟨ready, rfl⟩⟩
  | (slot, value) :: rest, state, distinct, apart, ready => by
    simp only [List.map_cons, List.nodup_cons, List.pairwise_cons, List.mem_cons, forall_eq_or_imp]
      at distinct apart ready
    rw [List.map_cons, List.map_cons, List.mapM_cons]
    cases value with
    | error e => exact ⟨fun e' failed => (by cases failed; rfl), fun values failed => (by cases failed)⟩
    | ok v =>
      obtain ⟨first, assigned, first_ready, holds, frame⟩ := assign_ready ready.1 v
      have ready' : ∀ other ∈ rest.map Prod.fst, first.Ready other := fun other mem =>
        (frame other (fun same => distinct.1 (same ▸ mem)) (apart.1 other mem) (ready.2 other mem)).1
      obtain ⟨failing, succeeding⟩ := fill_ready rest first distinct.2 apart.2 ready'
      have unfold : state.fill ((slot, .ok v) :: rest) = first.fill rest := by
        rw [fill_cons_ok, assigned]
        rfl
      rw [unfold]
      cases later : (rest.map Prod.snd).mapM id with
      | error e' =>
        refine ⟨fun e failed => ?_, fun values failed => (by cases failed)⟩
        cases failed
        exact failing e' later
      | ok vs =>
        refine ⟨fun e failed => (by cases failed), fun values done => ?_⟩
        cases done
        obtain ⟨last, filled, reads, frame'⟩ := succeeding vs later
        refine ⟨last, filled, .cons ?_ reads, fun other outside apart' ready'' => ?_⟩
        · exact fun ordinary => by
            rw [(frame' slot distinct.1 (fun other mem => (apart.1 other mem).symm) first_ready).2, holds ordinary]
        · simp only [List.mem_cons, not_or, forall_eq_or_imp] at outside apart'
          obtain ⟨other_ready, other_read⟩ := frame other outside.1 apart'.1 ready''
          obtain ⟨last_ready, last_read⟩ := frame' other outside.2 apart'.2 other_ready
          exact ⟨last_ready, last_read.trans other_read⟩

/-! ## The slots `compile` chooses -/

/-- The slots of one program are all of one kind, so never a key beside a nested slot. -/
theorem slotOf_apart (options : Options) (field field' : ColumnDefinition) (i j : Nat) :
    (slotOf options field i).Apart (slotOf options field' j) := by
  unfold slotOf
  split
  · trivial
  · trivial
  · split <;> trivial

theorem mem_resultTables {fields : List ColumnDefinition} {field : ColumnDefinition} (mem : field ∈ fields) :
    field.table ∈ resultTables fields := by
  suffices grow : ∀ (fields : List ColumnDefinition) (tables : List String) (table : String),
      table ∈ tables ∨ table ∈ fields.map (·.table) →
        table ∈ fields.foldl (fun tables field => if field.table ∈ tables then tables else tables ++ [field.table]) tables from
    grow fields [] field.table (.inr (List.mem_map_of_mem _ mem))
  intro fields
  induction fields with
  | nil => simp
  | cons first rest ih =>
    intro tables table found
    apply ih
    simp only [List.map_cons, List.mem_cons] at found
    by_cases known : first.table ∈ tables
    · simp only [known, if_true]
      rcases found with old | rfl | later
      exacts [.inl old, .inl known, .inr later]
    · simp only [known, if_false, List.mem_append, List.mem_singleton]
      rcases found with old | rfl | later
      exacts [.inl (.inl old), .inl (.inr rfl), .inr later]

namespace RowState

theorem get_foldl_set_of_not_mem (value : JSValue) {table : String} : ∀ (tables : List String) (state : RowState),
    table ∉ tables → (tables.foldl (fun state table => state.set table value) state).get table = state.get table
  | [], _, _ => rfl
  | first :: rest, state, outside => by
    rw [List.foldl_cons, get_foldl_set_of_not_mem value rest _ fun mem => outside (.tail _ mem),
      state.get_set_of_ne value fun same => outside (by rw [same]; exact List.mem_cons_self _ _)]

/-- A table the function has set to `{}` reads as `{}`, even one named `__proto__`. -/
theorem get_foldl_set_object (fields : List (String × JSValue)) {table : String} :
    ∀ (tables : List String) (state : RowState), table ∈ tables →
      (tables.foldl (fun state table => state.set table (.object fields)) state).get table = .object fields
  | [], _, mem => absurd mem (List.not_mem_nil _)
  | first :: rest, state, mem => by
    rw [List.foldl_cons]
    by_cases later : table ∈ rest
    · exact get_foldl_set_object fields rest _ later
    · obtain rfl : table = first := by simpa [later] using mem
      rw [get_foldl_set_of_not_mem _ rest _ later, get_set_object]

@[simp] theorem result_foldl_set (value : JSValue) : ∀ (tables : List String) (state : RowState),
    (tables.foldl (fun state table => state.set table value) state).result = state.result
  | [], _ => rfl
  | first :: rest, state => by rw [List.foldl_cons, result_foldl_set value rest, result_set]

@[simp] theorem result_initial (rowsAsArray : Bool) (columns : Nat) (tables : List String) :
    (initial rowsAsArray columns tables).result = if rowsAsArray then List.replicate columns .undefined else [] := by
  simp [initial]

end RowState

/-- Every slot of a column is ready at the start of the generated function: an index below the
column count, a key, or a property of a table the function has set to `{}`. -/
theorem initial_ready (options : Options) (fields : List ColumnDefinition) {field : ColumnDefinition} {i : Nat}
    (mem : field ∈ fields) (index : i < fields.length) :
    (RowState.initial options.rowsAsArray fields.length
      (if options.nestTables = .tables then resultTables fields else [])).Ready (slotOf options field i) := by
  cases nesting : options.nestTables with
  | separator _ => simp only [slotOf, nesting]; trivial
  | tables =>
    simp only [slotOf, nesting, if_true, RowState.Ready, RowState.initial]
    exact ⟨[], RowState.get_foldl_set_object _ _ _ (mem_resultTables mem)⟩
  | absent =>
    cases array : options.rowsAsArray
    · simp only [slotOf, nesting, array]; trivial
    · simp [slotOf, nesting, array, RowState.Ready, index]

/-- The slots of the columns, in column order. -/
def columnSlots (options : Options) (fields : List ColumnDefinition) : List Slot :=
  fields.enum.map fun (i, field) => slotOf options field i

/-- The row at the start of the function both `compile`s generate. -/
def startState (options : Options) (fields : List ColumnDefinition) : RowState :=
  .initial options.rowsAsArray fields.length (if options.nestTables = .tables then resultTables fields else [])

/-- A store to a key or to a table's property leaves `result` as it was. -/
theorem RowState.result_assign {state state' : RowState} {value : JSValue} :
    ∀ {slot : Slot}, (∀ i, slot ≠ .index i) → state.assign value slot = .ok state' → state'.result = state.result
  | .index i, notIndex, _ => absurd rfl (notIndex i)
  | .key _, _, assigned => by cases assigned; exact result_set ..
  | .nested _ _, _, assigned => by
    simp only [assign] at assigned
    split at assigned <;> cases assigned
    · exact result_set ..
    · rfl

theorem RowState.result_fill : ∀ (pairs : List (Slot × Except JSError JSValue)) (state state' : RowState),
    (∀ slot ∈ pairs.map Prod.fst, ∀ i, slot ≠ .index i) → state.fill pairs = .ok state' → state'.result = state.result
  | [], _, _, _, filled => by cases filled; rfl
  | (slot, value) :: rest, state, state', notIndex, filled => by
    simp only [List.map_cons, List.mem_cons, forall_eq_or_imp] at notIndex
    cases value with
    | error e => cases filled
    | ok v =>
      rw [fill_cons_ok] at filled
      cases assigned : state.assign v slot with
      | error e => rw [assigned] at filled; cases filled
      | ok first =>
        rw [assigned] at filled
        rw [result_fill rest first state' notIndex.2 filled, result_assign notIndex.1 assigned]

/-- Under `nestTables` no column is stored into `result`. -/
theorem slotOf_ne_index {options : Options} (nested : options.nestTables ≠ .absent) (field : ColumnDefinition)
    (i j : Nat) : slotOf options field i ≠ .index j := by
  unfold slotOf
  split
  · nofun
  · nofun
  · contradiction

/-- The value a returned row holds at a slot: an item of the array, a property of the object,
or a property of one of its properties. -/
def slotValue (row : JSValue) : Slot → JSValue
  | .index i => match row with
    | .array items => items.getD i .undefined
    | _ => .undefined
  | .key key => row.get key
  | .nested table name => (row.get table).get name

/-- Off the row the function returns, a column's slot that names no `__proto__` holds what the
row under construction holds there, unless the function returns `result` and stores into
`this`. -/
theorem slotValue_row (state : RowState) {options : Options} (field : ColumnDefinition) (i : Nat)
    (shape : ¬(options.rowsAsArray = true ∧ options.nestTables ≠ .absent))
    (ordinary : (slotOf options field i).Ordinary) :
    slotValue (state.row options.rowsAsArray) (slotOf options field i) = state.read (slotOf options field i) := by
  unfold slotOf at ordinary ⊢
  cases nesting : options.nestTables with
  | absent =>
    cases array : options.rowsAsArray
    · simp only [nesting, array, Slot.Ordinary, if_false, Bool.false_eq_true] at ordinary ⊢
      simp only [slotValue, RowState.row, RowState.read, state.get_ordinary ordinary, if_false, Bool.false_eq_true]
    · simp only [RowState.row, array, if_true, slotValue, RowState.read]
  | tables =>
    have array : options.rowsAsArray = false := by simpa [nesting] using shape
    simp only [nesting, Slot.Ordinary] at ordinary ⊢
    simp only [slotValue, RowState.row, array, RowState.read, state.get_ordinary ordinary.1, if_false,
      Bool.false_eq_true]
  | separator separator =>
    have array : options.rowsAsArray = false := by simpa [nesting] using shape
    simp only [nesting, Slot.Ordinary] at ordinary ⊢
    simp only [slotValue, RowState.row, array, RowState.read, state.get_ordinary ordinary, if_false,
      Bool.false_eq_true]

/-- What the row a parser returns holds for the values of its columns.  Under `rowsAsArray` with
`nestTables` the function stores the values into `this` and returns `result`, `new Array(n)`,
whose `n` holes read as `undefined`; otherwise each column's slot that names no `__proto__`
holds the column's value. -/
def RowHolds (options : Options) (fields : List ColumnDefinition) (row : JSValue) (results : List JSValue) : Prop :=
  if options.rowsAsArray = true ∧ options.nestTables ≠ .absent then row = .array (List.replicate fields.length .undefined)
  else List.Forall₂ (fun slot value => slot.Ordinary → slotValue row slot = value) (columnSlots options fields) results

/-- One value per column, stored in column order from the start: the first error, or a row that
holds the values, when the slots are distinct. -/
theorem fill_columns (options : Options) (fields : List ColumnDefinition) (values : List (Except JSError JSValue))
    (lengths : values.length = fields.length) (distinct : (columnSlots options fields).Nodup) :
    (∀ e, values.mapM id = .error e → (startState options fields).fill ((columnSlots options fields).zip values) = .error e) ∧
      ∀ results, values.mapM id = .ok results → ∃ state,
        (startState options fields).fill ((columnSlots options fields).zip values) = .ok state ∧
        RowHolds options fields (state.row options.rowsAsArray) results := by
  have slots_length : (columnSlots options fields).length = fields.length := by simp [columnSlots]
  have firsts := List.map_fst_zip (columnSlots options fields) values (by omega)
  have seconds := List.map_snd_zip (columnSlots options fields) values (by omega)
  have apart : (columnSlots options fields).Pairwise Slot.Apart :=
    List.pairwise_of_forall_mem_list fun slot mem slot' mem' => by
      obtain ⟨⟨i, field⟩, -, rfl⟩ := List.mem_map.1 mem
      obtain ⟨⟨j, field'⟩, -, rfl⟩ := List.mem_map.1 mem'
      exact slotOf_apart options field field' i j
  have ready : ∀ slot ∈ columnSlots options fields, (startState options fields).Ready slot := fun slot mem => by
    obtain ⟨⟨i, field⟩, column, rfl⟩ := List.mem_map.1 mem
    obtain ⟨index, same⟩ := List.mem_enum column
    exact initial_ready options fields (same ▸ List.getElem_mem index) index
  have filled := RowState.fill_ready ((columnSlots options fields).zip values) (startState options fields)
    (by rw [firsts]; exact distinct) (by rw [firsts]; exact apart) (by rw [firsts]; exact ready)
  rw [firsts, seconds] at filled
  refine ⟨filled.1, fun results done => ?_⟩
  obtain ⟨state, ran, reads, -⟩ := filled.2 results done
  refine ⟨state, ran, ?_⟩
  unfold RowHolds
  split
  · next holes =>
    have kept := RowState.result_fill _ _ _ (by
      rw [firsts]
      intro slot mem
      obtain ⟨⟨i, field⟩, -, rfl⟩ := List.mem_map.1 mem
      exact slotOf_ne_index holes.2 field i) ran
    simp [RowState.row, holes.1, kept, startState]
  · next shape =>
    rw [columnSlots, List.forall₂_map_left_iff] at reads ⊢
    exact reads.imp fun ⟨i, field⟩ _ read ordinary => (slotValue_row state field i shape ordinary).trans (read ordinary)

/-! ## A row read from its cells -/

theorem mapM_map_ok : ∀ results : List JSValue,
    (results.map Except.ok).mapM id = (Except.ok results : Except JSError (List JSValue))
  | [] => rfl
  | result :: results => by
    rw [List.map_cons, List.mapM_cons, mapM_map_ok results]
    rfl

end Mysql2Codec.Row
