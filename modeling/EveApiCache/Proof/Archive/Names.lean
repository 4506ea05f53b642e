import EveApiCache.Proof.Archive.Deltas
import EveApiCache.Proof.Cache.KeySpace
import EveApiCache.Proof.Text

/-!
This file shows when `write_names` leaves the name table and the name cache in agreement.
-/

namespace EveApiCache
open Effects

/-- A mapping carries an id, a name and a category. -/
abbrev NameMapping := Json × Json × Json

/-- The id is a non-zero integer of the column and the name is a non-empty text. -/
def NameMapping.Valid (mapping : NameMapping) : Prop :=
  ∃ id name, mapping.1 = .int id ∧ id ≠ 0 ∧ bigint id = true ∧ mapping.2.1 = .str name ∧ name ≠ []

/-- The columns of a name row hold the datasource, the name and the category. -/
def NameMapping.storable (datasource : PyStr) (mapping : NameMapping) : Bool :=
  isVarchar 20 datasource &&
    (match mapping.2.1 with
      | .str name => isText name
      | _ => false) && (nameCategory mapping.2.2).isSome

/-- No batch names an id twice. -/
def RepeatFree (mappings : List NameMapping) : Prop :=
  ∀ batch ∈ chunks deltaInsertBatchSize mappings, (batch.map Prod.fst).Nodup

instance repeatFree_decidable (mappings : List NameMapping) : Decidable (RepeatFree mappings) :=
  inferInstanceAs (Decidable (∀ batch ∈ chunks deltaInsertBatchSize mappings, _))

/-- This is the last mapping of an id. -/
def lastMapping (mappings : List NameMapping) (id : Int) : Option NameMapping :=
  mappings.reverse.find? fun mapping => mapping.1 = .int id

/-- The name cache has no empty category. -/
def categoryText : Option PyStr → PyStr
  | some category => if category = [] then text "unknown" else category
  | none => text "unknown"

/-- The name row and the cached name of an id hold what its last mapping says. -/
structure NamesAgree (before after : Session) (datasource : PyStr) (mappings : List NameMapping) :
    Prop where
  agree : ∀ id name category, lastMapping mappings id = some (.int id, .str name, category) →
    ∃ row, after.committed.names (datasource, id) = some row ∧ row.entityName = name ∧
      nameCategory category = some row.category ∧
      after.cache.name.read after.cache.now (datasource, intStr id) =
        some (Redis.nameValue name (categoryText row.category))
  firstSeen : ∀ id old, before.committed.names (datasource, id) = some old →
    ∃ row, after.committed.names (datasource, id) = some row ∧ row.firstSeenAt = old.firstSeenAt

variable (libraries : Libraries)

section Evaluation

/-- A program that completes commits what it has committed. -/
theorem transact_of_eval {A : Type} {program : Transaction A} {session final : Session} {value : A}
    (evaluated : program.eval (execute libraries) session = some (value, final)) :
    transact libraries none program session = (true, final.rollback) := by
  unfold transact
  rw [Program.run_of_eval program session final value evaluated]

theorem transact_refused {A : Type} {program : Transaction A} {session : Session}
    (refused : program.eval (execute libraries) session = none) :
    (transact libraries none program session).1 = false := by
  unfold transact
  split
  · rename_i value final finished
    rw [Program.eval_of_run none program session final value finished] at refused
    cases refused
  · rfl

/-- This is the row of a mapping. -/
def nameValues (now : Datetime) (datasource : PyStr) (mapping : NameMapping) : NameValues where
  datasource := datasource
  entityId := mapping.1
  entityName := mapping.2.1
  category := mapping.2.2
  seenAt := now

/-- This is the effect of one mapping on the table. -/
def nameStep (now : Datetime) (datasource : PyStr) (names : PyStr × Int → Option IdName) :
    NameMapping → PyStr × Int → Option IdName
  | (.int id, .str name, category) =>
      upsertName names (datasource, id) name ((nameCategory category).getD none) now
  | _ => names

theorem upsertNames_append (names : PyStr × Int → Option IdName) (first second : List NameValues) :
    upsertNames libraries names (first ++ second) =
      (upsertNames libraries names first).bind fun middle => upsertNames libraries middle second := by
  induction first generalizing names with
  | nil => rfl
  | cons row first ih =>
      rw [List.cons_append, upsertNames, upsertNames]
      split
      · split_ifs
        · exact ih _
        · rfl
      · rfl

/-- The table takes valid mappings exactly when it can store each of them. -/
theorem upsertNames_mappings (now : Datetime) (datasource : PyStr) (mappings : List NameMapping)
    (valid : ∀ mapping ∈ mappings, mapping.Valid) (names : PyStr × Int → Option IdName) :
    upsertNames libraries names (mappings.map (nameValues now datasource)) =
      if mappings.all (NameMapping.storable datasource) then
        some (mappings.foldl (nameStep now datasource) names) else none := by
  induction mappings generalizing names with
  | nil => rfl
  | cons mapping mappings ih =>
      obtain ⟨id, name, identified, _, fits, named, _⟩ := valid mapping (by simp)
      obtain ⟨entityId, entityName, category⟩ := mapping
      obtain rfl : entityId = .int id := identified
      obtain rfl : entityName = .str name := named
      have rest := ih (fun other member => valid other (by simp [member]))
      rw [List.map_cons, upsertNames, List.all_cons]
      cases stored : nameCategory category with
      | none => simp [nameValues, NameMapping.storable, stored]
      | some column =>
          have unfolded : nameStep now datasource names (.int id, .str name, category) =
              upsertName names (datasource, id) name column now := by
            simp [nameStep, stored]
          simp only [nameValues, columnInt, stored, fits, Bool.and_true]
          rw [List.foldl_cons, unfolded]
          by_cases text : (isVarchar 20 datasource && isText name) = true
          · rw [if_pos text]
            refine (rest _).trans ?_
            have here : NameMapping.storable datasource (.int id, .str name, category) = true := by
              simpa [NameMapping.storable, stored] using text
            rw [here, Bool.true_and]
          · rw [if_neg text]
            have here : NameMapping.storable datasource (.int id, .str name, category) = false := by
              simpa [NameMapping.storable, stored] using text
            rw [here, Bool.false_and]
            rfl

/-- The batches of a call have distinct keys exactly when no batch names an id twice. -/
theorem nameKeys_nodup (now : Datetime) (datasource : PyStr) (batch : List NameMapping)
    (valid : ∀ mapping ∈ batch, mapping.Valid) :
    ((batch.map (nameValues now datasource)).map (NameValues.key libraries)).Nodup ↔
      (batch.map Prod.fst).Nodup := by
  have keys : (batch.map (nameValues now datasource)).map (NameValues.key libraries) =
      (batch.map Prod.fst).map fun id => (datasource, columnInt libraries id) := by
    rw [List.map_map, List.map_map]
    rfl
  rw [keys]
  refine ⟨List.Nodup.of_map _, fun distinct => distinct.map_on ?_⟩
  intro first member second other same
  obtain ⟨one, inside, rfl⟩ := List.mem_map.mp member
  obtain ⟨two, inside', rfl⟩ := List.mem_map.mp other
  obtain ⟨id, _, identified, _⟩ := valid one inside
  obtain ⟨id', _, identified', _⟩ := valid two inside'
  rw [identified, identified'] at same ⊢
  exact congrArg Json.int (Option.some.inj (Prod.mk.inj same).2)

/-- The upserts of all batches amount to one upsert when each batch has distinct keys. -/
theorem upsertBatches_eval (batches : List (List NameValues)) (session : Session) :
    (forBatches upsertNameBatch batches).eval (execute libraries) session =
      if (∀ batch ∈ batches, (batch.map (NameValues.key libraries)).Nodup) then
        (upsertNames libraries session.database.names batches.flatten).map fun names =>
          ((), { session with database := { session.database with names := names } })
      else none := by
  induction batches generalizing session with
  | nil => simp [forBatches, Program.eval, upsertNames]
  | cons batch batches ih =>
      change (upsertNameBatch batch >>= fun _ => forBatches upsertNameBatch batches).eval _ _ = _
      rw [Program.eval_bind]
      change ((Program.call (I := archiveInterface) (.upsertNames batch)).eval _ _).bind _ = _
      have first : execute libraries (.upsertNames batch) session =
          if (batch.map (NameValues.key libraries)).Nodup then
            (upsertNames libraries session.database.names batch).map fun names =>
              ((), { session with database := { session.database with names := names } })
          else none := rfl
      rw [Program.eval_call, List.flatten_cons, upsertNames_append, first]
      simp only [List.forall_mem_cons]
      by_cases distinct : (batch.map (NameValues.key libraries)).Nodup
      · rw [if_pos distinct]
        cases upsertNames libraries session.database.names batch with
        | none =>
            dsimp only [Option.map_none, Option.bind_none]
            split_ifs <;> rfl
        | some names =>
            refine (ih _).trans ?_
            simp only [distinct, true_and]
            rfl
      · rw [if_neg distinct, if_neg fun all => distinct all.1]
        rfl

/-- The last two statements of a call cache the names and commit. -/
theorem cacheNames_eval (datasource : PyStr) (items : List (PyStr × PyStr × PyStr))
    (session : Session) :
    Program.eval (execute libraries) (do
      Program.call (I := archiveInterface) (.setNames datasource items)
      Program.call (I := archiveInterface) .commit) session =
        some ((), { session with
          committed := session.database
          cache := session.cache.setNames datasource items }) := rfl

/-- This is the session after the statements of valid mappings. -/
def named (now : Datetime) (datasource : PyStr) (mappings : List NameMapping) (session : Session) :
    Session :=
  let database := { session.database with
    names := mappings.foldl (nameStep now datasource) session.database.names }
  { session with
    database := database
    committed := database
    cache := session.cache.setNames datasource (mappings.map cachedName) }

/-- The call completes exactly when no batch repeats an id and the table can store each mapping. -/
theorem writeMappings_eval (now : Datetime) (datasource : PyStr) (mappings : List NameMapping)
    (valid : ∀ mapping ∈ mappings, mapping.Valid) (filled : mappings ≠ []) (session : Session) :
    (writeMappings now datasource mappings).eval (execute libraries) session =
      if RepeatFree mappings ∧ mappings.all (NameMapping.storable datasource) = true then
        some ((), named now datasource mappings session) else none := by
  have batches : chunks deltaInsertBatchSize (mappings.map (nameValues now datasource)) =
      (chunks deltaInsertBatchSize mappings).map (·.map (nameValues now datasource)) :=
    chunks_map _ _ _
  have distinct : (∀ batch ∈ chunks deltaInsertBatchSize (mappings.map (nameValues now datasource)),
      (batch.map (NameValues.key libraries)).Nodup) ↔ RepeatFree mappings := by
    rw [batches, List.forall_mem_map]
    refine forall₂_congr fun batch chosen => nameKeys_nodup libraries now datasource batch ?_
    exact fun mapping member => valid mapping (mem_chunks chosen member)
  have written : (forBatches upsertNameBatch (chunks deltaInsertBatchSize
      (mappings.map (nameValues now datasource)))).eval (execute libraries) session =
        if RepeatFree mappings ∧ mappings.all (NameMapping.storable datasource) = true then
          some ((), { session with database := { session.database with
            names := mappings.foldl (nameStep now datasource) session.database.names } })
        else none := by
    rw [upsertBatches_eval, if_congr distinct rfl rfl, chunks_flatten _ _ (by decide),
      upsertNames_mappings libraries now datasource mappings valid]
    by_cases free : RepeatFree mappings
    · by_cases stored : mappings.all (NameMapping.storable datasource) = true
      · rw [if_pos free, if_pos stored, if_pos ⟨free, stored⟩, Option.map_some]
      · rw [if_pos free, if_neg stored, if_neg fun all => stored all.2, Option.map_none]
    · rw [if_neg free, if_neg fun all => free all.1]
  obtain ⟨first, rest, rfl⟩ := List.exists_cons_of_ne_nil filled
  refine (Program.eval_bind _ _ _).trans ?_
  change ((forBatches upsertNameBatch (chunks deltaInsertBatchSize
    ((first :: rest).map (nameValues now datasource)))).eval (execute libraries) session).bind _ = _
  rw [written]
  split_ifs
  · exact cacheNames_eval libraries datasource _ _
  · rfl

end Evaluation

section Agreement

theorem lastMapping_append (mappings : List NameMapping) (mapping : NameMapping) (id : Int) :
    lastMapping (mappings ++ [mapping]) id =
      if mapping.1 = .int id then some mapping else lastMapping mappings id := by
  unfold lastMapping
  rw [List.reverse_append, List.reverse_singleton, List.singleton_append, List.find?_cons]
  split_ifs with same
  · simp [same]
  · simp [same]

/-- A step upserts the row of its id or does nothing. -/
theorem nameStep_cases (now : Datetime) (datasource : PyStr) (names : PyStr × Int → Option IdName)
    (mapping : NameMapping) : nameStep now datasource names mapping = names ∨
      ∃ id name column, mapping.1 = .int id ∧
        nameStep now datasource names mapping = upsertName names (datasource, id) name column now := by
  unfold nameStep
  split
  · exact .inr ⟨_, _, _, rfl, rfl⟩
  · exact .inl rfl

/-- The table holds the last mapping of every id. -/
theorem names_last (now : Datetime) (datasource : PyStr) (mappings : List NameMapping)
    (names : PyStr × Int → Option IdName) {id : Int} {name : PyStr} {category : Json}
    {column : Option PyStr} (stored : nameCategory category = some column)
    (last : lastMapping mappings id = some (.int id, .str name, category)) :
    ∃ row, mappings.foldl (nameStep now datasource) names (datasource, id) = some row ∧
      row.entityName = name ∧ row.category = column := by
  induction mappings using List.reverseRecOn with
  | nil => cases last
  | append_singleton mappings mapping ih =>
      rw [lastMapping_append] at last
      rw [List.foldl_append, List.foldl_cons, List.foldl_nil]
      split_ifs at last with same
      · cases last
        simp only [nameStep, upsertName, Function.update_self, stored]
        split
        · exact ⟨_, rfl, rfl, rfl⟩
        · exact ⟨_, rfl, rfl, rfl⟩
      · have before := ih last
        rcases nameStep_cases now datasource (mappings.foldl (nameStep now datasource) names) mapping with
          idle | ⟨other, _, _, identified, moved⟩
        · rw [idle]
          exact before
        · have apart : (datasource, id) ≠ (datasource, other) := by
            intro equal
            rw [(Prod.mk.inj equal).2] at same
            exact same identified
          rw [moved, upsertName, Function.update_of_ne apart]
          exact before

/-- A row that is known keeps the time when it was first seen. -/
theorem names_firstSeen (now : Datetime) (datasource : PyStr) (mappings : List NameMapping)
    {names : PyStr × Int → Option IdName} {key : PyStr × Int} {old : IdName}
    (known : names key = some old) :
    ∃ row, mappings.foldl (nameStep now datasource) names key = some row ∧
      row.firstSeenAt = old.firstSeenAt := by
  induction mappings using List.reverseRecOn with
  | nil => exact ⟨old, known, rfl⟩
  | append_singleton mappings mapping ih =>
      obtain ⟨row, present, first⟩ := ih
      rw [List.foldl_append, List.foldl_cons, List.foldl_nil]
      rcases nameStep_cases now datasource (mappings.foldl (nameStep now datasource) names) mapping with
        idle | ⟨id, name, column, _, moved⟩
      · rw [idle]
        exact ⟨row, present, first⟩
      · rw [moved, upsertName]
        by_cases same : key = (datasource, id)
        · subst same
          rw [Function.update_self, present]
          exact ⟨_, rfl, first⟩
        · rw [Function.update_of_ne same]
          exact ⟨row, present, first⟩

theorem setNames_nil (redis : Redis) (datasource : PyStr) : redis.setNames datasource [] = redis := by
  unfold Redis.setNames
  rw [List.foldl_nil]

theorem setNames_cons (redis : Redis) (datasource : PyStr) (item : PyStr × PyStr × PyStr)
    (items : List (PyStr × PyStr × PyStr)) : redis.setNames datasource (item :: items) =
      Redis.setNames { redis with
        name := redis.setEx redis.name (datasource, item.1) (Redis.nameValue item.2.1 item.2.2) 86400 }
        datasource items := by
  unfold Redis.setNames
  rw [List.foldl_cons]

theorem setNames_append (redis : Redis) (datasource : PyStr)
    (first second : List (PyStr × PyStr × PyStr)) : redis.setNames datasource (first ++ second) =
      (redis.setNames datasource first).setNames datasource second := by
  unfold Redis.setNames
  rw [List.foldl_append]

theorem setNames_now (redis : Redis) (datasource : PyStr) (items : List (PyStr × PyStr × PyStr)) :
    (redis.setNames datasource items).now = redis.now := by
  induction items generalizing redis with
  | nil => rw [setNames_nil]
  | cons item items ih => rw [setNames_cons, ih]

theorem setNames_single (redis : Redis) (datasource : PyStr) (item : PyStr × PyStr × PyStr) :
    (redis.setNames datasource [item]).name =
      redis.setEx redis.name (datasource, item.1) (Redis.nameValue item.2.1 item.2.2) 86400 := by
  rw [setNames_cons, setNames_nil]

/-- A Redis takes the same lifetimes as another one at the same time. -/
theorem setEx_now {Key Value : Type} [DecidableEq Key] {first second : Redis}
    (same : first.now = second.now) (store : TimedStore Key Value) (key : Key) (value : Value)
    (ex : Int) : first.setEx store key value ex = second.setEx store key value ex := by
  unfold Redis.setEx Redis.accepts Redis.deadline
  rw [same]

/-- A value that was just stored is live. -/
theorem setEx_read {Key Value : Type} [DecidableEq Key] {redis : Redis} {store : TimedStore Key Value}
    {key : Key} {value : Value} {ex : Int} (stored : store key = some ⟨value, redis.deadline ex⟩) :
    store.read redis.now key = some value :=
  TimedStore.read_eq_some.mpr ⟨redis.deadline ex, stored, Nat.le_add_right _ _⟩

/-- The cache holds the last mapping of every id. -/
theorem cache_last (redis : Redis) (clock : redis.accepts 86400 = true) (datasource : PyStr)
    (mappings : List NameMapping) (valid : ∀ mapping ∈ mappings, mapping.Valid) {id : Int}
    {mapping : NameMapping} (last : lastMapping mappings id = some mapping) :
    (redis.setNames datasource (mappings.map cachedName)).name (datasource, intStr id) =
      some ⟨Redis.nameValue (cachedName mapping).2.1 (cachedName mapping).2.2,
        redis.deadline 86400⟩ := by
  induction mappings using List.reverseRecOn with
  | nil => cases last
  | append_singleton mappings final ih =>
      have before := ih fun other member => valid other (List.mem_append_left _ member)
      obtain ⟨other, _, identified, _⟩ := valid final (by simp)
      have key : (cachedName final).1 = intStr other := by
        rw [cachedName, identified]
        rfl
      rw [lastMapping_append] at last
      rw [List.map_append, List.map_singleton, setNames_append, setNames_single,
        setEx_now (setNames_now redis datasource _), key, setEx_apply]
      split_ifs at last with same
      · cases last
        rw [identified] at same
        rw [Json.int.inj same, if_pos ⟨rfl, clock⟩]
      · rw [if_neg]
        · exact before last
        · rintro ⟨equal, _⟩
          rw [identified, intStr_injective (Prod.mk.inj equal).2] at same
          exact same rfl

/-- The cached category is the stored one, or a word for a missing one. -/
theorem cachedName_category {mapping : NameMapping} {column : Option PyStr}
    (stored : nameCategory mapping.2.2 = some column) :
    (cachedName mapping).2.2 = categoryText column := by
  obtain ⟨id, name, category⟩ := mapping
  cases category with
  | null =>
      cases stored
      rfl
  | str word =>
      unfold nameCategory at stored
      dsimp only at stored
      split_ifs at stored
      cases stored
      unfold cachedName categoryText truthy
      by_cases empty : word = []
      · simp [empty]
      · simp [empty, keyStr]
  | bool | int | float | arr | obj => cases stored

/-- Valid mappings that are written leave the table and the cache in agreement. -/
theorem named_agree (now : Datetime) (datasource : PyStr) (mappings : List NameMapping)
    (valid : ∀ mapping ∈ mappings, mapping.Valid)
    (storable : mappings.all (NameMapping.storable datasource) = true) (session : Session)
    (idle : session.Idle) (clock : session.cache.accepts 86400 = true) :
    NamesAgree session (named now datasource mappings session).rollback datasource mappings where
  agree id name category last := by
    have member : ((.int id, .str name, category) : NameMapping) ∈ mappings :=
      List.mem_reverse.mp (List.mem_of_find?_eq_some last)
    have fits := List.all_eq_true.mp storable _ member
    simp only [NameMapping.storable, Bool.and_eq_true] at fits
    obtain ⟨column, stored⟩ := Option.isSome_iff_exists.mp fits.2
    obtain ⟨row, present, called, category⟩ :=
      names_last now datasource mappings session.database.names stored last
    refine ⟨row, present, called, category.symm ▸ stored, ?_⟩
    have cached := cache_last session.cache clock datasource mappings valid last
    rw [cachedName_category stored, ← category] at cached
    change TimedStore.read _ (session.cache.setNames datasource _).now _ = _
    rw [setNames_now]
    exact setEx_read cached
  firstSeen id old known := by
    refine names_firstSeen now datasource mappings ?_
    have same : session.database = session.committed := idle
    rw [same]
    exact known

end Agreement

/-- A call of `write_names` completes and leaves the name table and the name cache in agreement
exactly when no batch names an id twice and the columns can hold every mapping. -/
theorem writeNames_agree_iff (session : Session) (idle : session.Idle)
    (clock : session.cache.accepts 86400 = true) (now : Datetime) (datasource : PyStr)
    (payload : Bytes) (data : Json) (parsed : Json.loads libraries.floatRepr payload = some data)
    (valid : ∀ mapping ∈ extractNameMappings data, NameMapping.Valid mapping) :
    ((transact libraries none (writeNames libraries now datasource payload) session).1 = true ∧
      NamesAgree session
        (transact libraries none (writeNames libraries now datasource payload) session).2 datasource
        (extractNameMappings data)) ↔
      RepeatFree (extractNameMappings data) ∧
        (extractNameMappings data).all (NameMapping.storable datasource) = true := by
  unfold writeNames
  rw [parsed]
  dsimp only
  generalize extractNameMappings data = mappings at valid ⊢
  by_cases empty : mappings = []
  · subst empty
    refine ⟨fun _ => ⟨nofun, rfl⟩, fun _ => ⟨rfl, ⟨nofun, fun id old known => ⟨old, ?_, rfl⟩⟩⟩⟩
    exact known
  have evaluated := writeMappings_eval libraries now datasource mappings valid empty session
  constructor
  · rintro ⟨completes, _⟩
    by_contra refused
    rw [if_neg refused] at evaluated
    rw [transact_refused libraries evaluated] at completes
    cases completes
  · intro accepted
    rw [if_pos accepted] at evaluated
    rw [transact_of_eval libraries evaluated]
    exact ⟨rfl, named_agree now datasource mappings valid accepted.2 session idle clock⟩

/-- This answer to `/universe/ids/` names one id as an agent and as a character. -/
def agentPayload : Bytes :=
  bytes "\x7b\"agents\":[\x7b\"id\":3008416,\"name\":\"Ann\"\x7d]," ++
    bytes "\"characters\":[\x7b\"id\":3008416,\"name\":\"Ann\"\x7d]\x7d"

/-- This is the parsed answer. -/
def agentData : Json :=
  .obj [(text "agents", .arr [.obj [(text "id", .int 3008416), (text "name", .str (text "Ann"))]]),
    (text "characters", .arr [.obj [(text "id", .int 3008416), (text "name", .str (text "Ann"))]])]

theorem agentData_valid : ∀ mapping ∈ extractNameMappings agentData, NameMapping.Valid mapping := by
  have listed : extractNameMappings agentData =
      [(.int 3008416, .str (text "Ann"), .str (text "agent")),
        (.int 3008416, .str (text "Ann"), .str (text "character"))] := by
    decide +kernel
  rw [listed]
  intro mapping member
  rcases List.mem_cons.mp member with rfl | member
  · exact ⟨3008416, text "Ann", rfl, by decide, by decide, rfl, by decide⟩
  · rw [List.mem_singleton.mp member]
    exact ⟨3008416, text "Ann", rfl, by decide, by decide, rfl, by decide⟩

/-- The database refuses the batch, because it names one id twice. -/
theorem writeNames_agent : ¬ ∀ (libraries : Libraries) (session : Session), session.Idle →
    session.cache.accepts 86400 = true → ∀ (now : Datetime), ∀ datasource ∈ validDatasources,
      ∀ (payload : Bytes) (data : Json), Json.loads libraries.floatRepr payload = some data →
        (∀ mapping ∈ extractNameMappings data, NameMapping.Valid mapping) →
          (transact libraries none (writeNames libraries now datasource payload) session).1 = true ∧
            NamesAgree session
              (transact libraries none (writeNames libraries now datasource payload) session).2
              datasource (extractNameMappings data) := by
  intro claimed
  obtain ⟨completes, _⟩ := claimed incursionLibraries emptySession rfl (by decide +kernel) newYear
    (text "tranquility") (by decide) agentPayload agentData (by decide +kernel) agentData_valid
  have refused : (transact incursionLibraries none (writeNames incursionLibraries newYear
      (text "tranquility") agentPayload) emptySession).1 = false := by
    decide +kernel
  rw [refused] at completes
  cases completes

/-- These answers to `/universe/names/` name a character twice, and the second one names more. -/
def anneText : Bytes := bytes "[\x7b\"category\":\"character\",\"id\":3008416,\"name\":\"Anne\"\x7d]"

def annText : Bytes :=
  bytes "[\x7b\"category\":\"character\",\"id\":3008416,\"name\":\"Ann\"\x7d," ++
    bytes "\x7b\"category\":\"region\",\"id\":10000002,\"name\":\"The Forge\"\x7d," ++
      bytes "\x7b\"category\":\"solar_system\",\"id\":30000142,\"name\":\"Jita\"\x7d]"

/-- This is an item of an answer. -/
def namedItem (category : PyStr) (id : Int) (name : PyStr) : Json :=
  .obj [(text "category", .str category), (text "id", .int id), (text "name", .str name)]

/-- This is the second answer. -/
def annData : Json :=
  .arr [namedItem (text "character") 3008416 (text "Ann"),
    namedItem (text "region") 10000002 (text "The Forge"),
    namedItem (text "solar_system") 30000142 (text "Jita")]

theorem annData_valid : ∀ mapping ∈ extractNameMappings annData, NameMapping.Valid mapping := by
  have listed : extractNameMappings annData =
      [(.int 3008416, .str (text "Ann"), .str (text "character")),
        (.int 10000002, .str (text "The Forge"), .str (text "region")),
        (.int 30000142, .str (text "Jita"), .str (text "solar_system"))] := by
    decide +kernel
  rw [listed]
  simp only [List.forall_mem_cons]
  exact ⟨⟨3008416, text "Ann", rfl, by decide, by decide, rfl, by decide⟩,
    ⟨10000002, text "The Forge", rfl, by decide, by decide, rfl, by decide⟩,
    ⟨30000142, text "Jita", rfl, by decide, by decide, rfl, by decide⟩, nofun⟩

/-- The character is known by an older name. -/
def anneSession : Session :=
  (transact incursionLibraries none (writeNames incursionLibraries newYear (text "tranquility")
    anneText) emptySession).2

/-- Three names are written to the table and to the cache, and one of the ids is already known. -/
theorem writeNames_agree_iff_ann :
    (anneSession.committed.names (text "tranquility", 3008416)).isSome = true ∧
      (transact incursionLibraries none (writeNames incursionLibraries { newYear with day := 2 }
        (text "tranquility") annText) anneSession).1 = true ∧
      NamesAgree anneSession (transact incursionLibraries none (writeNames incursionLibraries
        { newYear with day := 2 } (text "tranquility") annText) anneSession).2 (text "tranquility")
        (extractNameMappings annData) :=
  ⟨by decide +kernel, (writeNames_agree_iff incursionLibraries anneSession
    (transact_idle incursionLibraries none _ emptySession) (by decide +kernel)
    { newYear with day := 2 } (text "tranquility") annText annData (by decide +kernel)
    annData_valid).mpr ⟨by decide +kernel, by decide +kernel⟩⟩

end EveApiCache
