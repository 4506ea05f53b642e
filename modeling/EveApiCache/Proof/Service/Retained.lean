import EveApiCache.Proof.Archive.Latest
import EveApiCache.Proof.Service.Collector

/-!
This file shows that the archive answers for every identity that it holds.
-/

namespace EveApiCache
open Effects StepMachine

variable (libraries : Libraries) (settings : Settings)

/-- A body is a JSON array or a JSON object. -/
def Structured (body : Bytes) : Prop :=
  ∃ value, Json.loads libraries.floatRepr body = some value ∧
    ((∃ items, value = .arr items) ∨ ∃ fields, value = .obj fields)

/-- An archive holds something for an identity. -/
def Archived (database : Database) (identity : Identity) : Prop :=
  (∃ row ∈ database.timeseries, row.identity = identity) ∨
    (database.reference identity).isSome = true ∨ (database.events identity).isSome = true

/-- A body is equal in JSON value to a payload. -/
def EqualInValue (payload body : Bytes) : Prop :=
  body = payload ∨ ValueText libraries payload (some (some body))

variable {libraries settings}

section Json

/-- No JSON value begins with a `z`. -/
theorem parse_z (floatRepr : PyStr → PyStr) (rest : PyStr) :
    Json.parse floatRepr (0x7a :: rest) = none := by
  have number : Json.readNumber floatRepr (0x7a :: rest) = none := rfl
  have word : Json.readWord (text "-Infinity") (.float (text "-Infinity")) (0x7a :: rest) = none := rfl
  have value (rounds : Nat) : Json.readValue floatRepr (rounds + 1) (0x7a :: rest) = none := by
    rw [Json.readValue]
    rw [if_neg (by decide), if_neg (by decide), if_neg (by decide), if_neg (by decide),
      if_neg (by decide), if_neg (by decide), if_neg (by decide), if_neg (by decide), number, word]
    rfl
  unfold Json.parse
  rw [show Json.skipSpace (0x7a :: rest) = 0x7a :: rest from rfl, value]

/-- A text that begins with the mark of the cache is no JSON text. -/
theorem loads_unmarked {body : Bytes} {value : Json}
    (parsed : Json.loads libraries.floatRepr body = some value) :
    cacheMagic.isPrefixOf body = false := by
  rw [Bool.eq_false_iff]
  intro marked
  obtain ⟨rest, rfl⟩ := List.isPrefixOf_iff_prefix.mp marked
  unfold Json.loads at parsed
  obtain ⟨input, decoded, parsed⟩ := Option.bind_eq_some_iff.mp parsed
  have decoder : decodeDetected (cacheMagic ++ rest) = decodeUtf16 true (cacheMagic ++ rest) := rfl
  rw [decoder] at decoded
  obtain ⟨units, grouped, rfl⟩ := Option.map_eq_some_iff.mp decoded
  obtain ⟨tail, rfl⟩ : ∃ tail, units = 0x7a :: tail := by
    change (units16 true ((0x00 : Byte) :: 0x7a :: (0x63 :: 0x00 :: rest))) = some units at grouped
    unfold units16 at grouped
    obtain ⟨tail, _, same⟩ := Option.bind_eq_some_iff.mp grouped
    cases same
    exact ⟨tail, rfl⟩
  obtain ⟨more, joined⟩ : ∃ more, joinUnits (0x7a :: tail) = 0x7a :: more := by
    cases tail with
    | nil => exact ⟨[], rfl⟩
    | cons unit tail => exact ⟨joinUnits (unit :: tail), rfl⟩
  rw [joined, parse_z] at parsed
  cases parsed

theorem Structured.unmarked {body : Bytes} (structured : Structured libraries body) :
    Unmarked settings body := by
  obtain ⟨value, parsed, _⟩ := structured
  exact .inr (loads_unmarked parsed)

theorem Structured.nonempty {body : Bytes} (structured : Structured libraries body) : body ≠ [] := by
  rintro rfl
  obtain ⟨value, parsed, _⟩ := structured
  cases parsed

/-- A JSON text that is equal in value to an array or an object is not empty. -/
theorem EqualInValue.nonempty {payload body : Bytes} (structured : Structured libraries payload)
    (equal : EqualInValue libraries payload body) : body ≠ [] := by
  rcases equal with rfl | ⟨value, stored, parsed, same, answer⟩
  · exact structured.nonempty
  · obtain ⟨other, again, shape⟩ := structured
    obtain rfl := Option.some.inj (parsed.symm.trans again)
    have text := Option.some.inj (Option.some.inj answer)
    rw [text]
    rcases shape with ⟨items, rfl⟩ | ⟨fields, rfl⟩
    · cases stored with
      | arr others => cases others <;> exact List.cons_ne_nil _ _
      | _ => simp [Json.sameValue, Json.sameNumber, Json.number] at same
    · cases stored with
      | obj others => cases others <;> exact List.cons_ne_nil _ _
      | _ => simp [Json.sameValue, Json.sameNumber, Json.number] at same

end Json

section Archive

/-- What is archived stays archived. -/
theorem Archived.kept {before after : Database} {identity : Identity}
    (archived : Archived before identity) (kept : Kept before after) : Archived after identity := by
  rcases archived with ⟨row, member, same⟩ | present | present
  · obtain ⟨other, inside, _, _, rfl⟩ := kept.timeseries row member
    exact .inl ⟨_, inside, same⟩
  · obtain ⟨row, stored⟩ := Option.isSome_iff_exists.mp present
    obtain ⟨other, stored, _⟩ := kept.reference identity row stored
    exact .inr (.inl (by rw [stored]; rfl))
  · obtain ⟨row, stored⟩ := Option.isSome_iff_exists.mp present
    exact .inr (.inr (by rw [kept.events identity row stored]; rfl))

/-- A successful call archives its identity. -/
theorem archived_of_transact (injective : Function.Injective libraries.sha256) {now : Datetime}
    {observed : Observation} {fault : Option Nat} {session next : Session}
    (reached : (archiveMachine libraries settings).Reachable session)
    (archives : observed.archiveType ≠ .none)
    (succeeded : transact libraries fault (writeSnapshot libraries settings now observed) session =
      (true, next)) : Archived next.committed observed.identity := by
  obtain ⟨⟨⟩, final, evaluated, rfl⟩ := transact_succeeded libraries succeeded
  have idle := (reachable_restorable libraries settings reached).1
  have sound := (reachable_sound libraries settings injective reached).committed
  unfold writeSnapshot at evaluated
  cases shape : observed.archiveType with
  | none => exact absurd shape archives
  | timeSeries =>
      rw [shape] at evaluated
      change (writeTimeSeries libraries settings now observed >>= fun _ =>
        Program.call (I := archiveInterface) .commit).eval (execute libraries) session = _ at evaluated
      rw [Program.eval_bind] at evaluated
      obtain ⟨⟨⟨⟩, middle⟩, wrote, committed⟩ := Option.bind_eq_some_iff.mp evaluated
      obtain ⟨fits, added⟩ := (writeTimeSeries_added libraries settings _ _ session).eval wrote
      rw [show session.database = session.committed from idle] at added
      cases committed
      rcases added with ⟨⟨old, member, taken⟩, labels⟩ | ⟨_, id, labels⟩
      · have keys := Option.some.inj ((sound.keyed old member).symm.trans taken)
        obtain ⟨same, _⟩ := timeseriesIdempotencyKey_injective libraries injective
          (sound.fits old member) fits keys
        obtain ⟨_, kept, _, _, rfl⟩ := relabelled_forward labels old member
        exact .inl ⟨_, kept, same⟩
      · obtain ⟨_, kept, _, _, rfl⟩ := relabelled_forward labels _
          (List.mem_append_right _ (List.mem_singleton_self _))
        exact .inl ⟨_, kept, rfl⟩
  | reference =>
      rw [shape] at evaluated
      obtain ⟨value, parsed, upserts⟩ := eval_orFail libraries evaluated
      obtain ⟨⟨_, middle⟩, wrote, committed⟩ := Option.bind_eq_some_iff.mp upserts
      obtain ⟨stored, _, _, _, column⟩ := upsertReference_column libraries wrote
      cases committed
      obtain ⟨row, found, _⟩ := Option.map_eq_some_iff.mp column
      exact .inr (.inl (Option.isSome_of_eq_some found))
  | event =>
      rw [shape] at evaluated
      obtain ⟨value, parsed, inserts⟩ := eval_orFail libraries evaluated
      obtain ⟨⟨_, middle⟩, wrote, committed⟩ := Option.bind_eq_some_iff.mp inserts
      obtain ⟨stored, _, _, _, column⟩ := insertEvent_column libraries wrote
      cases committed
      have filled : ((middle.database.events observed.identity).map (·.payload)).isSome = true := by
        rw [column]
        cases (session.database.events observed.identity).map (·.payload) <;> rfl
      rw [Option.isSome_map] at filled
      exact .inr (.inr filled)

/-- A column of a structured payload is read as a text that is equal in value. -/
theorem columnText_parsed {observes : Identity → Bytes → Prop} {identity : Identity} {hash : PyStr}
    {stored : Json} (faithful : ∀ payload, Faithful libraries payload)
    (structured : ∀ payload, observes identity payload → Structured libraries payload)
    (parsed : Parsed libraries observes identity hash stored) :
    ∃ payload body, observes identity payload ∧ columnText (some stored) = some body ∧
      ValueText libraries payload (some (some body)) := by
  obtain ⟨payload, observed, _, bound⟩ := parsed
  obtain ⟨value, loaded, kept⟩ := Option.bind_eq_some_iff.mp bound
  have substantial : Json.loads libraries.floatRepr payload ≠ some .null := by
    obtain ⟨other, again, shape⟩ := structured payload observed
    rw [again]
    rcases shape with ⟨items, rfl⟩ | ⟨fields, rfl⟩ <;> exact fun same => by cases same
  obtain ⟨read, other, same, equal, answer⟩ := (columnText_iff libraries (faithful payload)
    ⟨value, stored, loaded, kept, rfl⟩).mpr substantial
  exact ⟨payload, _, observed, Option.some.inj answer, read, other, same, equal, rfl⟩

/-- A sourced archive answers for every identity that it holds. -/
theorem getLatestPayload_archived {observes : Identity → Bytes → Prop} {database : Database}
    (injective : Function.Injective libraries.sha256)
    (faithful : ∀ payload, Faithful libraries payload)
    (sourced : Sourced libraries observes database) (restorable : Restorable libraries database)
    {identity : Identity}
    (structured : ∀ payload, observes identity payload → Structured libraries payload)
    (archived : Archived database identity) (files : PyStr → Option Bytes) :
    ∃ payload body, getLatestPayload libraries database files identity = some (some body) ∧
      observes identity payload ∧ EqualInValue libraries payload body := by
  by_cases absent : ∀ row ∈ database.timeseries, row.identity ≠ identity
  · rw [getLatestPayload_columns libraries files absent]
    have reads (hash : PyStr) (stored : Json) (parsed : Parsed libraries observes identity hash stored) :=
      columnText_parsed faithful structured parsed
    unfold referenceOrEvent
    cases found : database.reference identity with
    | some row =>
        obtain ⟨payload, body, observed, text, equal⟩ :=
          reads _ _ (sourced.reference identity row found).2
        refine ⟨payload, body, ?_, observed, .inr equal⟩
        rw [Option.map_some, text]
        rfl
    | none =>
        have present : (database.events identity).isSome = true := by
          rcases archived with ⟨row, member, same⟩ | present | present
          · exact absurd same (absent row member)
          · rw [found] at present
            cases present
          · exact present
        obtain ⟨row, stored⟩ := Option.isSome_iff_exists.mp present
        obtain ⟨payload, body, observed, text, equal⟩ :=
          reads _ _ (sourced.events identity row stored).2
        refine ⟨payload, body, ?_, observed, .inr equal⟩
        rw [stored, Option.map_some, text]
        rfl
  · have nonempty : database.timeseries.filter (·.identity = identity) ≠ [] := fun empty =>
      absent fun row member same => by
        have inside : row ∈ database.timeseries.filter (·.identity = identity) :=
          List.mem_filter.mpr ⟨member, by simpa using same⟩
        rw [empty] at inside
        cases inside
    obtain ⟨best, inside, chosen, _⟩ := latestRow_spec _ nonempty
    obtain ⟨member, equal⟩ := List.mem_filter.mp inside
    have equal : best.identity = identity := by simpa using equal
    obtain ⟨_, empty, payload, observed, hash⟩ := sourced.timeseries best member
    obtain ⟨blob, stored⟩ := Option.isSome_iff_exists.mp (restorable.payloads best member)
    obtain ⟨content, restored, same⟩ := restorable.blobs _ _ stored
    obtain rfl := injective (same.trans hash)
    refine ⟨content, content, ?_, equal ▸ observed, .inl rfl⟩
    unfold getLatestPayload
    rw [chosen]
    dsimp only
    rw [empty, columnText, stored]
    dsimp only
    rw [restored]
    rfl

end Archive

end EveApiCache
