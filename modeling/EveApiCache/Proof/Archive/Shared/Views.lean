import EveApiCache.Proof.Archive.Shared.Frame

/-!
This file shows how the views of concurrent transactions grow together.
-/

namespace EveApiCache
open Effects

/-- A later database has the rows of an earlier one, and only the columns that an upsert sets differ. -/
structure Extends (before after : Database) : Prop extends Kept before after where
  objectFiles : ∀ row ∈ before.objectFiles, row ∈ after.objectFiles
  versions : ∀ key old, before.versions key = some old → ∃ last, after.versions key = some last ∧
    last.payload = old.payload ∧ last.firstSeenAt = old.firstSeenAt
  entries : ∀ key row, before.entries key = some row → after.entries key = some row
  names : ∀ key old, before.names key = some old → ∃ last, after.names key = some last ∧
    last.firstSeenAt = old.firstSeenAt

theorem Extends.refl (database : Database) : Extends database database where
  toKept := .refl database
  objectFiles _ member := member
  versions _ old stored := ⟨old, stored, rfl, rfl⟩
  entries _ _ stored := stored
  names _ old stored := ⟨old, stored, rfl⟩

theorem Extends.trans {first second third : Database} (one : Extends first second)
    (two : Extends second third) : Extends first third where
  toKept := one.toKept.trans two.toKept
  objectFiles row member := two.objectFiles row (one.objectFiles row member)
  versions key old stored := by
    obtain ⟨middle, found, payload, seen⟩ := one.versions key old stored
    obtain ⟨last, reached, content, first⟩ := two.versions key middle found
    exact ⟨last, reached, content.trans payload, first.trans seen⟩
  entries key row stored := two.entries key row (one.entries key row stored)
  names key old stored := by
    obtain ⟨middle, found, seen⟩ := one.names key old stored
    obtain ⟨last, reached, first⟩ := two.names key middle found
    exact ⟨last, reached, first.trans seen⟩

variable (libraries : Libraries)

/-- Every statement extends the view of its transaction. -/
theorem execute_extends (statement : Statement) (session : Session)
    (result : statement.Reply × Session)
    (moved : execute libraries statement session = some result) :
    Extends session.database result.2.database := by
  have grown := execute_grown libraries statement session result moved
  have framed := execute_framed libraries statement session result moved
  have same : Extends session.database result.2.database ∨
      (∃ rows, statement = .upsertVersions rows) ∨ ∃ rows, statement = .upsertNames rows := by
    by_cases versions : ∃ rows, statement = .upsertVersions rows
    · exact .inr (.inl versions)
    by_cases names : ∃ rows, statement = .upsertNames rows
    · exact .inr (.inr names)
    refine .inl ⟨grown.toKept, fun row member => grown.objectFiles.subset member, fun key old stored => ?_,
      grown.entries, fun key old stored => ?_⟩
    · refine ⟨old, ?_, rfl, rfl⟩
      rw [framed.versions key ?_, stored]
      cases statement <;> simp [Statement.locks] at *
    · refine ⟨old, ?_, rfl⟩
      rw [framed.names key ?_, stored]
      cases statement <;> simp [Statement.locks] at *
  rcases same with extended | ⟨rows, rfl⟩ | ⟨rows, rfl⟩
  · exact extended
  · simp only [execute] at moved
    split_ifs at moved with distinct
    obtain ⟨after, accepted, rfl⟩ := Option.map_eq_some_iff.mp moved
    refine { Extends.refl session.database with
      toKept := grown.toKept
      versions := fun key old stored => ?_ }
    obtain ⟨last, found, payload, first, _⟩ :=
      (versionsUpserted libraries rows _ _ distinct accepted).kept key old stored
    exact ⟨last, found, payload, first⟩
  · simp only [execute] at moved
    split_ifs at moved with distinct
    obtain ⟨after, accepted, rfl⟩ := Option.map_eq_some_iff.mp moved
    refine { Extends.refl session.database with
      toKept := grown.toKept
      names := fun key old stored => ?_ }
    obtain ⟨last, found, first, _⟩ :=
      (namesUpserted libraries rows _ _ distinct accepted).kept key old stored
    exact ⟨last, found, first⟩

end EveApiCache
