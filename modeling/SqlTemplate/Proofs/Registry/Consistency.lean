import SqlTemplate.Proofs.Registry.Fetching
import SqlTemplate.Proofs.Registry.Resumption

/-! Statements, origins and files of a registry fit together after any calls, however the calls end
and whatever becomes of the files on disk, and nothing of them changes until all is forgotten. -/

namespace SqlTemplate.Registry

/-- The path of the file that the statement of a name is from, or the mark of a direct addition. -/
def origin? (registry : Registry) (name : String) : Option String :=
  registry.origins.lookup name

/-- The last part of a dotted name. -/
def lastPart (name : String) : String :=
  String.ofList ((Text.pieces '.' name.toList).getLastD [])

/-- Statements, origins and files fit together. -/
structure Consistent (registry : Registry) : Prop where
  /-- The names with a statement are the names with an origin. -/
  names : ∀ name, name ∈ registry.keys ↔ name ∈ registry.origins.map Prod.fst
  /-- Every origin is the mark of a direct addition or the path of a recorded file. -/
  origins : ∀ name origin, registry.origin? name = some origin →
    origin = addedDirectly ∨ ∃ file, registry.file? origin = some file ∧ file.path = origin
  /-- A statement that was not added has the template that the text of its file, as it was recorded,
  gives for the last part of its name. -/
  templates : ∀ name origin, registry.origin? name = some origin → origin ≠ addedDirectly →
    ∃ file given sql, registry.file? origin = some file ∧
      Statement.templates file.content = .ok given ∧ given.lookup (lastPart name) = some sql ∧
      registry.sql? name = some sql

/-- Whatever one registry finds, another one finds unchanged. -/
structure Retains (after before : Registry) : Prop where
  /-- A name keeps its template. -/
  sql : ∀ name sql, before.sql? name = some sql → after.sql? name = some sql
  /-- A name keeps its origin. -/
  origin : ∀ name origin, before.origin? name = some origin → after.origin? name = some origin
  /-- A path keeps its file, and so the text and the digest of the file. -/
  file : ∀ path file, before.file? path = some file → after.file? path = some file

/-- The last part of a name in a scope is the name, if that has no dots. -/
theorem lastPart_scopedName {scope : List String} {name : String}
    (identifier : Statement.isIdentifier name.toList = true) :
    lastPart (scopedName scope name) = name := by
  have single := Text.pieces_of_not_mem (Statement.undotted_of_isIdentifier identifier)
  rw [lastPart, scopedName]
  split
  · rw [single]
    simp
  · -- The scope and its dot come before the last piece, which is the name.
    have whole : (".".intercalate scope ++ "." ++ name).toList =
        (".".intercalate scope).toList ++ '.' :: name.toList := by simp
    rw [whole, Text.pieces_append, single]
    simp

section Tracing

variable {registry : Registry}

/-- Every origin leads back to where its statement comes from. -/
structure Traceable (registry : Registry) : Prop where
  /-- A name is registered with its origin. -/
  names : registry.origins.map Prod.fst = registry.keys
  /-- A name with an origin has a statement, which comes from there. -/
  sourced : ∀ name origin, registry.origin? name = some origin →
    ∃ statement, registry.statements.lookup name = some statement ∧
      registry.Sourced name statement origin

/-- A statement comes from the same place when all files are still found. -/
theorem Sourced.of_files {after : Registry} {name origin : String} {statement : Statement}
    (files : registry.files <+: after.files) (sourced : registry.Sourced name statement origin) :
    after.Sourced name statement origin := by
  -- Only a statement of a file depends on what is recorded.
  cases sourced with
  | added name sql => exact .added name sql
  | read scope recorded parsed listed =>
    exact .read scope (lookup_of_isPrefix files recorded) parsed listed

/-- Recording a file keeps all statements where they come from. -/
theorem Traceable.record {file : SourceFile} (traceable : registry.Traceable) :
    (registry.record file).Traceable := by
  -- The names are what they were, and the files that were found are still found.
  refine ⟨traceable.names, fun name origin found => ?_⟩
  obtain ⟨statement, listed, sourced⟩ := traceable.sourced name origin found
  exact ⟨statement, listed, sourced.of_files (List.prefix_append ..)⟩

/-- Registering a new name with the origin of its statement keeps the other statements where they
come from. -/
theorem Traceable.register {name origin : String} {statement : Statement}
    (traceable : registry.Traceable) (sourced : registry.Sourced name statement origin)
    (new : name ∉ registry.keys) : (registry.register name statement origin).Traceable := by
  have names : (registry.register name statement origin).origins.map Prod.fst =
      (registry.register name statement origin).keys := by
    rw [keys_register, Registry.register, List.map_append, traceable.names]
    rfl
  have files : registry.files <+: (registry.register name statement origin).files :=
    List.prefix_rfl
  refine ⟨names, fun other from_ found => ?_⟩
  rw [origin?, Registry.register, List.lookup_append] at found
  cases earlier : registry.origins.lookup other with
  | some known =>
    -- The other name was there before, so it is found where it was.
    rw [earlier] at found
    obtain rfl : known = from_ := Option.some.inj found
    obtain ⟨given, listed, also⟩ := traceable.sourced other known earlier
    exact ⟨given, lookup_of_isPrefix (List.prefix_append ..) listed, also.of_files files⟩
  | none =>
    -- Otherwise it is the name that has been registered.
    rw [earlier, Option.none_or, List.lookup_cons] at found
    have absent : registry.statements.lookup name = none := lookup_eq_none_iff.mpr new
    cases same : other == name with
    | false =>
      rw [same] at found
      contradiction
    | true =>
      rw [same] at found
      obtain rfl : other = name := beq_iff_eq.mp same
      obtain rfl : origin = from_ := Option.some.inj found
      -- Its statement is found after all others, as none of them has the name.
      refine ⟨statement, ?_, sourced.of_files files⟩
      simp [Registry.register, List.lookup_append, absent]

/-- After any calls every origin leads back to where its statement comes from. -/
theorem traceable_performAll (encoding : Encoding) (calls : List Call) :
    ((empty encoding).performAll calls).Traceable := by
  -- An empty registry has no origins to trace.
  refine performAll_preserves encoding calls (fun _ => ⟨rfl, fun _ _ found => ?_⟩) ?_ ?_
  · contradiction
  · exact fun between file _ traceable => traceable.record
  · exact fun between name statement origin _ sourced new traceable =>
      traceable.register sourced new

/-- What can be traced back fits together. -/
theorem Traceable.consistent (traceable : registry.Traceable) : registry.Consistent := by
  refine ⟨fun name => by rw [traceable.names], fun name origin found => ?_,
    fun name origin found other => ?_⟩
  · -- A name has been added directly, or its file has been recorded.
    obtain ⟨statement, -, sourced⟩ := traceable.sourced name origin found
    cases sourced with
    | added => exact Or.inl rfl
    | read scope recorded parsed listed => exact Or.inr ⟨_, recorded, rfl⟩
  · obtain ⟨statement, own, sourced⟩ := traceable.sourced name origin found
    cases sourced with
    | added => contradiction
    | @read file statements _ scope recorded parsed listed =>
      -- The text of the file gives its statements once more, each under a name of its own.
      have canonical := Statement.canonical_of_parse
        (Statement.outcome_parseFile_eq_ok_iff.mp parsed)
      have member : (statement.name, statement.sql) ∈ statements.map Statement.named :=
        List.mem_map_of_mem listed
      have given := (Statement.templates_eq_ok_iff file.path).mpr ⟨statements, parsed, rfl⟩
      refine ⟨file, _, statement.sql, recorded, given, ?_, by rw [sql?, own]; rfl⟩
      rw [lastPart_scopedName (canonical.each _ member).identifier]
      exact lookup_of_mem canonical.distinct member

end Tracing

section Retaining

variable {registry : Registry}

/-- A call that forgets nothing keeps what was there. -/
theorem extends_perform {call : Call} (remembers : call ≠ .clear) :
    (registry.perform call).Extends registry := by
  -- A load and an addition add at the end, if they add anything.
  cases call with
  | load tree spellings => exact extends_load tree spellings registry
  | add name sql =>
    by_cases new : name ∉ registry.keys
    · rw [perform_add_of_new new]
      exact extends_register ..
    · rw [perform_add_of_taken (not_not.mp new)]
      exact .refl registry
  | clear => contradiction

/-- What a registry has first, it finds. -/
theorem Extends.retains {after before : Registry} (kept : after.Extends before) :
    after.Retains before := by
  -- What comes first is found first, so nothing that is added can stand in its way.
  refine ⟨fun name sql found => ?_, fun name origin => lookup_of_isPrefix kept.origins,
    fun path file => lookup_of_isPrefix kept.files⟩
  obtain ⟨statement, listed, rfl⟩ := Option.map_eq_some_iff.mp found
  exact Option.map_eq_some_iff.mpr ⟨statement, lookup_of_isPrefix kept.statements listed, rfl⟩

/-- Calls that forget nothing keep what was there. -/
theorem extends_performAll {calls : List Call} (remember : ∀ call ∈ calls, call ≠ .clear) :
    (registry.performAll calls).Extends registry := by
  -- What the first call keeps is kept by the others, whatever the first one has added.
  induction calls generalizing registry with
  | nil => exact .refl registry
  | cons call rest ih =>
    obtain ⟨first, others⟩ := List.forall_mem_cons.mp remember
    exact (ih others).trans (extends_perform first)

end Retaining

/-- After any calls, be they loads that fail half way or of files that have been rewritten since,
statements, origins and files of a registry fit together, and whatever calls follow, all of them
are retained until everything is forgotten. -/
theorem performAll_consistent (encoding : Encoding) (calls : List Call) :
    let registry := (empty encoding).performAll calls
    registry.Consistent ∧
      ∀ later, (∀ call ∈ later, call ≠ .clear) → (registry.performAll later).Retains registry :=
  ⟨(traceable_performAll encoding calls).consistent,
    fun _ remember => (extends_performAll remember).retains⟩

/-- The file tree with one source, after the source has been rewritten. -/
def rewrittenSource : FileTree :=
  oneSource.write ["a.sql"] (some [45, 45, 110, 97, 109, 101, 58, 98, 10, 89])

/-- A template that a failed load has left stays, though its file is rewritten and loaded once more
and its name is given to another template. -/
theorem template_outlasts_its_file :
    let registry := (empty .utf8).performAll [.load oneSource ["a.sql", "b"]]
    let later := [Call.load rewrittenSource ["a.sql"], .add "a" ['Z']]
    registry.sql? "a" = some ['X'] ∧ registry.origin? "a" = some "a.sql" ∧
      (∀ call ∈ later, call ≠ .clear) ∧
      (registry.performAll later).sql? "a" = some ['X'] ∧
      (registry.performAll later).origin? "a" = some "a.sql" := by
  -- What the failed load has left is known, and the general theorem tells that it is retained.
  intro registry later
  have held : registry = (empty .utf8).holding [oneBatch] := load_oneSource.1
  have own : registry.sql? "a" = some ['X'] := by
    rw [held]
    rfl
  have origin : registry.origin? "a" = some "a.sql" := by
    rw [held]
    rfl
  have remember : ∀ call ∈ later, call ≠ .clear := by simp [later]
  have retains := (performAll_consistent .utf8 [.load oneSource ["a.sql", "b"]]).2 later remember
  exact ⟨own, origin, remember, retains.sql "a" _ own, retains.origin "a" _ origin⟩

end SqlTemplate.Registry
