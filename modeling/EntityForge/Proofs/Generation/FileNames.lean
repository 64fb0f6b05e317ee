import EntityForge.Proofs.Files.Delivery
import EntityForge.Proofs.Generation.Verdict

/-!
# Names of generated files

A generated file is named after its class, which is a legal identifier, with the file extension at
the end.  So the extension alone decides if the name is that of an entry of a directory: of an
extension only the dot at its beginning is known.
-/

namespace EntityForge

/-! ## Entries of a directory -/

namespace Files

/-- Whether a text is the name of an entry of a directory: it is a single part of a path, and
neither the directory itself nor the one above it. -/
structure IsEntryName (name : Text) : Prop where
  noSlash : .scalar '/' ∉ name.toList
  noNull : .scalar '\x00' ∉ name.toList
  isPart : isPart name = true
  notAbove : name ≠ ".."

/-- Whether files are written to entries of a directory, each to one of its own. -/
structure LandIn (target : Path) (files : List (Text × Text)) : Prop where
  child : ∀ file ∈ files, Files.target target file = target.child file.1
  place : ∀ directory, ∀ file ∈ files,
    (Files.target target file).place directory = target.place directory ++ [file.1]
  distinct : ∀ directory,
    (files.map fun file => (Files.target target file).place directory).Nodup

variable {name : Text} {files : List (Text × Text)}

theorem IsEntryName.ofText (entry : IsEntryName name) : Path.ofText name = ⟨"", [name]⟩ :=
  Path.ofText_eq_singleton entry.noSlash entry.isPart

/-- Different entries of a directory are different files in it. -/
theorem LandIn.of_isEntryName (target : Path) (entries : ∀ file ∈ files, IsEntryName file.1)
    (distinct : (files.map Prod.fst).Nodup) : LandIn target files := by
  have child (file) (member : file ∈ files) : Files.target target file = target.child file.1 := by
    rw [Files.target, (entries file member).ofText]
    rfl
  have place (directory) (file) (member : file ∈ files) :
      (Files.target target file).place directory = target.place directory ++ [file.1] := by
    rw [child file member, Path.place_child (entries file member).notAbove]
  refine ⟨child, place, fun directory => ?_⟩
  rw [List.map_congr_left (place directory)]
  have injective : Function.Injective fun name : Text => target.place directory ++ [name] := by
    intro left right same
    simpa using same
  have mapped := distinct.map injective
  rw [List.map_map] at mapped
  exact mapped

end Files

/-! ## The name of a file -/

namespace Entity

variable {entity : Entity} {options : GeneratorOptions}

/-- What no identifier holds is in a file name only if it is in the extension. -/
theorem mem_fileName_iff (entity : Entity) {character : Point}
    (foreign : Text.isIdentifierPart character = false) :
    character ∈ (entity.fileName options).toList ↔ character ∈ options.fileExtension.toList := by
  rw [fileName, Text.toList_append, List.mem_append, className,
    Identifier.toList_withoutVerbatim_safeName]
  refine or_iff_right ?_
  intro inBare
  cases foreign.symm.trans (Identifier.isIdentifierPart_of_mem_bareName inBare)


/-- A file name begins like the name of its class, which has no dots. -/
theorem toList_fileName_ne (entity : Entity) (options : GeneratorOptions) (count : Nat) :
    (entity.fileName options).toList ≠ List.replicate count (.scalar '.') := by
  intro same
  rw [fileName, Text.toList_append, className,
    Identifier.toList_withoutVerbatim_safeName] at same
  obtain ⟨character, inBare⟩ :=
    List.exists_mem_of_ne_nil _ (Identifier.bareName_ne_nil entity.entityClass)
  have isDot : character = '.' := by
    apply List.eq_of_mem_replicate (n := count)
    rw [← same]
    exact List.mem_append_left _ inBare
  subst isDot
  exact absurd (Identifier.isIdentifierPart_of_mem_bareName inBare) (by decide)

/-- No file name stands for a directory that is there anyway. -/
theorem isPart_fileName (entity : Entity) (options : GeneratorOptions) :
    Files.isPart (entity.fileName options) = true ∧ entity.fileName options ≠ ".." := by
  have dots (count : Nat) :
      entity.fileName options ≠ Text.ofList (List.replicate count (.scalar '.')) := by
    intro same
    apply entity.toList_fileName_ne options count
    rw [same, Text.toList_ofList]
  rw [Files.isPart, Bool.and_eq_true, bne_iff_ne, bne_iff_ne]
  exact ⟨⟨dots 0, dots 1⟩, dots 2⟩

theorem isEntryName_fileName_iff (entity : Entity) :
    Files.IsEntryName (entity.fileName options) ↔
      .scalar '/' ∉ options.fileExtension.toList ∧
        .scalar '\x00' ∉ options.fileExtension.toList := by
  rw [← entity.mem_fileName_iff (by decide), ← entity.mem_fileName_iff (by decide)]
  obtain ⟨isPart, notAbove⟩ := entity.isPart_fileName options
  exact ⟨fun entry => ⟨entry.noSlash, entry.noNull⟩,
    fun name => ⟨name.1, name.2, isPart, notAbove⟩⟩

end Entity

namespace Generator

/-- What a run names its files: no name stands for the directory or the one above it, and slashes
and null characters are those of the extension.  So the files go into the directory itself, each to
an entry of its own, whenever the extension is without them. -/
theorem fileNames_of_generate {generator : Generator} {model : EntityModel}
    {options : GeneratorOptions} {directory : Option Files.Path} {workspace after : Workspace}
    {report : GenerationReport}
    (run : generator.generate model options directory workspace = .ok report after) :
    (∀ file ∈ report.files,
      Files.isPart file.1 = true ∧ file.1 ≠ ".." ∧
        (.scalar '/' ∈ file.1.toList ↔ .scalar '/' ∈ options.fileExtension.toList) ∧
        (.scalar '\x00' ∈ file.1.toList ↔ .scalar '\x00' ∈ options.fileExtension.toList)) ∧
    ((∀ file ∈ report.files, Files.IsEntryName file.1) ↔
      report.files = [] ∨
        .scalar '/' ∉ options.fileExtension.toList ∧
          .scalar '\x00' ∉ options.fileExtension.toList) ∧
    ((∀ file ∈ report.files, Files.IsEntryName file.1) →
      ∀ target, Files.LandIn target report.files) := by
  have named : (report.files.map Prod.fst).Nodup ∧ ∀ file ∈ report.files,
      ∃ entity : Entity, entity.fileName options = file.1 := by
    rcases files_of_generate run with ⟨_, none⟩ | ⟨_, accounts, _⟩
    · rw [none]
      exact ⟨List.nodup_nil, List.forall_mem_nil _⟩
    · refine ⟨accounts.names, fun (name, code) member => ?_⟩
      obtain ⟨entity, owns, _⟩ := (accounts.owner name code).mp member
      exact ⟨entity, (owner?_eq_some owns).2.2⟩
  obtain ⟨distinct, named⟩ := named
  refine ⟨?_, ?_, fun entries target => .of_isEntryName target entries distinct⟩
  · intro file member
    obtain ⟨entity, name⟩ := named file member
    rw [← name]
    exact ⟨(entity.isPart_fileName options).1, (entity.isPart_fileName options).2,
      entity.mem_fileName_iff (by decide), entity.mem_fileName_iff (by decide)⟩
  · have same (file) (member : file ∈ report.files) : Files.IsEntryName file.1 ↔
        .scalar '/' ∉ options.fileExtension.toList ∧
          .scalar '\x00' ∉ options.fileExtension.toList := by
      obtain ⟨entity, name⟩ := named file member
      rw [← name]
      exact entity.isEntryName_fileName_iff
    constructor
    · intro entries
      rw [or_iff_not_imp_left]
      intro nonempty
      obtain ⟨file, member⟩ := List.exists_mem_of_ne_nil _ nonempty
      exact (same file member).mp (entries file member)
    · rintro (none | plain) file member
      · rw [none] at member
        cases member
      · exact (same file member).mpr plain

/-- The extension has its dot, and the name of the file is a path of two parts. -/
theorem fileNames_of_generate_slashedExtension :
    ∃ report after,
      ({} : Generator).generate singleOrder { fileExtension := "./Entity.cs" } none
        { tree := {} } = .ok report after ∧
      report.files.map Prod.fst = (["Order./Entity.cs"] : List Text) ∧
      ¬∀ file ∈ report.files, Files.IsEntryName file.1 := by
  obtain ⟨report, after, run⟩ :=
    exists_generate_of_none {}
      (singleOrder.encodingFault?_of_undocumented { fileExtension := "./Entity.cs" } rfl)
      { tree := {} }
  have valid : (Entity.orderKeyedOn "id").IsValid := by
    unfold Entity.IsValid
    decide
  obtain ⟨code, written⟩ := Entity.exists_synthesize_of_isQualifiedName
    { fileExtension := "./Entity.cs" } valid (by decide)
  have name : (Entity.orderKeyedOn "id").fileName { fileExtension := "./Entity.cs" } =
      "Order./Entity.cs" := by decide
  have files : report.files = ([("Order./Entity.cs", code)] : List (Text × Text)) := by
    rcases files_of_generate run with ⟨stopped, _⟩ | ⟨_, _, files⟩
    · cases stopped
    · rw [files]
      simp [EntityModel.results, singleOrder, entityResults, Entity.outcome, written, name,
        generatedFiles, EntityResult.file?]
  refine ⟨report, after, run, by rw [files]; rfl, ?_⟩
  rw [(fileNames_of_generate run).2.1, files]
  rintro (none | ⟨noSlash, _⟩)
  · cases none
  · exact noSlash (by decide)

end Generator

end EntityForge
