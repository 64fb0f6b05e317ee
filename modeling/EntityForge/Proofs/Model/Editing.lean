import EntityForge.Model.Edit
import EntityForge.Proofs.Model.RoundTrip
import EntityForge.Proofs.Traversal
import Mathlib.Data.List.Induction

/-!
# Columns of edited properties

A property that was read has a column if it has a name.  Edits of an entity keep it so but for one:
a column name is stored as it is given, so that an empty one stays empty.  Every other assignment to
the property fills it again.
-/

namespace EntityForge

open EntityForge.Schema
open EntityForge.Schema.Checked

/-! ## Accepted edits -/

section Accepted

variable {α β : Type}

theorem replaced_eq_ok_iff {record name : Text} {read : Data → Checked α} {value : Data}
    {update : α → β} {edited : β} :
    replaced record name read value update = .ok edited ↔
      ∃ new, read value = .valid new ∧ update new = edited := by
  rw [replaced]
  cases read value with
  | valid new => simp [under]
  | invalid issues => simp [under]

/-- A field that a record does not have leaves it as it is. -/
theorem eq_of_setOther {record name : Text} {computed : List Text} {unchanged edited : α}
    (run : setOther record computed unchanged name = .ok edited) : edited = unchanged := by
  rw [setOther] at run
  split at run
  next =>
    cases run
    rfl
  next => split at run <;> cases run

theorem noParts_ne_ok {kind : Text} {path : List EditStep} {edited : α} :
    noParts kind path ≠ .ok edited := by
  intro run
  unfold noParts at run
  split at run <;> cases run

/-- An item is edited in its place. -/
theorem editItem_eq_ok_iff {edit : α → Except EditFault α} {items edited : List α} {index : Int} :
    editItem edit items index = .ok edited ↔
      ∃ position item changed, position? items.length index = some position ∧
        items[position]? = some item ∧ edit item = .ok changed ∧
        items.set position changed = edited := by
  rw [editItem]
  cases position? items.length index with
  | none => simp
  | some position =>
      cases here : items[position]? with
      | none => simp [here]
      | some item => simp [here, map_eq_ok_iff]

/-- What is left after an item was taken out was there before. -/
theorem mem_of_popItem {items rest : List α} {index : Int} {item : α}
    (run : popItem items index = .ok (item, rest)) {other : α} (member : other ∈ rest) :
    other ∈ items := by
  rw [popItem] at run
  split at run
  next => cases run
  next =>
    split at run
    next result found =>
      cases run
      obtain ⟨position, _, taken⟩ := Option.bind_eq_some_iff.mp found
      obtain ⟨_, _, same⟩ := Option.map_eq_some_iff.mp taken
      cases same
      exact List.mem_of_mem_eraseIdx member
    next => cases run

end Accepted

namespace Property

variable {property edited : Property} {value : Data}

/-- The names of the fields of a property. -/
def keys : List Text :=
  ["property_name", "column_name", "system_type", "is_nullable", "is_primary_key"]

theorem isFilled_refilled (property : Property) : property.refilled.IsFilled := by
  intro named
  rw [refilled] at named ⊢
  split
  next empty =>
    rw [if_pos empty] at named
    exact named
  next filled => exact fun same => filled (Text.isEmpty_iff.mpr same)

/-- A column name is stored as it is given, and an accepted value for another field fills the
column.  Nothing else can be set. -/
theorem set_cases {name : Text} (run : property.set name value = .ok edited) :
    (name = "column_name" ∧ ∃ column, readText value = .valid column ∧
      edited = { property with columnName := column }) ∨
    (name ∈ keys ∧ name ≠ "column_name" ∧ edited.IsFilled) ∨
    (name ∉ keys ∧ edited = property) := by
  unfold set at run
  split at run
  case h_1 field =>
    cases Text.string?_eq_some_iff.mp field
    obtain ⟨name, _, same⟩ := replaced_eq_ok_iff.mp run
    exact .inr (.inl ⟨by decide, by decide, same ▸ isFilled_refilled _⟩)
  case h_2 field =>
    cases Text.string?_eq_some_iff.mp field
    obtain ⟨column, read, same⟩ := replaced_eq_ok_iff.mp run
    exact .inl ⟨rfl, column, read, same.symm⟩
  case h_6 =>
    refine .inr (.inr ⟨fun key => ?_, eq_of_setOther run⟩)
    simp only [keys, List.mem_cons, List.not_mem_nil, or_false] at key
    rcases key with rfl | rfl | rfl | rfl | rfl <;> simp_all
  -- What is left are the fields that name and column do not depend on.
  all_goals
    rename_i field
    cases Text.string?_eq_some_iff.mp field
    obtain ⟨_, _, same⟩ := replaced_eq_ok_iff.mp run
    exact .inr (.inl ⟨by decide, by decide, same ▸ isFilled_refilled property⟩)

/-- Every accepted value for a field but the column fills the column. -/
theorem isFilled_of_set {name : Text} (field : name ∈ keys) (other : name ≠ "column_name")
    (run : property.set name value = .ok edited) : edited.IsFilled := by
  rcases set_cases run with ⟨column, _⟩ | ⟨_, _, filled⟩ | ⟨none, _⟩
  · exact absurd column other
  · exact filled
  · exact absurd field none

/-- An edit of a property stores a column name as it is given, or leaves name and column as they
are, or fills the column. -/
theorem edit_cases {path : List EditStep} (run : property.edit path value = .ok edited) :
    (path = [.field "column_name"] ∧ ∃ column, readText value = .valid column ∧
      edited = { property with columnName := column }) ∨
    (edited.propertyName = property.propertyName ∧ edited.columnName = property.columnName) ∨
    edited.IsFilled := by
  unfold edit at run
  split at run
  next name =>
    rcases set_cases run with ⟨rfl, stored⟩ | ⟨_, _, filled⟩ | ⟨_, same⟩
    · exact .inl ⟨rfl, stored⟩
    · exact .inr (.inr filled)
    · exact .inr (.inl ⟨by rw [same], by rw [same]⟩)
  next =>
    split at run
    next =>
      obtain ⟨type, _, same⟩ := map_eq_ok_iff.mp run
      cases same
      exact .inr (.inl ⟨rfl, rfl⟩)
    all_goals exact absurd run noParts_ne_ok
  next => exact absurd run noParts_ne_ok

theorem edit_column {column : Text} (read : readText value = .valid column) :
    property.edit [.field "column_name"] value =
      .ok { property with columnName := column } :=
  replaced_eq_ok_iff.mpr ⟨column, read, rfl⟩

/-- The one way to lose a column is to give a property with a name an empty one. -/
theorem isFilled_edit_iff {path : List EditStep} (filled : property.IsFilled)
    (run : property.edit path value = .ok edited) :
    edited.IsFilled ↔ ¬(path = [.field "column_name"] ∧ property.propertyName ≠ "" ∧
      readText value = .valid "") := by
  constructor
  · rintro kept ⟨rfl, named, read⟩
    cases run.symm.trans (edit_column read)
    exact kept named rfl
  · intro notEmptied
    rcases edit_cases run with ⟨rfl, column, read, rfl⟩ | ⟨name, column⟩ | kept
    · intro named empty
      exact notEmptied ⟨rfl, named, read.trans (congrArg Checked.valid empty)⟩
    · rw [IsFilled, name, column]
      exact filled
    · exact kept

end Property

/-! ## Edits of an entity -/

/-- An edit of an entity: a field is set at the end of a path, a property is added, or one is taken
out. -/
inductive EntityEdit where
  | set (path : List EditStep) (value : Data)
  | addProperty (data : Data)
  | popProperty (index : Int)

/-- Whether an edit gives a property with a name an empty column name. -/
def EntityEdit.Empties (edit : EntityEdit) (entity : Entity) : Prop :=
  ∃ index value position property,
    edit = .set [.field "properties", .position index, .field "column_name"] value ∧
      position? entity.properties.length index = some position ∧
      entity.properties[position]? = some property ∧ property.propertyName ≠ "" ∧
      readText value = .valid ""

namespace Entity

/-- The entity that an edit leads to. -/
def apply (entity : Entity) : EntityEdit → Except EditFault Entity
  | .set path value => entity.edit path value
  | .addProperty data =>
      match Property.read data with
      | .valid property => .ok (entity.addProperty property)
      | .invalid issues => .error (.invalid "Property" issues)
  | .popProperty index => (entity.popProperty index).map Prod.snd

/-- The entity after an edit.  A refused one changes nothing. -/
def after (entity : Entity) (edit : EntityEdit) : Entity :=
  match entity.apply edit with
  | .ok edited => edited
  | .error _ => entity

/-- The entity after edits one after the other. -/
def afterAll (entity : Entity) (edits : List EntityEdit) : Entity :=
  edits.foldl after entity

/-- Whether all properties with a name have a column. -/
def HasColumns (entity : Entity) : Prop :=
  ∀ property ∈ entity.properties, property.IsFilled

variable {entity edited : Entity} {value : Data}

theorem properties_of_set {name : Text} (run : entity.set name value = .ok edited) :
    edited.properties = entity.properties ∨ edited.HasColumns := by
  unfold set at run
  split at run
  -- The fields beside the properties.
  any_goals
    obtain ⟨_, _, rfl⟩ := replaced_eq_ok_iff.mp run
    exact .inl rfl
  next =>
    obtain ⟨properties, listed, rfl⟩ := replaced_eq_ok_iff.mp run
    obtain ⟨items, _, paired⟩ := readList_eq_valid_iff.mp listed
    refine .inr fun property member => ?_
    obtain ⟨item, read⟩ := exists_of_forall₂ paired.flip member
    exact Property.isFilled_of_read read
  next => exact .inl (by rw [eq_of_setOther run])

/-- An edit of an entity leaves its properties as they are, reads them anew, or edits one of them in
its place. -/
theorem edit_cases {path : List EditStep} (run : entity.edit path value = .ok edited) :
    edited.properties = entity.properties ∨ edited.HasColumns ∨
      ∃ index rest position property changed,
        path = .field "properties" :: .position index :: rest ∧
        position? entity.properties.length index = some position ∧
        entity.properties[position]? = some property ∧
        property.edit rest value = .ok changed ∧
        edited = { entity with properties := entity.properties.set position changed } := by
  unfold edit at run
  split at run
  next name => exact (properties_of_set run).imp_right .inl
  next =>
    split at run
    next => cases run
    next => cases run
    next index rest _ field _ =>
      cases Text.string?_eq_some_iff.mp field
      obtain ⟨_, item, same⟩ := map_eq_ok_iff.mp run
      obtain ⟨position, property, changed, here, found, ran, rfl⟩ := editItem_eq_ok_iff.mp item
      exact .inr (.inr ⟨index, rest, position, property, changed, rfl, here, found, ran, same.symm⟩)
    next =>
      obtain ⟨_, _, same⟩ := map_eq_ok_iff.mp run
      cases same
      exact .inl rfl
    all_goals exact absurd run noParts_ne_ok
  next => exact absurd run noParts_ne_ok

/-- An edit that empties a column is accepted. -/
theorem exists_apply_of_empties {edit : EntityEdit} (empties : edit.Empties entity) :
    ∃ edited, entity.apply edit = .ok edited ∧ ¬edited.HasColumns := by
  obtain ⟨index, value, position, property, rfl, here, found, named, read⟩ := empties
  obtain ⟨inside, _⟩ := List.getElem?_eq_some_iff.mp found
  have item : editItem (Property.edit · [.field "column_name"] value) entity.properties index =
      .ok (entity.properties.set position { property with columnName := "" }) :=
    editItem_eq_ok_iff.mpr ⟨position, property, _, here, found, Property.edit_column read, rfl⟩
  refine ⟨_, map_eq_ok_iff.mpr ⟨_, item, rfl⟩, fun columns => ?_⟩
  exact columns _ (List.mem_set inside _) named rfl

/-- No other accepted edit takes a column away. -/
theorem hasColumns_of_apply {edit : EntityEdit} (columns : entity.HasColumns)
    (keeps : ¬edit.Empties entity) (run : entity.apply edit = .ok edited) :
    edited.HasColumns := by
  cases edit with
  | set path value =>
      rcases edit_cases run with same | read | ⟨index, rest, position, property, changed, rfl, here,
        found, ran, rfl⟩
      · rw [HasColumns, same]
        exact columns
      · exact read
      · have filled := columns property (List.mem_of_getElem? found)
        intro other member
        rcases List.mem_or_eq_of_mem_set member with old | rfl
        · exact columns other old
        · refine (Property.isFilled_edit_iff filled ran).mpr ?_
          rintro ⟨rfl, named, read⟩
          exact keeps ⟨index, value, position, property, rfl, here, found, named, read⟩
  | addProperty data =>
      rw [apply] at run
      split at run
      next property read =>
        cases run
        intro other member
        rcases List.mem_append.mp member with old | new
        · exact columns other old
        · cases List.mem_singleton.mp new
          exact Property.isFilled_of_read read
      next => cases run
  | popProperty index =>
      obtain ⟨⟨taken, _⟩, popped, rfl⟩ := map_eq_ok_iff.mp run
      obtain ⟨⟨item, rest⟩, left, same⟩ := map_eq_ok_iff.mp popped
      cases same
      exact fun other member => columns other (mem_of_popItem left member)

/-- Columns stay through an edit exactly if it empties none. -/
theorem hasColumns_after_iff {edit : EntityEdit} (columns : entity.HasColumns) :
    (entity.after edit).HasColumns ↔ ¬edit.Empties entity := by
  rw [after]
  constructor
  · intro kept empties
    obtain ⟨edited, run, lost⟩ := exists_apply_of_empties empties
    rw [run] at kept
    exact lost kept
  · intro keeps
    cases run : entity.apply edit with
    | error fault => exact columns
    | ok edited => exact hasColumns_of_apply columns keeps run

theorem afterAll_append_singleton (entity : Entity) (edits : List EntityEdit)
    (edit : EntityEdit) : entity.afterAll (edits ++ [edit]) = (entity.afterAll edits).after edit :=
  List.foldl_append ..

/-- Columns stay through a run of edits exactly if none of them empties one. -/
theorem hasColumns_afterAll_iff (columns : entity.HasColumns) (edits : List EntityEdit) :
    (∀ before, before <+: edits → (entity.afterAll before).HasColumns) ↔
      ∀ before edit, before ++ [edit] <+: edits → ¬edit.Empties (entity.afterAll before) := by
  constructor
  · intro all before edit part
    have earlier := all before ((List.prefix_append before [edit]).trans part)
    have later := all (before ++ [edit]) part
    rw [afterAll_append_singleton] at later
    exact (hasColumns_after_iff earlier).mp later
  · intro none before
    induction before using List.reverseRecOn with
    | nil => exact fun _ => columns
    | append_singleton before edit ih =>
        intro part
        have earlier := ih ((List.prefix_append before [edit]).trans part)
        rw [afterAll_append_singleton]
        exact (hasColumns_after_iff earlier).mpr (none before edit part)

/-- An entity whose properties were accepted keeps a column for every property with a name through
any run of edits, refused ones among them, unless an edit gives such a property an empty column
name.  That is stored as it is given.  An accepted value for any other field of the property fills
the column again. -/
theorem hasColumns_of_edits
    (accepted : ∀ property ∈ entity.properties, ∃ data, Property.read data = .valid property)
    (edits : List EntityEdit) :
    ((∀ before, before <+: edits → (entity.afterAll before).HasColumns) ↔
      ∀ before edit, before ++ [edit] <+: edits → ¬edit.Empties (entity.afterAll before)) ∧
    ∀ (property edited : Property) name value, name ∈ Property.keys → name ≠ "column_name" →
      property.set name value = .ok edited → edited.IsFilled := by
  refine ⟨hasColumns_afterAll_iff ?_ edits, ?_⟩
  · intro property member
    obtain ⟨data, read⟩ := accepted property member
    exact Property.isFilled_of_read read
  · intro property edited name value field other run
    exact Property.isFilled_of_set field other run

/-- An order with a key under a name of its own. -/
def filedOrder : Entity where
  entityNamespace := "Shop"
  entityClass := "Order"
  properties := [{ propertyName := "Id", columnName := "order_id", systemType := ⟨"int", none⟩ }]

/-- Gives the key an empty column name. -/
def emptying : EntityEdit :=
  .set [.field "properties", .position 0, .field "column_name"] (.text "")

/-- Tells that the key is never null. -/
def settling : EntityEdit :=
  .set [.field "properties", .position 0, .field "is_nullable"] (.bool false)

/-- The column is lost, and comes back with the next value of another field. -/
theorem hasColumns_of_edits_filedOrder :
    (∀ property ∈ filedOrder.properties, ∃ data, Property.read data = .valid property) ∧
      ¬(∀ before, before <+: [emptying] → (filedOrder.afterAll before).HasColumns) ∧
      (filedOrder.afterAll [emptying, settling]).HasColumns := by
  have accepted :
      ∀ property ∈ filedOrder.properties, ∃ data, Property.read data = .valid property := by
    intro property member
    cases List.mem_singleton.mp member
    refine ⟨.object [("property_name", .text "Id"), ("column_name", .text "order_id"),
      ("system_type", .text "int")], ?_⟩
    rfl
  obtain ⟨kept, fills⟩ := hasColumns_of_edits accepted [emptying]
  refine ⟨accepted, fun columns => ?_, ?_⟩
  · refine kept.mp columns [] emptying (List.prefix_refl _) ?_
    exact ⟨0, .text "", 0, _, rfl, rfl, rfl, by decide, rfl⟩
  · intro property member
    have properties : (filedOrder.afterAll [emptying, settling]).properties =
        [⟨"Id", "Id", ⟨"int", none⟩, some false, false⟩] := rfl
    rw [properties] at member
    cases List.mem_singleton.mp member
    intro named
    exact named

end Entity

end EntityForge
