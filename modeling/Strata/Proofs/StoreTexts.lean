import Strata.Proofs.Insertion
import Strata.Proofs.Recovery

/-!
# Components and stores come back as they were written

The records of a component nest in a fixed way: lists of layers, in which lists of attributes. No
text of theirs is nested too deep to be read, so a component is read back from its text whatever it
holds, with its layers in the order in which they stand. Only of its points in time it has to be
known that their texts stand for them.

A store holds components whose layers are in order, since it orders them whenever it takes some in.
That is an invariant of all that can be done to a store. Reading orders the layers once more, and
what is in order already stays as it is.
-/

namespace Strata

open Wire (Recovers)

/-- Whether a point in time is read back from its own text. -/
def Instant.IsReadBack (instant : Instant) : Prop :=
  Time.parse (Time.format instant) = .ok instant

instance (instant : Instant) : Decidable instant.IsReadBack :=
  inferInstanceAs (Decidable (Time.parse (Time.format instant) = .ok instant))

theorem Instant.recovers {instant : Instant} (h : instant.IsReadBack) :
    Recovers decode instant.encode instant := by
  refine .of_depth_eq_zero rfl rfl ?_
  rw [encode, Source.ofJson, decode, h]

/-! ## Attributes, layers and components -/

theorem LayerAttribute.recovers (a : LayerAttribute) : Recovers decode a.encode a := by
  have htakes : layout.Takes layout.draft
      [("name", .str a.name), ("value", .str a.value), ("attributeType", Wire.Tag.encode a.type),
        ("changed", .bool a.changed), ("contentHash", .str a.hash)]
      ⟨some a.name, some a.value, some a.type, a.changed, some a.hash⟩ :=
    .cons ((Recovers.str a.name).bind_pure _) <|
    .cons ((Recovers.str a.value).bind_pure _) <|
    .cons ((Recovers.tag a.type).bind_pure _) <|
    .cons ((Recovers.bool a.changed).bind_pure _) <|
    .cons ((Recovers.str a.hash).bind_pure _) <|
    .nil _
  exact .record htakes rfl (by decide) rfl

theorem Layer.recovers {layer : Layer} (h : ∀ instant ∈ layer.createdOn, instant.IsReadBack) :
    Recovers decode layer.encode layer := by
  have hpublisher := Recovers.optionalTexts layer.publisher
  have hversion := Recovers.optionalTexts layer.version
  have hcreated : Recovers (Wire.optional Instant.decode) (.option Instant.encode layer.createdOn)
      layer.createdOn :=
    .option (fun _ => by simp [Instant.encode]) fun instant hinstant =>
      Instant.recovers (h instant hinstant)
  have hattributes : Recovers (Wire.list LayerAttribute.decode)
      (.list LayerAttribute.encode layer.attributes) layer.attributes :=
    .list fun a _ => a.recovers
  have htakes : layout.Takes layout.draft
      [("solutionName", .str layer.solution), ("ordinal", Ordinal.encode layer.ordinal),
        ("managed", .bool layer.managed), ("publisher", .option .str layer.publisher),
        ("version", .option .str layer.version),
        ("createdOn", .option Instant.encode layer.createdOn),
        ("attributes", .list LayerAttribute.encode layer.attributes)]
      ⟨some layer.solution, some layer.ordinal, layer.managed, layer.publisher, layer.version,
        layer.createdOn, layer.attributes⟩ :=
    .cons ((Recovers.str layer.solution).bind_pure _) <|
    .cons ((Recovers.ordinal layer.ordinal).bind_pure _) <|
    .cons ((Recovers.bool layer.managed).bind_pure _) <|
    .cons (hpublisher.bind_pure _) <|
    .cons (hversion.bind_pure _) <|
    .cons (hcreated.bind_pure _) <|
    .cons (hattributes.bind_pure _) <|
    .nil _
  exact .record htakes rfl (by decide) rfl

namespace Component

/-- Whether the points in time of a component are read back from their texts. -/
def IsDated (component : Component) : Prop :=
  ∀ layer ∈ component.layers, ∀ instant ∈ layer.createdOn, instant.IsReadBack

theorem recovers {component : Component} (h : component.IsDated) :
    Recovers decode component.encode component := by
  have hdisplay := Recovers.optionalTexts component.displayName
  have htable := Recovers.optionalTexts component.tableName
  have hlayers : Recovers (Wire.list Layer.decode) (.list Layer.encode component.layers)
      component.layers :=
    .list fun layer hlayer => Layer.recovers (h layer hlayer)
  have htakes : layout.Takes layout.draft
      [("logicalName", .str component.logicalName),
        ("displayName", .option .str component.displayName),
        ("componentType", .str component.componentType),
        ("tableLogicalName", .option .str component.tableName),
        ("layers", .list Layer.encode component.layers)]
      ⟨some component.logicalName, component.displayName, some component.componentType,
        component.tableName, component.layers⟩ :=
    .cons ((Recovers.str component.logicalName).bind_pure _) <|
    .cons (hdisplay.bind_pure _) <|
    .cons ((Recovers.str component.componentType).bind_pure _) <|
    .cons (htable.bind_pure _) <|
    .cons (hlayers.bind_pure _) <|
    .nil _
  exact .record htakes rfl (by decide) rfl

end Component

/-! ## How deep their texts are nested -/

theorem LayerAttribute.depth_encode (a : LayerAttribute) : a.encode.depth = 1 := rfl

theorem Layer.depth_encode_le (layer : Layer) : layer.encode.depth ≤ 3 := by
  have htexts : ∀ found, (Json.option Json.str found).depth = 0 := Json.depth_option fun _ => rfl
  have hcreated : (Json.option Instant.encode layer.createdOn).depth = 0 :=
    Json.depth_option (fun _ => rfl) layer.createdOn
  have hattributes := Json.depth_list_le (fun a => Nat.le_of_eq (LayerAttribute.depth_encode a))
    layer.attributes
  simp only [encode, Json.depth, Json.depthMembers, Ordinal.encode, Json.int, htexts, hcreated]
  omega

theorem Component.depth_encode_le (component : Component) : component.encode.depth ≤ 5 := by
  have htexts : ∀ found, (Json.option Json.str found).depth = 0 := Json.depth_option fun _ => rfl
  have hlayers := Json.depth_list_le Layer.depth_encode_le component.layers
  simp only [encode, Json.depth, Json.depthMembers, htexts]
  omega

/-! ## Stores -/

theorem Component.normalize_normalize (component : Component) :
    component.normalize.normalize = component.normalize :=
  normalize_eq_self (Layer.isStableSort_sort component.layers)

namespace Store

/-- The stores that can be come by: made of components, read from a text, or with components
added. -/
inductive IsReached : Store → Prop where
  | ofList (components : List Component) : IsReached (.ofList components)
  | ofText {text : String} {store : Store} (h : ofText text = .ok store) : IsReached store
  | push {store : Store} (h : IsReached store) (component : Component) :
      IsReached (store.push component)

/-- Whether the layers of all components are in order. -/
def IsOrdered (store : Store) : Prop :=
  ∀ component ∈ store.components, component.normalize = component

theorem isOrdered_ofList (components : List Component) : (ofList components).IsOrdered := by
  intro component hcomponent
  obtain ⟨given, -, rfl⟩ := List.mem_map.1 hcomponent
  exact given.normalize_normalize

theorem isOrdered_of_ofText {text : String} {store : Store} (h : ofText text = .ok store) :
    store.IsOrdered := by
  obtain ⟨components, -, rfl⟩ := Wire.map_eq_ok_iff.1 h
  exact isOrdered_ofList components

theorem IsOrdered.push {store : Store} (h : store.IsOrdered) (component : Component) :
    (store.push component).IsOrdered := by
  intro other hother
  rcases List.mem_append.1 hother with hother | hother
  · exact h other hother
  · rw [List.mem_singleton.1 hother]
    exact component.normalize_normalize

theorem IsReached.isOrdered {store : Store} (h : store.IsReached) : store.IsOrdered := by
  induction h with
  | ofList components => exact isOrdered_ofList components
  | ofText h => exact isOrdered_of_ofText h
  | push _ component ih => exact ih.push component

theorem IsOrdered.ofList_components {store : Store} (h : store.IsOrdered) :
    ofList store.components = store :=
  congrArg mk ((List.map_congr_left h).trans (List.map_id store.components))

/-- The text of a store: the list of its components. -/
def wire (store : Store) : String := (Json.list Component.encode store.components).render

theorem decodeText_wire {store : Store}
    (h : ∀ component ∈ store.components, component.IsDated) :
    Wire.decodeText (Wire.list Component.decode) store.wire = .ok store.components := by
  have hlist : Recovers (Wire.list Component.decode) (.list Component.encode store.components)
      store.components :=
    .list fun component hcomponent => Component.recovers (h component hcomponent)
  have hdepth := Json.depth_list_le Component.depth_encode_le store.components
  exact hlist.decodeText_render_of_le (Nat.le_trans hdepth (by decide))

/-- A component is read back from its text, and a store from the list of its components, if the
points in time in them are. -/
theorem components_read_back :
    (∀ component : Component, component.IsDated →
      Wire.decodeText Component.decode component.encode.render = .ok component) ∧
    ∀ store : Store, store.IsReached → (∀ component ∈ store.components, component.IsDated) →
      ofText store.wire = .ok store := by
  constructor
  · intro component hdated
    have hdepth := component.depth_encode_le
    exact (Component.recovers hdated).decodeText_render_of_le (Nat.le_trans hdepth (by decide))
  · intro store hreached hdated
    rw [ofText, decodeText_wire hdated]
    exact congrArg Except.ok hreached.isOrdered.ofList_components

/-- A component with its layers out of order, at the limits of ordinals and in a leap second, and a
store that was read from a text and has the component added. -/
theorem components_read_back_at_limits :
    let leap : Instant := ⟨Instant.dayNumber 2024 2 29, 86399, 1000000001⟩
    let top : Layer := { solution := "Top \x22\\\n\x22", ordinal := Int64.maxValue }
    let base : Layer := { solution := "Σ", ordinal := Int64.minValue, createdOn := some leap }
    let form : Component :=
      { logicalName := "account", componentType := "Form", layers := [top, base] }
    let entity : Component :=
      { logicalName := "contact", componentType := "Entity", tableName := some ""
        layers := [{ solution := "A", ordinal := 1 }, { solution := "B", ordinal := 3 }] }
    let loaded : Store := ⟨[entity]⟩
    let text :=
      "[[\x22contact\x22,null,\x22Entity\x22,\x22\x22,[[\x22B\x22,3],[\x22A\x22,1]]]]"
    ofText text = .ok loaded ∧
    (loaded.push form).IsReached ∧
    Wire.decodeText Component.decode form.encode.render = .ok form ∧
    ofText (loaded.push form).wire = .ok (loaded.push form) := by
  intro leap top base form entity loaded text
  have hloaded : ofText text = .ok loaded := by decide +kernel
  have hleap : leap.IsReadBack := by decide +kernel
  have hform : form.IsDated := by
    intro layer hlayer instant hinstant
    simp only [form, List.mem_cons, List.not_mem_nil, or_false] at hlayer
    rcases hlayer with rfl | rfl <;> cases hinstant
    exact hleap
  have hreached : (loaded.push form).IsReached := (IsReached.ofText hloaded).push form
  have hdated : ∀ component ∈ (loaded.push form).components, component.IsDated := by
    intro component hcomponent layer hlayer
    rcases List.mem_cons.1 hcomponent with rfl | hcomponent
    · simp only [entity, List.mem_cons, List.not_mem_nil, or_false] at hlayer
      rcases hlayer with rfl | rfl <;> intro instant hinstant <;> cases hinstant
    · rw [List.mem_singleton.1 hcomponent] at hlayer
      exact hform layer (Layer.mem_sort.1 hlayer)
  exact ⟨hloaded, hreached, components_read_back.1 form hform,
    components_read_back.2 _ hreached hdated⟩

end Store

end Strata
