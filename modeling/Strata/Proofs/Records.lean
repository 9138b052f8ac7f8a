import Mathlib.Data.List.Forall2
import Strata.Filter.Wire

/-!
# Records are read field by field

A record is read from an object by entering its members into a draft, one after the other. Three
things make the order of the members, and what else stands among them, irrelevant: a member that is
no field changes nothing, no field is entered twice, and what two different fields do to a draft
commutes. The last one is a fact about each layout, so it is asked of the entries that a theorem is
about (`Layout.Enters`); for records it holds by computation.

Where it is not known what stands in an object, `Layout.exists_draft` carries an invariant of the
draft through the reading instead.
-/

namespace Strata

/-! ## Written values -/

namespace Source

theorem isWellFormed_ofJson (value : Json) : (ofJson value).isWellFormed = true := by
  cases value with
  | num n =>
      rw [ofJson]
      split <;> rfl
  | _ => rfl

theorem ofItems_eq_map (items : List Json) : ofItems items = items.map ofJson := by
  induction items with
  | nil => rfl
  | cons item items ih => rw [ofItems, ih, List.map_cons]

/-- A member as it stands in a text. -/
def ofMember (member : String × Json) : String × Source := (member.1, ofJson member.2)

theorem ofMembers_eq_map (members : List (String × Json)) :
    ofMembers members = members.map ofMember := by
  induction members with
  | nil => rfl
  | cons member members ih => rw [ofMembers, ih, List.map_cons, ofMember]

theorem ofJson_obj (members : List (String × Json)) :
    ofJson (.obj members) = .obj (members.map ofMember) .closed := by
  rw [ofJson, ofMembers_eq_map]

/-- What stands directly in a container. -/
def parts : Source → List Source
  | .arr items _ => items
  | .obj members _ => members.map Prod.snd
  | _ => []

end Source

namespace Wire

variable {α δ : Type}

theorem bind_eq_ok_iff {ε β : Type} {x : Except ε α} {f : α → Except ε β} {b : β} :
    (x >>= f) = .ok b ↔ ∃ a, x = .ok a ∧ f a = .ok b := by
  cases x with
  | error fault => simp [bind, Except.bind]
  | ok a => simp [bind, Except.bind]

theorem map_eq_ok_iff {β : Type} {x : Decoded α} {f : α → β} {b : β} :
    (f <$> x) = .ok b ↔ ∃ a, x = .ok a ∧ f a = b := by
  cases x with
  | error fault => simp [Functor.map, Except.map]
  | ok a => simp [Functor.map, Except.map]

theorem atEnd_eq_ok_iff {stop : Stop} {result : Decoded α} {a : α} :
    atEnd stop result = .ok a ↔ stop = .closed ∧ result = .ok a := by
  cases stop <;> simp [atEnd]

theorem text_eq_ok_iff {source : Source} {s : String} : text source = .ok s ↔ source = .str s := by
  cases source with
  | str t => simp [text]
  | _ => simp [text, mismatch]

/-! ## Lists -/

theorem each_eq_ok_iff {decode : Source → Decoded α} {items : List Source} {values : List α} :
    each decode items = .ok values
      ↔ List.Forall₂ (fun item value => decode item = .ok value) items values := by
  induction items generalizing values with
  | nil => simp [each, eq_comm]
  | cons item items ih =>
      rw [each, bind_eq_ok_iff, List.forall₂_cons_left_iff]
      constructor
      · rintro ⟨a, ha, h⟩
        rw [bind_eq_ok_iff] at h
        obtain ⟨more, hmore, h⟩ := h
        cases h
        exact ⟨a, more, ha, ih.1 hmore, rfl⟩
      · rintro ⟨a, more, ha, hmore, rfl⟩
        exact ⟨a, ha, bind_eq_ok_iff.2 ⟨more, ih.2 hmore, rfl⟩⟩

theorem list_eq_ok_iff {decode : Source → Decoded α} {source : Source} {values : List α} :
    list decode source = .ok values
      ↔ ∃ items, source = .arr items .closed
          ∧ List.Forall₂ (fun item value => decode item = .ok value) items values := by
  cases source with
  | arr items stop =>
      rw [list, bind_eq_ok_iff]
      constructor
      · rintro ⟨found, hfound, h⟩
        obtain ⟨rfl, h⟩ := atEnd_eq_ok_iff.1 h
        cases h
        exact ⟨items, rfl, each_eq_ok_iff.1 hfound⟩
      · rintro ⟨items, h, hvalues⟩
        cases h
        exact ⟨values, each_eq_ok_iff.2 hvalues, rfl⟩
  | _ => simp [list, mismatch]

theorem list_ofJson {decode : Source → Decoded α} {items : List Json} {values : List α}
    (h : List.Forall₂ (fun item value => decode (.ofJson item) = .ok value) items values) :
    list decode (.ofJson (.arr items)) = .ok values := by
  rw [list_eq_ok_iff, Source.ofJson, Source.ofItems_eq_map]
  exact ⟨_, rfl, List.forall₂_map_left_iff.2 h⟩

theorem list_text_strings (texts : List String) :
    list text (.ofJson (.list .str texts)) = .ok texts :=
  list_ofJson (List.forall₂_map_left_iff.2 (List.forall₂_same.2 fun _ _ => rfl))

/-! ## Tags -/

/-- A tag whose canonical spellings are told apart. -/
class LawfulTag (α : Type) [Tag α] : Prop where
  parse?_canonical : ∀ a : α, Tag.parse? (Tag.canonical a) = some a

instance : LawfulTag ComponentField := ⟨fun a => by cases a <;> decide +kernel⟩

instance : LawfulTag LayerField := ⟨fun a => by cases a <;> decide +kernel⟩

instance : LawfulTag AttributeType := ⟨fun a => by cases a <;> decide +kernel⟩

instance : LawfulTag Operator := ⟨fun a => by cases a <;> decide +kernel⟩

instance : LawfulTag TargetMode := ⟨fun a => by cases a <;> decide +kernel⟩

instance : LawfulTag MatchLogic := ⟨fun a => by cases a <;> decide +kernel⟩

theorem Tag.decode_encode [Tag α] [LawfulTag α] (a : α) :
    Tag.decode (.ofJson (Tag.encode a)) = .ok a := by
  show Tag.parse (Tag.canonical a) = .ok a
  rw [Tag.parse, LawfulTag.parse?_canonical]

/-! ## Members in any order -/

/-- A field as it is met in an object, and what it does to a draft. -/
structure Entry (δ : Type) where
  name : String
  value : Source
  set : δ → δ

/-- The member that an entry is read from. -/
def Entry.member (entry : Entry δ) : String × Source := (entry.name, entry.value)

/-- The draft after some entries. -/
def Entry.setAll (entries : List (Entry δ)) (draft : δ) : δ :=
  entries.foldl (fun draft entry => entry.set draft) draft

namespace Layout

variable (layout : Layout δ α)

/-- Entries that every draft takes in, in any order. -/
structure Enters (entries : List (Entry δ)) : Prop where
  declared : ∀ entry ∈ entries, entry.name ∈ layout.fields
  nodup : (entries.map Entry.name).Nodup
  enter : ∀ entry ∈ entries, ∀ draft,
    layout.enter draft entry.name entry.value = .ok (entry.set draft)
  comm : ∀ a ∈ entries, ∀ b ∈ entries, ∀ draft, b.set (a.set draft) = a.set (b.set draft)

variable {layout}

theorem Enters.perm {entries others : List (Entry δ)} (h : layout.Enters entries)
    (hperm : entries.Perm others) : layout.Enters others where
  declared entry he := h.declared entry (hperm.mem_iff.2 he)
  nodup := (hperm.map Entry.name).nodup_iff.1 h.nodup
  enter entry he := h.enter entry (hperm.mem_iff.2 he)
  comm a ha b hb := h.comm a (hperm.mem_iff.2 ha) b (hperm.mem_iff.2 hb)

theorem Enters.tail {entry : Entry δ} {entries : List (Entry δ)}
    (h : layout.Enters (entry :: entries)) : layout.Enters entries where
  declared e he := h.declared e (List.mem_cons_of_mem entry he)
  nodup := (List.nodup_cons.1 h.nodup).2
  enter e he := h.enter e (List.mem_cons_of_mem entry he)
  comm a ha b hb := h.comm a (List.mem_cons_of_mem entry ha) b (List.mem_cons_of_mem entry hb)

theorem Enters.setAll_perm {entries others : List (Entry δ)} (h : layout.Enters entries)
    (hperm : entries.Perm others) (draft : δ) :
    Entry.setAll entries draft = Entry.setAll others draft :=
  hperm.foldl_eq' (fun a ha b hb draft => h.comm a ha b hb draft) draft

/-- The members of an object are entered in the order in which they stand; what they come to is
what the entries come to, in whatever order these are given. -/
theorem members_of_perm {members : List (String × Source)} {entries : List (Entry δ)}
    {others : List (String × Source)} {seen : List String} (draft : δ)
    (henters : layout.Enters entries)
    (hseen : ∀ entry ∈ entries, entry.name ∉ seen)
    (hothers : ∀ other ∈ others, other.1 ∉ layout.fields ∧ other.2.isWellFormed = true)
    (hperm : members.Perm (entries.map Entry.member ++ others)) :
    layout.members seen draft members = .ok (Entry.setAll entries draft) := by
  induction members generalizing entries others seen draft with
  | nil =>
      have hnil := hperm.nil_eq
      rw [eq_comm, List.append_eq_nil_iff, List.map_eq_nil_iff] at hnil
      rw [hnil.1]
      rfl
  | cons member members ih =>
      obtain ⟨name, value⟩ := member
      have hmem := hperm.mem_iff.1 List.mem_cons_self
      -- The first member is read from an entry, which no later one repeats, or is passed over.
      rcases List.mem_append.1 hmem with hfield | hother
      · obtain ⟨entry, hentry, hmember⟩ := List.mem_map.1 hfield
        obtain ⟨rfl, rfl⟩ := Prod.mk.inj hmember
        obtain ⟨before, after, rfl⟩ := List.append_of_mem hentry
        have hfront : (before ++ entry :: after).Perm (entry :: (before ++ after)) :=
          List.perm_middle
        have henters' := henters.perm hfront
        have hnew : ∀ other ∈ before ++ after, other.name ∉ entry.name :: seen := by
          intro other hmem' hin
          rcases List.mem_cons.1 hin with hname | hin
          · have hnot := (List.nodup_cons.1 henters'.nodup).1
            exact hnot (List.mem_map.2 ⟨other, hmem', hname⟩)
          · exact hseen other (hfront.mem_iff.2 (List.mem_cons_of_mem entry hmem')) hin
        have hrest : members.Perm ((before ++ after).map Entry.member ++ others) :=
          (hperm.trans ((hfront.map Entry.member).append_right others)).cons_inv
        have hstep := henters'.enter entry List.mem_cons_self draft
        have hdeclared := henters'.declared entry List.mem_cons_self
        rw [Layout.members, if_pos (List.contains_iff_mem.2 hdeclared),
          if_neg (mt List.contains_iff_mem.1 (hseen entry hentry)), hstep]
        refine (ih (entry.set draft) henters'.tail hnew hothers hrest).trans ?_
        rw [henters.setAll_perm hfront]
        rfl
      · obtain ⟨hfield, hwell⟩ := hothers _ hother
        obtain ⟨before, after, rfl⟩ := List.append_of_mem hother
        have hrest : members.Perm (entries.map Entry.member ++ (before ++ after)) := by
          refine (hperm.trans ?_).cons_inv
          rw [← List.append_assoc, ← List.append_assoc]
          exact List.perm_middle
        rw [Layout.members, if_neg (mt List.contains_iff_mem.1 hfield), if_pos hwell]
        refine ih draft henters hseen (fun other h => hothers other ?_) hrest
        exact List.mem_append.2 ((List.mem_append.1 h).imp_right (List.mem_cons_of_mem _))

/-- A record is read from an object that holds its fields in any order, and any other members. -/
theorem decode_of_perm {revised own others : List (String × Json)} {entries : List (Entry δ)}
    (access : Access) (henters : layout.Enters entries)
    (hown : own.map Source.ofMember = entries.map Entry.member)
    (hothers : ∀ other ∈ others, other.1 ∉ layout.fields)
    (hperm : revised.Perm (own ++ others)) :
    layout.decode access (.ofJson (.obj revised))
      = layout.buildNamed (Entry.setAll entries layout.draft) := by
  have hsources : (revised.map Source.ofMember).Perm
      (entries.map Entry.member ++ others.map Source.ofMember) := by
    rw [← hown, ← List.map_append]
    exact hperm.map Source.ofMember
  have hpassed : ∀ other ∈ others.map Source.ofMember,
      other.1 ∉ layout.fields ∧ other.2.isWellFormed = true := by
    intro other h
    obtain ⟨member, hmember, rfl⟩ := List.mem_map.1 h
    exact ⟨hothers member hmember, Source.isWellFormed_ofJson member.2⟩
  rw [Source.ofJson_obj, decode, members_of_perm layout.draft henters (by simp) hpassed hsources]
  rfl

/-! ## Drafts of records that were read -/

theorem members_induction {P : δ → Prop} {members : List (String × Source)} {seen : List String}
    {draft next : δ}
    (henter : ∀ draft next name, ∀ value ∈ members.map Prod.snd, P draft →
      layout.enter draft name value = .ok next → P next)
    (hdraft : P draft) (h : layout.members seen draft members = .ok next) : P next := by
  induction members generalizing seen draft with
  | nil =>
      cases h
      exact hdraft
  | cons member members ih =>
      have hrest := fun draft next name value (hvalue : value ∈ members.map Prod.snd) =>
        henter draft next name value (List.mem_cons_of_mem _ hvalue)
      rw [Layout.members] at h
      split at h
      · split at h
        · cases h
        · obtain ⟨entered, hentered, h⟩ := bind_eq_ok_iff.1 h
          exact ih hrest (henter _ _ _ _ List.mem_cons_self hdraft hentered) h
      · split at h
        · exact ih hrest hdraft h
        · cases h

theorem elements_induction {P : δ → Prop} {items : List Source} {names : List String}
    {draft : δ} {result : δ × List Source}
    (henter : ∀ draft next name, ∀ value ∈ items, P draft →
      layout.enter draft name value = .ok next → P next)
    (hdraft : P draft) (h : layout.elements draft names items = .ok result) : P result.1 := by
  induction names generalizing items draft with
  | nil =>
      cases h
      exact hdraft
  | cons name names ih =>
      cases items with
      | nil =>
          cases h
          exact hdraft
      | cons item items =>
          obtain ⟨entered, hentered, h⟩ := bind_eq_ok_iff.1 h
          exact ih (fun draft next name value hvalue =>
              henter draft next name value (List.mem_cons_of_mem _ hvalue))
            (henter _ _ _ _ List.mem_cons_self hdraft hentered) h

theorem build_of_buildNamed {draft : δ} {a : α} (h : layout.buildNamed draft = .ok a) :
    layout.build draft = .ok a := by
  rw [buildNamed] at h
  cases hbuild : layout.build draft <;> rw [hbuild] at h <;> cases h
  rfl

theorem build_of_buildPlaced {draft : δ} {a : α} (h : layout.buildPlaced draft = .ok a) :
    layout.build draft = .ok a := by
  rw [buildPlaced] at h
  cases hbuild : layout.build draft <;> rw [hbuild] at h <;> cases h
  rfl

/-- A record that was read was built from a draft, and of that draft holds whatever holds of the
first one and is kept by the entry of each part of the container. -/
theorem exists_draft {P : δ → Prop} {access : Access} {source : Source} {a : α}
    (hdraft : P layout.draft)
    (henter : ∀ draft next name, ∀ value ∈ source.parts, P draft →
      layout.enter draft name value = .ok next → P next)
    (h : layout.decode access source = .ok a) :
    ∃ draft, P draft ∧ layout.build draft = .ok a := by
  cases source with
  | obj members stop =>
      obtain ⟨draft, hmembers, h⟩ := bind_eq_ok_iff.1 h
      exact ⟨draft, members_induction henter hdraft hmembers,
        build_of_buildNamed (atEnd_eq_ok_iff.1 h).2⟩
  | arr items stop =>
      obtain ⟨⟨draft, left⟩, helements, h⟩ := bind_eq_ok_iff.1 h
      dsimp only at h
      split at h
      · exact ⟨draft, elements_induction henter hdraft helements,
          build_of_buildPlaced (atEnd_eq_ok_iff.1 h).2⟩
      · cases h
  | _ => cases h

theorem exists_build {access : Access} {source : Source} {a : α}
    (h : layout.decode access source = .ok a) : ∃ draft, layout.build draft = .ok a := by
  have hdraft : (fun _ : δ => True) layout.draft := trivial
  obtain ⟨draft, -, hbuild⟩ := exists_draft hdraft (fun _ _ _ _ _ _ _ => trivial) h
  exact ⟨draft, hbuild⟩

end Layout

/-! ## The member that tells the kind

It may stand anywhere. While a text is being read everything beside it has to be readable. -/

variable {τ : Type}

theorem tagMember_append {field : String} {access : Access} {tag : Source → Decoded τ}
    {found : Option τ} {others : List (String × Source)} (rest : List (String × Source))
    (hothers : ∀ other ∈ others,
      other.1 ≠ field ∧ (access = .buffered ∨ other.2.isReadable = true)) :
    tagMember field access tag found (others ++ rest) = tagMember field access tag found rest := by
  induction others with
  | nil => rfl
  | cons other others ih =>
      obtain ⟨hname, hvalue⟩ := hothers other List.mem_cons_self
      obtain ⟨name, value⟩ := other
      rw [List.cons_append, tagMember.eq_def]
      dsimp only
      rw [if_neg hname, if_pos hvalue]
      exact ih fun another h => hothers another (List.mem_cons_of_mem _ h)

theorem tagMember_of_perm {field : String} {access : Access} {tag : Source → Decoded τ}
    {value : Source} {t : τ} {members others : List (String × Source)} (ht : tag value = .ok t)
    (hothers : ∀ other ∈ others, other.1 ≠ field ∧ (access = .buffered ∨ other.2.isReadable = true))
    (hperm : members.Perm ((field, value) :: others)) :
    tagMember field access tag none members = .ok (some t) := by
  obtain ⟨before, after, rfl⟩ := List.append_of_mem (hperm.mem_iff.2 List.mem_cons_self)
  have hrest : (before ++ after).Perm others :=
    (List.perm_middle.symm.trans hperm).cons_inv
  have hbefore := fun other (h : other ∈ before) =>
    hothers other (hrest.mem_iff.1 (List.mem_append_left after h))
  have hafter := fun other (h : other ∈ after) =>
    hothers other (hrest.mem_iff.1 (List.mem_append_right before h))
  have hlast : tagMember field access tag (some t) (after ++ []) = .ok (some t) :=
    tagMember_append [] hafter
  rw [List.append_nil] at hlast
  rw [tagMember_append _ hbefore, tagMember, if_pos rfl, ht]
  exact hlast

theorem readable_of_tagMember {field : String} {tag : Source → Decoded τ}
    (htag : ∀ value t, tag value = .ok t → value.isReadable = true)
    {members : List (String × Source)} {found result : Option τ}
    (h : tagMember field .streamed tag found members = .ok result) :
    Source.readableMembers members = true := by
  induction members generalizing found with
  | nil => rfl
  | cons member members ih =>
      obtain ⟨name, value⟩ := member
      rw [Source.readableMembers, Bool.and_eq_true]
      rw [tagMember.eq_def] at h
      dsimp only at h
      split at h
      · cases found with
        | some t => cases h
        | none =>
            obtain ⟨t, ht, h⟩ := bind_eq_ok_iff.1 h
            exact ⟨htag value t ht, ih h⟩
      · split at h
        · next hvalue =>
            exact ⟨hvalue.resolve_left (by decide), ih h⟩
        · cases h

end Wire

end Strata
