import Strata.Predicate.Wire
import Strata.Proofs.Levels
import Strata.Proofs.Recovery

/-!
# Predicates come back as they were written

The three levels of predicates write and read the connectives alike. What they have in common is
`Formula.Codec`: how a decoder takes each connective's only member, and what an encoder makes of
each. Of a codec it follows that a formula is read back if its tests are. Each test is a member
whose value is plain, a record or a predicate of another level, and a layer's predicate may lead
back to its component's, so all tests are read back by one induction.

Nothing is asked of the predicates: they need not be in any normal form.
-/

namespace Strata

open Wire (Decoded Recovers alone kept)

/-! ## Connectives -/

/-- The recursion that encodes. -/
def Formula.encoding : Recursion Json (List Json) where
  const value := single "Const" (.bool value)
  and parts := single "And" (.arr parts)
  or parts := single "Or" (.arr parts)
  not inner := single "Not" inner
  nil := []
  cons := List.cons

/-- The recursion that makes formulas of formulas. -/
def Formula.rebuilding (α : Type) : Recursion (Formula α) (List (Formula α)) where
  const := .const
  and := .and
  or := .or
  not := .not
  nil := []
  cons := List.cons

theorem Formula.rebuilding_defines_id (α : Type) :
    (rebuilding α).Defines id id :=
  ⟨fun _ => rfl, fun _ => rfl, fun _ => rfl, fun _ => rfl, rfl, fun _ _ => rfl⟩

/-- How parts of a connective are read, if a function takes the items of a list one by one. -/
def Formula.decodeParts {α β : Type} (decodeEach : List Source → Decoded (List (Formula α)))
    (make : List (Formula α) → β) : Source → Decoded β
  | .arr items stop => do
    let parts ← decodeEach items
    Wire.atEnd stop (.ok (make parts))
  | value => Wire.mismatch value .list

/-- How the connectives of a level are read and written. -/
structure Formula.Codec {α : Type} (decode : Source → Decoded (Formula α))
    (decodeEach : List Source → Decoded (List (Formula α))) (encode : Formula α → Json)
    (encodeEach : List (Formula α) → List Json) : Prop where
  unreadable : decode (.obj [] .unreadable) = .error .malformed
  decode_const : ∀ value, decode (.obj [("Const", value)] .closed)
    = alone [] .closed (.const <$> Wire.boolean value)
  decode_and : ∀ value, decode (.obj [("And", value)] .closed)
    = alone [] .closed (decodeParts decodeEach .and value)
  decode_or : ∀ value, decode (.obj [("Or", value)] .closed)
    = alone [] .closed (decodeParts decodeEach .or value)
  decode_not : ∀ value, decode (.obj [("Not", value)] .closed)
    = alone [] .closed (.not <$> decode value)
  decode_nil : decodeEach [] = .ok []
  decode_cons : ∀ item rest, decodeEach (item :: rest) = do
    let part ← decode item
    let more ← decodeEach rest
    return part :: more
  encodes : encoding.Defines encode encodeEach

namespace Formula.Codec

variable {α : Type} {decode : Source → Decoded (Formula α)}
  {decodeEach : List Source → Decoded (List (Formula α))} {encode : Formula α → Json}
  {encodeEach : List (Formula α) → List Json} (codec : Codec decode decodeEach encode encodeEach)

include codec

theorem decodeEach_eq (items : List Source) : decodeEach items = Wire.each decode items := by
  induction items with
  | nil => exact codec.decode_nil
  | cons item items ih => rw [codec.decode_cons, ih, Wire.each]

theorem decodeParts_eq {β : Type} (make : List (Formula α) → β) (value : Source) :
    decodeParts decodeEach make value = make <$> Wire.list decode value := by
  cases value with
  | arr items stop =>
      rw [decodeParts, codec.decodeEach_eq, Wire.list]
      cases Wire.each decode items with
      | error fault => rfl
      | ok parts => cases stop <;> rfl
  | _ => rfl

theorem decode_and_list (value : Source) :
    decode (.obj [("And", value)] .closed) = alone [] .closed (.and <$> Wire.list decode value) := by
  rw [codec.decode_and, codec.decodeParts_eq]

theorem decode_or_list (value : Source) :
    decode (.obj [("Or", value)] .closed) = alone [] .closed (.or <$> Wire.list decode value) := by
  rw [codec.decode_or, codec.decodeParts_eq]

/-- A connective is read back if its parts are. -/
theorem carries_recovers :
    Recursion.Carries (Recovers decode) (List.Forall₂ (Recovers decode)) encoding (rebuilding α)
    where
  const value := .single codec.decode_const codec.unreadable ((Recovers.bool value).map _)
  and h := .single codec.decode_and_list codec.unreadable ((Recovers.arr h).map _)
  or h := .single codec.decode_or_list codec.unreadable ((Recovers.arr h).map _)
  not h := .single codec.decode_not codec.unreadable (h.map _)
  nil := .nil
  cons := .cons

/-- A formula is read back if its tests are. -/
theorem recovers {formula : Formula α}
    (htests : formula.EachTest fun test => Recovers decode (encode (.atom test)) (.atom test)) :
    Recovers decode (encode formula) formula :=
  codec.carries_recovers.relates codec.encodes (rebuilding_defines_id α) htests

end Formula.Codec

/-! ## Tests of texts, and targets -/

theorem TextTest.recovers (test : TextTest) : Recovers decode test.encode test := by
  cases test with
  | equals value => exact .single (fun _ => rfl) rfl ((Recovers.str value).map _)
  | notEquals value => exact .single (fun _ => rfl) rfl ((Recovers.str value).map _)
  | like pattern => exact .single (fun _ => rfl) rfl ((Recovers.str pattern).map _)

theorem DiffTargets.recovers (targets : DiffTargets) :
    Recovers decode targets.encode targets := by
  cases targets with
  | lowerOrdinal => exact .of_depth_eq_zero rfl rfl rfl
  | solutions names => exact .single (fun _ => rfl) rfl ((Recovers.strings names).map _)

/-! ## Predicates about attributes -/

namespace AttributePredicate

theorem codec : Formula.Codec decode decodeEach encode encodeEach where
  unreadable := rfl
  decode_const _ := rfl
  decode_and value := by
    rw [decode.eq_def]
    rfl
  decode_or value := by
    rw [decode.eq_def]
    rfl
  decode_not _ := rfl
  decode_nil := rfl
  decode_cons _ _ := rfl
  encodes := ⟨fun _ => rfl, fun _ => rfl, fun _ => rfl, fun _ => rfl, rfl, fun _ _ => rfl⟩

end AttributePredicate

theorem AttributeTest.recovers (test : AttributeTest) :
    Recovers AttributePredicate.decode test.encode (.atom test) := by
  have hunreadable := AttributePredicate.codec.unreadable
  cases test with
  | name test => exact .single (fun _ => rfl) hunreadable (test.recovers.map _)
  | value test => exact .single (fun _ => rfl) hunreadable (test.recovers.map _)
  | typeIs type => exact .single (fun _ => rfl) hunreadable ((Recovers.tag type).map _)
  | changed value => exact .single (fun _ => rfl) hunreadable ((Recovers.bool value).map _)
  | nameIn names => exact .single (fun _ => rfl) hunreadable ((Recovers.strings names).map _)

theorem AttributePredicate.recovers (predicate : AttributePredicate) :
    Recovers decode (encode predicate) predicate :=
  codec.recovers fun test _ => test.recovers

/-! ## Tests that are records -/

theorem ComponentTest.recovers_field (column : ComponentField) (test : TextTest) :
    Recovers (fieldLayout.decode .streamed)
      (.obj [("field", Wire.Tag.encode column), ("test", test.encode)]) (.field column test) := by
  have htakes : fieldLayout.Takes fieldLayout.draft
      [("field", Wire.Tag.encode column), ("test", test.encode)] (some column, some test) :=
    .cons ((Recovers.tag column).bind_pure _) (.cons (test.recovers.bind_pure _) (.nil _))
  exact .record htakes rfl (by decide) rfl

theorem LayerTest.recovers_solution (column : LayerField) (test : TextTest) :
    Recovers (solutionLayout.decode .streamed)
      (.obj [("field", Wire.Tag.encode column), ("test", test.encode)])
      (.solution column test) := by
  have htakes : solutionLayout.Takes solutionLayout.draft
      [("field", Wire.Tag.encode column), ("test", test.encode)] (some column, some test) :=
    .cons ((Recovers.tag column).bind_pure _) (.cons (test.recovers.bind_pure _) (.nil _))
  exact .record htakes rfl (by decide) rfl

theorem LayerTest.recovers_differs (candidates : AttributePredicate) (logic : MatchLogic)
    (targets : DiffTargets) :
    Recovers (differsLayout.decode .streamed)
      (.obj [("candidates", AttributePredicate.encode candidates),
        ("logic", Wire.Tag.encode logic), ("targets", targets.encode)])
      (.differs candidates logic targets) := by
  have htakes : differsLayout.Takes differsLayout.draft
      [("candidates", AttributePredicate.encode candidates),
        ("logic", Wire.Tag.encode logic), ("targets", targets.encode)]
      ⟨some candidates, some logic, some targets⟩ :=
    .cons ((AttributePredicate.recovers candidates).bind_pure _)
      (.cons ((Recovers.tag logic).bind_pure _) (.cons (targets.recovers.bind_pure _) (.nil _)))
  exact .record htakes rfl (by decide) rfl

/-! ## Predicates about components and layers -/

namespace ComponentPredicate

theorem codec : Formula.Codec decode decodeEach encode encodeEach where
  unreadable := rfl
  decode_const _ := rfl
  decode_and value := by
    rw [decode.eq_def]
    rfl
  decode_or value := by
    rw [decode.eq_def]
    rfl
  decode_not _ := rfl
  decode_nil := rfl
  decode_cons _ _ := rfl
  encodes := ⟨fun _ => rfl, fun _ => rfl, fun _ => rfl, fun _ => rfl, rfl, fun _ _ => rfl⟩

end ComponentPredicate

namespace LayerPredicate

theorem codec : Formula.Codec decode decodeEach encode encodeEach where
  unreadable := rfl
  decode_const _ := rfl
  decode_and value := by
    rw [decode.eq_def]
    rfl
  decode_or value := by
    rw [decode.eq_def]
    rfl
  decode_not _ := rfl
  decode_nil := rfl
  decode_cons _ _ := rfl
  encodes := ⟨fun _ => rfl, fun _ => rfl, fun _ => rfl, fun _ => rfl, rfl, fun _ _ => rfl⟩

end LayerPredicate

theorem tests_recover :
    (∀ test : ComponentTest, Recovers ComponentPredicate.decode test.encode (.atom test)) ∧
    ∀ test : LayerTest, Recovers LayerPredicate.decode test.encode (.atom test) := by
  refine tests_induction (fun test ih => ?_) (fun test ih => ?_)
  · cases test with
    | field column test =>
        exact .single (fun _ => rfl) rfl ((ComponentTest.recovers_field column test).map _)
    | anyLayer inner =>
        exact .single (fun _ => rfl) rfl ((LayerPredicate.codec.recovers (ih inner rfl)).map _)
  · have hunreadable := LayerPredicate.codec.unreadable
    cases test with
    | solution column test =>
        exact .single (fun _ => rfl) hunreadable ((LayerTest.recovers_solution column test).map _)
    | solutionIn names =>
        exact .single (fun _ => rfl) hunreadable ((Recovers.strings names).map _)
    | managed value => exact .single (fun _ => rfl) hunreadable ((Recovers.bool value).map _)
    | ordinalAbove bound | ordinalBelow bound =>
        exact .single (fun _ => rfl) hunreadable ((Recovers.ordinal bound).map _)
    | anyAttribute inner =>
        exact .single (fun _ => rfl) hunreadable ((AttributePredicate.recovers inner).map _)
    | differs candidates logic targets =>
        exact .single (fun _ => rfl) hunreadable
          ((LayerTest.recovers_differs candidates logic targets).map _)
    | owner inner =>
        exact .single (fun _ => rfl) hunreadable
          ((ComponentPredicate.codec.recovers (ih inner rfl)).map _)

theorem ComponentPredicate.recovers (predicate : ComponentPredicate) :
    Recovers decode (encode predicate) predicate :=
  codec.recovers fun test _ => tests_recover.1 test

theorem LayerPredicate.recovers (predicate : LayerPredicate) :
    Recovers decode (encode predicate) predicate :=
  codec.recovers fun test _ => tests_recover.2 test

/-! ## Whole texts -/

/-- A predicate of any level is read back from its text if the text is not nested too deep, and not
read at all if it is. -/
theorem predicates_read_back :
    (∀ predicate : ComponentPredicate,
      Wire.decodeText ComponentPredicate.decode (ComponentPredicate.encode predicate).render
        = if (ComponentPredicate.encode predicate).depth ≤ maxDepth then .ok predicate
          else .error .malformed) ∧
    (∀ predicate : LayerPredicate,
      Wire.decodeText LayerPredicate.decode (LayerPredicate.encode predicate).render
        = if (LayerPredicate.encode predicate).depth ≤ maxDepth then .ok predicate
          else .error .malformed) ∧
    ∀ predicate : AttributePredicate,
      Wire.decodeText AttributePredicate.decode (AttributePredicate.encode predicate).render
        = if (AttributePredicate.encode predicate).depth ≤ maxDepth then .ok predicate
          else .error .malformed :=
  ⟨fun predicate => (ComponentPredicate.recovers predicate).decodeText_render,
    fun predicate => (LayerPredicate.recovers predicate).decodeText_render,
    fun predicate => (AttributePredicate.recovers predicate).decodeText_render⟩

end Strata
